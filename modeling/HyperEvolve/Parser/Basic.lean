import HyperEvolve.Declaration.Decode
import HyperEvolve.Storage.SystemError
import HyperEvolve.Text.Lines
import HyperEvolve.Text.Utf8

/-!
# Parsers

A parser turns a program text into declarations. Without a command the text is itself a declaration
tree; with one the text is handed to an external program, which answers with the tree.
-/

namespace HyperEvolve

/-- Why a text has no declarations. -/
inductive ParseError where
  | invalidTree (faults : List Tree.Fault)
  | noCommand
  | notFound (program : String)
  | timedOut (command : List String)
  | failed (status : Int) (complaint : String)
deriving DecidableEq, Repr

/-- The message of an error. That of a tree that cannot be decoded ends here; what follows it is a colon
and the faults in the words of whoever shows them. -/
def ParseError.message : ParseError → String
  | .invalidTree _ => "Invalid declaration tree"
  | .noCommand => "No parser command configured"
  | .notFound program => s!"Parser executable not found: {program}"
  | .timedOut command => "Parser timed out: " ++ " ".intercalate command
  | .failed status complaint =>
    let text := Text.trim complaint
    if text.isEmpty then s!"Parser exited with status {status}" else text

/-- A parser fails with an error of its own, or a failure below it passes through. The failures below
are those of the operating system unless a parser knows others. -/
inductive ParserFailure (ε : Type := Escape) where
  | rejected (error : ParseError)
  | escaped (escape : ε)
deriving DecidableEq, Repr

abbrev Parser (ε : Type := Escape) := Text → Except (ParserFailure ε) (List Declaration)

/-- Decodes the text as a declaration tree. -/
def treeParser : Parser := fun text =>
  match parseDeclarations text with
  | .ok ds => .ok ds
  | .error faults => .error (.rejected (.invalidTree faults))

theorem treeParser_eq_ok_iff {t : Text} {ds : List Declaration} :
    treeParser t = .ok ds ↔ parseDeclarations t = .ok ds := by
  rw [treeParser]
  cases parseDeclarations t <;> simp

/-! ## External programs -/

/-- How running a command ends. A program that dies of a signal has the negated number of the signal
as its status. -/
inductive ProcessOutcome where
  | notFound
  | refused (escape : Escape)
  | timedOut
  | exited (status : Int) (stdout stderr : Bytes)
deriving DecidableEq, Repr

/-- Runs a command on its input, for at most the given number of seconds. -/
abbrev Executor := (command : List Text) → (input : Bytes) → (timeout : Option Float) → ProcessOutcome

/-- The output of a program as text: strict UTF-8 with unified line ends. -/
def outputText (bytes : Bytes) : Except ParserFailure String :=
  match Utf8.decode bytes with
  | .ok cs => .ok (String.ofList (Text.unifyNewlines cs))
  | .error fault => .error (.escaped (.undecodable fault))

/-- What the outcome of a command says about the program text. Both output streams must be text,
whatever the status. -/
def readOutcome (command : List Text) : ProcessOutcome → Except ParserFailure (List Declaration)
  | .notFound => .error (.rejected (.notFound (command.headD []).toString))
  | .refused escape => .error (.escaped escape)
  | .timedOut => .error (.rejected (.timedOut (command.map Text.toString)))
  | .exited status stdout stderr => do
    let output ← outputText stdout
    let complaint ← outputText stderr
    if status = 0 then treeParser output else .error (.rejected (.failed status complaint))

/-- Whether the command was started at all. -/
def ProcessOutcome.isStarted : ProcessOutcome → Bool
  | .notFound | .refused _ => false
  | _ => true

/-- Hands the program text to a command. A text without bytes is noticed once the command runs. -/
def runParser (execute : Executor) (command : List Text) (timeout : Option Float) : Parser :=
  fun text =>
    if command.isEmpty then .error (.rejected .noCommand)
    else match Utf8.encodeText text with
      | .ok input => readOutcome command (execute command input timeout)
      | .error fault =>
        let outcome := execute command [] timeout
        if outcome.isStarted then .error (.escaped (.unencodable fault)) else readOutcome command outcome

/-- The parser that a command stands for; an empty command stands for none. -/
def parserFor (execute : Executor) (command : List Text) : Parser :=
  if command.isEmpty then treeParser else runParser execute command none

end HyperEvolve
