/-!
# Shell scripts

The language in which a parser command may be written: words with their quotes and expansions, simple
and compound commands, and redirections. What an expansion stands for is known only when the script
runs.
-/

namespace HyperEvolve

namespace Shell

/-- What `${…}` does with a parameter. `colon` says that an empty parameter counts as an unset one. -/
inductive Action where
  | value
  | length
  | otherwise (colon : Bool)
  | assign (colon : Bool)
  | complain (colon : Bool)
  | alternative (colon : Bool)
  | trim (atEnd longest : Bool)
  | unknown
deriving DecidableEq, Repr

/-- Whether an action is about the value alone, so that there should be one. -/
def Action.needsValue : Action → Bool
  | .value | .length | .trim _ _ => true
  | _ => false

/-- How a file is opened. -/
inductive OpenMode where
  | read
  | write
  /-- Written anew even where files are kept. -/
  | replace
  | append
  | both
deriving DecidableEq, Repr

mutual
/-- A part of a word. What comes out of an expansion is split into fields unless it is quoted. -/
inductive Part where
  | text (s : String)
  | quoted (s : String)
  | parameter (name : String) (action : Action) (word : List Part) (quoted : Bool)
  | command (script : Command) (quoted : Bool)
  | arithmetic (expression : List Part) (quoted : Bool)

inductive Redirection where
  | file (descriptor : Nat) (mode : OpenMode) (target : List Part)
  | duplicate (descriptor : Nat) (target : List Part)
  | here (descriptor : Nat) (body : List Part)

inductive Command where
  | nothing
  | simple (line : Nat) (assignments : List (String × List Part)) (words : List (List Part))
      (redirections : List Redirection)
  | sequence (first second : Command)
  | both (first second : Command)
  | either (first second : Command)
  | negated (body : Command)
  | pipeline (stages : List Command)
  | background (body : Command)
  | subshell (body : Command)
  | redirected (line : Nat) (body : Command) (redirections : List Redirection)
  | choice (condition yes no : Command)
  | loop (untilTrue : Bool) (condition body : Command)
  | each (line : Nat) (name : String) (words : Option (List (List Part))) (body : Command)
  | select (line : Nat) (subject : List Part) (clauses : List (List (List Part) × Command))
  | define (name : String) (body : Command)
end

abbrev Word := List Part

instance : Inhabited Command := ⟨.nothing⟩

/-- A command and what follows it, if anything does. -/
def Command.andThen (first : Command) : Command → Command
  | .nothing => first
  | second => .sequence first second

/-- The text of a word that is written without quotes and expansions. -/
def bareText? : Word → Option String
  | [.text s] => some s
  | _ => none

/-- Whether a part of a word is quoted. -/
def Part.isQuoted : Part → Bool
  | .quoted _ => true
  | .parameter _ _ _ q => q
  | .command _ q => q
  | .arithmetic _ q => q
  | .text _ => false

/-! ## Names -/

def isNameStart (c : Char) : Bool := c.isAlpha || c = '_'

def isNameChar (c : Char) : Bool := c.isAlphanum || c = '_'

def isName (s : String) : Bool :=
  match s.toList with
  | c :: cs => isNameStart c && cs.all isNameChar
  | [] => false

/-- The name and the value in a word that assigns one. -/
def assignment? : Word → Option (String × Word)
  | .text s :: rest =>
    let name := String.ofList (s.toList.takeWhile (· ≠ '='))
    let value := s.toList.drop (name.length + 1)
    if isName name && name.length < s.length then
      some (name, if value.isEmpty then rest else .text (String.ofList value) :: rest)
    else none
  | _ => none

/-- Words that structure a script where a command may begin. -/
def keywords : List String :=
  ["!", "case", "do", "done", "elif", "else", "esac", "fi", "for", "if", "in", "then", "until", "while",
    "\x7b", "\x7d"]

end Shell

end HyperEvolve
