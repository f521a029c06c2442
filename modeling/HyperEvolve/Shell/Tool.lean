import HyperEvolve.Shell.Quote
import HyperEvolve.Storage.FileTree

/-!
# Tools

A tool is a function of how it is called: its arguments, the input it may read and the files there
are. What it does is a value: what it writes to its two streams, how much input it takes, the files
after it, the time it takes and its status.
-/

namespace HyperEvolve

namespace Shell

inductive Stream where
  | output
  | complaints
deriving DecidableEq, Repr

/-- How a tool is called. -/
structure Call where
  name : String
  args : List String
  /-- What there is to read on the input. -/
  input : Bytes
  /-- Whether the input is a file, in which a tool can step back. -/
  seekable : Bool
  tree : FileTree

structure Effect where
  /-- What is written, in order. -/
  writes : List (Stream × Bytes)
  /-- How many bytes of the input are taken. -/
  used : Nat
  tree : FileTree
  seconds : Float
  status : Nat

abbrev Tool := Call → Effect

/-- Time without end. -/
def forever : Float := 1e300

namespace Effect

/-- Nothing read, nothing written. -/
def quiet (c : Call) (status : Nat) : Effect := ⟨[], 0, c.tree, 0, status⟩

def write (e : Effect) (bs : Bytes) : Effect := { e with writes := e.writes ++ [(.output, bs)] }

def complain (e : Effect) (text : String) (status : Nat) : Effect :=
  { e with writes := e.writes ++ [(.complaints, Utf8.encode (text ++ "\n"))], status }

/-- Takes all input. -/
def drain (e : Effect) (c : Call) : Effect := { e with used := c.input.length }

end Effect

namespace Call

/-- A complaint that carries the name of the tool. -/
def fails (c : Call) (text : String) (status : Nat) : Effect :=
  (Effect.quiet c status).complain (c.name ++ ": " ++ text) status

def hint (c : Call) : String := "\nTry '" ++ c.name ++ " --help' for more information."

/-- Writes output and takes no input. -/
def writes (c : Call) (bs : Bytes) : Effect := (Effect.quiet c 0).write bs

end Call

/-! ## Files -/

/-- The entry that a path of a command line leads to. Only a directory may be followed by a
separator. -/
def entryAt (t : FileTree) (name : String) : Except Errno Entry := do
  if name.isEmpty then throw .noEntry
  let e ← t.look (Path.ofString name)
  if name.endsWith "/" && e ≠ .directory then throw .notDirectory
  return e

/-- The content of a file. -/
def contentAt (t : FileTree) (name : String) : Except Errno Bytes := entryAt t name >>= FileTree.contentOf

/-- Replaces or creates a file. -/
def storeAt (t : FileTree) (name : String) (content : Bytes) : Except Errno FileTree := do
  if name.isEmpty then throw .noEntry
  let place ← t.locate (Path.ofString name)
  if name.endsWith "/" then throw .isDirectory
  t.store place content

/-- Names that stand for the input of a tool. -/
def inputNames : List String := ["-", "/dev/stdin", "/dev/fd/0", "/proc/self/fd/0"]

/-- The contents of operands, the input when there is none. The input can be read once. -/
def operandContents (c : Call) (operands : List String) : List (String × Except Errno Bytes) × Nat :=
  let operands := if operands.isEmpty then ["-"] else operands
  let step (acc : List (String × Except Errno Bytes) × Nat) (name : String) :=
    if inputNames.contains name then
      (acc.1 ++ [(name, .ok (c.input.drop acc.2))], c.input.length)
    else (acc.1 ++ [(name, contentAt c.tree name)], acc.2)
  operands.foldl step ([], 0)

/-- The contents of all operands that can be read, one after the other, and the complaints about the
others. -/
def gather (c : Call) (operands : List String) (complaint : String → Errno → String) (status : Nat) :
    Bytes × Effect :=
  let (contents, used) := operandContents c operands
  let start : Bytes × Effect := ([], { Effect.quiet c 0 with used })
  contents.foldl (fun acc x =>
    match x.2 with
    | .ok bs => (acc.1 ++ bs, acc.2)
    | .error e => (acc.1, acc.2.complain (c.name ++ ": " ++ complaint x.1 e) status)) start

/-- The usual complaint about a file. -/
def fileComplaint (name : String) (e : Errno) : String := quotedName name ++ ": " ++ e.text

/-! ## Lines -/

/-- The lines of a text, each with its line end if it has one. -/
def splitLines (bs : Bytes) : List Bytes :=
  let (lines, last) := bs.foldl (fun (acc : List Bytes × Bytes) b =>
    if b = 10 then ((b :: acc.2).reverse :: acc.1, []) else (acc.1, b :: acc.2)) ([], [])
  (if last.isEmpty then lines else last.reverse :: lines).reverse

/-- A line without its line end. -/
def chomp (line : Bytes) : Bytes := if line.getLast? = some 10 then line.dropLast else line

def text (bs : Bytes) : String := String.ofList (Utf8.decodeLossy bs)

/-! ## Options -/

/-- Whether an option takes a value. A value that may be left out stands in the same word. -/
inductive Takes where
  | nothing
  | value
  | maybe
deriving DecidableEq, Repr

/-- An option of a tool: its letter, its long name, and whether it takes a value. One without a long
name has a letter alone. -/
structure OptionRule where
  letter : Char
  long : String
  takes : Takes

/-- Options given, in order, and the operands. -/
structure Options where
  given : List (Char × String)
  operands : List String

def Options.has (o : Options) (c : Char) : Bool := o.given.any (·.1 = c)

/-- The value of an option that was given last. -/
def Options.value? (o : Options) (c : Char) : Option String := o.given.reverse.lookup c

/-- All values of an option. -/
def Options.values (o : Options) (c : Char) : List String := (o.given.filter (·.1 = c)).map Prod.snd

/-- Flags by their letters alone. -/
def flags (letters : String) : List OptionRule := letters.toList.map fun c => ⟨c, "", .nothing⟩

/-- Options with a value by their letters alone. -/
def valued (letters : String) : List OptionRule := letters.toList.map fun c => ⟨c, "", .value⟩

/-- The letter for the option that asks for help, which cannot be written. -/
def helpLetter : Char := '\x01'

/-- Options that every tool has. They end the reading of others. -/
def commonRules : List OptionRule := [⟨helpLetter, "help", .nothing⟩, ⟨helpLetter, "version", .nothing⟩]

/-- The options in one word of letters, with the words after it. -/
def clusterOptions (rules : List OptionRule) : List Char → List String →
    Except String (List (Char × String) × List String)
  | [], rest => .ok ([], rest)
  | c :: cs, rest =>
    match rules.find? (·.letter = c) with
    | none => .error s!"invalid option -- '{String.singleton c}'"
    | some r =>
      match r.takes with
      | .nothing => (clusterOptions rules cs rest).map fun r => ((c, "") :: r.1, r.2)
      | .maybe => .ok ([(c, String.ofList cs)], rest)
      | .value =>
        if !cs.isEmpty then .ok ([(c, String.ofList cs)], rest)
        else match rest with
          | v :: rest => .ok ([(c, v)], rest)
          | [] => .error s!"option requires an argument -- '{String.singleton c}'"

/-- A long option, which may be shortened as far as it stays the only one, with the words after it. -/
def longOption (rules : List OptionRule) (word : String) (rest : List String) :
    Except String (List (Char × String) × List String) :=
  let name := String.ofList ((word.toList.drop 2).takeWhile (· ≠ '='))
  let value? := if word.toList.contains '=' then some (String.ofList (word.toList.drop (name.length + 3)))
    else none
  let exact := rules.filter (·.long = name)
  let found := if exact.isEmpty then rules.filter fun r => r.long ≠ "" && r.long.startsWith name else exact
  match found with
  | [] => .error s!"unrecognized option '{word}'"
  | r :: others =>
    if others.any fun q => q.letter ≠ r.letter || q.takes ≠ r.takes then
      .error (s!"option '{word}' is ambiguous; possibilities:" ++
        String.join (found.map fun r => s!" '--{r.long}'"))
    else match r.takes, value?, rest with
      | .nothing, none, _ => .ok ([(r.letter, "")], rest)
      | .nothing, some _, _ => .error s!"option '--{r.long}' doesn't allow an argument"
      | .maybe, v, _ => .ok ([(r.letter, v.getD "")], rest)
      | .value, some v, _ => .ok ([(r.letter, v)], rest)
      | .value, none, v :: rest => .ok ([(r.letter, v)], rest)
      | .value, none, [] => .error s!"option '--{r.long}' requires an argument"

/-- Reads options, which may stand among the operands unless only leading ones count; `fuel` bounds the
number of words. -/
def optionsWithin (rules : List OptionRule) (leading : Bool) : (fuel : Nat) → List String → Except String Options
  | 0, ws => .ok ⟨[], ws⟩
  | _ + 1, [] => .ok ⟨[], []⟩
  | fuel + 1, w :: ws => do
    if w = "--" then return ⟨[], ws⟩
    else if !w.startsWith "-" || w = "-" then
      if leading then return ⟨[], w :: ws⟩
      let o ← optionsWithin rules leading fuel ws
      return { o with operands := w :: o.operands }
    else
      let (given, rest) ← if w.startsWith "--" then longOption rules w ws
        else clusterOptions rules (w.toList.drop 1) ws
      if given.any (·.1 = helpLetter) then return ⟨given, []⟩
      let o ← optionsWithin rules leading fuel rest
      return { o with given := given ++ o.given }

def readOptions (rules : List OptionRule) (args : List String) : Except String Options :=
  optionsWithin (rules ++ commonRules) false (args.length + 1) args

/-- Reads options up to the first operand. -/
def leadingOptions (rules : List OptionRule) (args : List String) : Except String Options :=
  optionsWithin (rules ++ commonRules) true (args.length + 1) args

/-- What a tool writes when it is asked for help. -/
def Call.help (c : Call) : Effect := c.writes (Utf8.encode ("Usage: " ++ c.name ++ " [OPTION]...\n"))

/-- Runs a tool on options that were read; a wrong one ends it. -/
def Call.onOptions (c : Call) (options : Except String Options) (status : Nat) (run : Options → Effect) :
    Effect :=
  match options with
  | .ok o => if o.has helpLetter then c.help else run o
  | .error text => c.fails (text ++ c.hint) status

def Call.withOptions (c : Call) (rules : List OptionRule) (status : Nat) (run : Options → Effect) :
    Effect := c.onOptions (readOptions rules c.args) status run

def Call.withLeadingOptions (c : Call) (rules : List OptionRule) (status : Nat) (run : Options → Effect) :
    Effect := c.onOptions (leadingOptions rules c.args) status run

end Shell

end HyperEvolve
