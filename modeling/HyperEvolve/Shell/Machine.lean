import HyperEvolve.Shell.Arithmetic
import HyperEvolve.Shell.Letters
import HyperEvolve.Shell.Pattern
import HyperEvolve.Shell.Reader
import HyperEvolve.Shell.Signal
import HyperEvolve.Shell.Tool

/-!
# Shells at work

The state of a running script: the files and open streams that all processes share, and what belongs
to one shell alone. A command that runs in a shell of its own gets a copy of the latter.
-/

namespace HyperEvolve

namespace Shell

/-- An open end of a stream. -/
inductive Channel where
  /-- Bytes that wait to be read. -/
  | source (rest : Bytes)
  /-- Bytes that were written, the latest ones first, each time with the time of that. -/
  | sink (written : List (Float × Bytes))
  | file (place : Place) (offset : Nat) (append : Bool)
  | void

/-- A command that was started to run beside the script. -/
structure Job where
  id : Nat
  status : Nat
  /-- The time of its end. -/
  ended : Float

structure Machine where
  tree : FileTree
  channels : Array Channel
  /-- How much time has passed. -/
  seconds : Float
  /-- How many more rounds of loops are waited for. -/
  rounds : Nat
  /-- The number for the next process. -/
  nextId : Nat
  /-- Signals on their way, the latest one first, each with the process that it is for. -/
  signals : List (Nat × Nat)
  /-- All that was started to run beside a script. -/
  jobs : List Job

structure Variable where
  /-- None for a variable that is marked and not set. -/
  value : Option String
  exported : Bool
  fixed : Bool

/-- Why the commands that follow are not run. -/
inductive Control where
  | exit
  /-- A fault. It ends the shell too, unless a command that is not special is to blame. -/
  | aborted
  | killed (signal : Nat)
  | returned
  | broken (levels : Nat)
  | continued (levels : Nat)
deriving DecidableEq, Repr

structure Switches where
  /-- The letters of the switches that are on. -/
  letters : List Char
  /-- A pipeline fails when any of its stages does. -/
  joinsFailures : Bool

namespace Switches

def off : Switches := ⟨[], false⟩

/-- A command that fails ends the shell. -/
def stopsOnFailure (s : Switches) : Bool := s.letters.contains 'e'

/-- An unset parameter is a fault. -/
def refusesUnset (s : Switches) : Bool := s.letters.contains 'u'

/-- Patterns are not replaced by file names. -/
def keepsPatterns (s : Switches) : Bool := s.letters.contains 'f'

/-- Commands are shown before they run. -/
def traces (s : Switches) : Bool := s.letters.contains 'x'

/-- Variables are handed on once they have a value. -/
def exportsAll (s : Switches) : Bool := s.letters.contains 'a'

/-- A file that is there is not written anew. -/
def keepsFiles (s : Switches) : Bool := s.letters.contains 'C'

/-- Commands are read and not run. -/
def onlyReads (s : Switches) : Bool := s.letters.contains 'n'

end Switches

structure Interpreter where
  plain : Bool
  name : String
  args : List String
  bindings : List (String × Variable)
  functions : List (String × Command)
  /-- Descriptors with the channels they stand for. -/
  descriptors : List (Nat × Nat)
  /-- The status of the last command. -/
  last : Nat
  /-- The status of the last command whose output has become a part of a word. -/
  substituted : Nat
  switches : Switches
  /-- What is done on a signal, or at the end. -/
  traps : List (Nat × String)
  /-- Variables that the running function has covered, the last one first, with what they were
  before. -/
  covered : List (String × Option Variable)
  /-- How many functions and loops are running. -/
  depth : Nat
  loops : Nat
  line : Nat
  /-- The process of the script. -/
  id : Nat
  /-- The process of this shell, which may be a part of the script alone. -/
  process : Nat
  /-- Jobs of this shell, the latest one first. -/
  jobs : List Nat
  aliases : List (String × String)
  /-- Where the script stands in its options. -/
  options : OptionCursor
  /-- What new files may not be used for. -/
  mask : Nat
  /-- The command of the shell in whose name complaints are made. -/
  speaker : Option String
  control : Option Control

structure World where
  machine : Machine
  shell : Interpreter

abbrev Sh := StateM World

def isNumber (s : String) : Bool := !s.isEmpty && s.toList.all Char.isDigit

def numberOf (s : String) : Nat := (Arithmetic.digitsIn 10 s.toList).1

namespace Sh

def shell : Sh Interpreter := do return (← get).shell

def machine : Sh Machine := do return (← get).machine

def modifyShell (f : Interpreter → Interpreter) : Sh Unit := modify fun w => { w with shell := f w.shell }

def modifyMachine (f : Machine → Machine) : Sh Unit := modify fun w => { w with machine := f w.machine }

def setStatus (n : Nat) : Sh Unit := modifyShell fun s => { s with last := n }

def halt (c : Control) : Sh Unit := modifyShell fun s => { s with control := some c }

def halted : Sh Bool := do return (← shell).control.isSome

/-- Ends the shell with a status. -/
def exit (n : Nat) : Sh Unit := do
  setStatus n
  halt .exit

/-- The script does not come to an end. -/
def runsForever : Sh Unit := do
  modifyMachine fun m => { m with seconds := forever }
  exit 1

/-- Commands nest so deep that the process dies of it. -/
def overflows : Sh Unit := halt (.killed Signal.segmentation)

/-- Repeats work as long as it gives a status for the next round; `rounds` bounds how often. -/
def repeating (work : Nat → Sh (Option Nat)) : (rounds : Nat) → (status : Nat) → Sh Unit
  | 0, _ => runsForever
  | rounds + 1, status => do
    match ← work status with
    | some status => repeating work rounds status
    | none => return

/-- Does work for each of some words as long as it says so. -/
def forEach (work : String → Sh Bool) : List String → Sh Unit
  | [] => return
  | w :: ws => do if ← work w then forEach work ws

/-- Counts a round of a loop. -/
def countRound : Sh Unit := modifyMachine fun m => { m with rounds := m.rounds - 1 }

/-! ## Streams -/

def openChannel (c : Channel) : Sh Nat := do
  let n := (← machine).channels.size
  modifyMachine fun m => { m with channels := m.channels.push c }
  return n

def channelOf (descriptor : Nat) : Sh (Option Nat) := do return (← shell).descriptors.lookup descriptor

def connect (descriptor channel : Nat) : Sh Unit :=
  modifyShell fun s =>
    { s with descriptors := (descriptor, channel) :: s.descriptors.filter (·.1 ≠ descriptor) }

def disconnect (descriptor : Nat) : Sh Unit :=
  modifyShell fun s => { s with descriptors := s.descriptors.filter (·.1 ≠ descriptor) }

def fileContent (t : FileTree) (place : Place) : Bytes :=
  match t.entry? place with
  | some (.file content) => content
  | _ => []

/-- What is left to read. -/
def available (m : Machine) (channel : Nat) : Bytes :=
  match m.channels[channel]? with
  | some (.source rest) => rest
  | some (.file place offset _) => (fileContent m.tree place).drop offset
  | _ => []

def isFile (m : Machine) (channel : Nat) : Bool :=
  match m.channels[channel]? with
  | some (.file _ _ _) => true
  | _ => false

def takeBytes (n : Nat) (m : Machine) (channel : Nat) : Machine :=
  { m with channels := m.channels.modify channel fun
      | .source rest => .source (rest.drop n)
      | .file place offset append => .file place (offset + n) append
      | c => c }

def writeBytes (bs : Bytes) (m : Machine) (channel : Nat) : Machine :=
  match m.channels[channel]? with
  | some (.sink written) =>
    { m with channels := m.channels.setIfInBounds channel (.sink ((m.seconds, bs) :: written)) }
  | some (.file place offset append) =>
    let old := fileContent m.tree place
    let start := if append then old.length else offset
    let padding := List.replicate (start - old.length) (0 : UInt8)
    let new := old.take start ++ padding ++ bs ++ old.drop (start + bs.length)
    { m with
      tree := m.tree.put place (.file new)
      channels := m.channels.setIfInBounds channel (.file place (start + bs.length) append) }
  | _ => m

/-- Writes to a descriptor; what is written to a closed one is lost. -/
def write (descriptor : Nat) (bs : Bytes) : Sh Unit := do
  match ← channelOf descriptor with
  | some ch => modifyMachine fun m => writeBytes bs m ch
  | none => return

/-- All that has been written to a sink, in the order of time. -/
def written (channel : Nat) : Sh Bytes := do
  match (← machine).channels[channel]? with
  | some (.sink written) =>
    return (written.reverse.mergeSort fun a b => a.1 ≤ b.1).flatMap Prod.snd
  | _ => return []

/-! ## Complaints -/

/-- A complaint of the shell itself. -/
def complain (text : String) : Sh Unit := do
  let s ← shell
  let place := if s.plain then s!"{s.line}: " else s!"line {s.line}: "
  let speaker := (s.speaker.map (· ++ ": ")).getD ""
  write 2 (Utf8.encode (s.name ++ ": " ++ place ++ speaker ++ text ++ "\n"))

/-- Makes the complaints of some work in the name of a command. -/
def speakingAs (speaker : Option String) (work : Sh Unit) : Sh Unit := do
  let before := (← shell).speaker
  modifyShell fun s => { s with speaker }
  work
  modifyShell fun s => { s with speaker := before }

/-- A fault that ends what is being done. -/
def abort (text : String) : Sh Unit := do
  complain text
  setStatus 2
  halt .aborted

/-! ## Variables -/

def variableNamed (name : String) : Sh (Option Variable) := do return (← shell).bindings.lookup name

def valueOr (name otherwise : String) : Sh String := do
  return ((← variableNamed name).bind (·.value)).getD otherwise

def putVariable (name : String) (v : Variable) : Sh Unit :=
  modifyShell fun s => { s with bindings := (name, v) :: s.bindings.filter (·.1 ≠ name) }

/-- The variable that says at which word a script goes on with its options. -/
def optionIndex : String := "OPTIND"

/-- Gives a variable a value. A fixed one refuses it. -/
def assign (name value : String) : Sh Unit := do
  let exported := (← shell).switches.exportsAll
  match ← variableNamed name with
  | some v =>
    if v.fixed then abort (name ++ ": is read only")
    else putVariable name { v with value := some value, exported := v.exported || exported }
  | none => putVariable name ⟨some value, exported, false⟩
  if name = optionIndex && (← shell).plain then
    if isNumber value then modifyShell fun s => { s with options := ⟨max 1 (numberOf value), none⟩ }
    else abort ("Illegal number: " ++ value)

def dropVariable (name : String) : Sh Unit :=
  modifyShell fun s => { s with bindings := s.bindings.filter (·.1 ≠ name) }

def restore (saved : List (String × Option Variable)) : Sh Unit :=
  saved.forM fun p => match p.2 with
    | some v => putVariable p.1 v
    | none => dropVariable p.1

/-- The order in which the letters of switches are shown. -/
def switchOrder : List Char := "pubaCEVvxsnmiIfe".toList

/-- The switches that are on, by their letters. -/
def switchLetters (s : Switches) : String := String.ofList (switchOrder.filter s.letters.contains)

/-- The value of a parameter, none when it is not set. -/
def parameter? (name : String) : Sh (Option String) := do
  let s ← shell
  match name with
  | "?" => return some (toString s.last)
  | "$" => return some (toString s.id)
  | "#" => return some (toString s.args.length)
  | "0" => return some s.name
  | "-" => return some (switchLetters s.switches)
  | "@" | "*" => return if s.args.isEmpty then none else some (" ".intercalate s.args)
  | "!" => return s.jobs.head?.map toString
  | _ =>
    match name.toNat? with
    | some n => return s.args[n - 1]?
    | none => return (← variableNamed name).bind (·.value)

/-! ## Separate shells -/

/-- A number for a new process. -/
def newProcess : Sh Nat := do
  let n := (← machine).nextId
  modifyMachine fun m => { m with nextId := n + 1 }
  return n

/-- Runs work in a copy of the shell. Only the machine, without its working directory, and the end of the
process remain. Of the plans for signals the copy keeps those to ignore one. -/
def separately (work : Sh Unit) : Sh Unit := do
  let before ← get
  let process ← newProcess
  modifyShell fun s => { s with traps := s.traps.filter (·.2.isEmpty), loops := 0, depth := 0, process, jobs := [] }
  work
  let after ← get
  let control := match after.shell.control with
    | some (.killed n) => some (.killed n)
    | _ => none
  set { after with
    machine := { after.machine with tree := { after.machine.tree with cwd := before.machine.tree.cwd } }
    shell := { before.shell with last := after.shell.last, control } }

/-- Forgets that a process has died of a signal, but for its status. -/
def settleQuietly : Sh Unit := do
  match (← shell).control with
  | some (.killed n) => modifyShell fun s => { s with last := 128 + n, control := none }
  | _ => return

/-- The same with a word about it. -/
def settle : Sh Unit := do
  match (← shell).control with
  | some (.killed n) =>
    let text := Signal.obituaryOf n
    if !text.isEmpty then write 2 (Utf8.encode (text ++ "\n"))
  | _ => pure ()
  settleQuietly

/-- Runs work with an own output and gives what was written there. -/
def capturing (work : Sh Unit) : Sh Bytes := do
  let ch ← openChannel (.sink [])
  separately do
    connect 1 ch
    work
  let bs ← written ch
  modifyMachine fun m => { m with channels := m.channels.shrink ch }
  return bs

/-- Runs work for what it writes. Its status is kept apart from that of commands. -/
def substituting (work : Sh Unit) : Sh Bytes := do
  let last := (← shell).last
  let bs ← capturing work
  settle
  modifyShell fun s => { s with substituted := s.last, last }
  return bs

end Sh

/-! ## Fields -/

/-- Where a character of an expanded word comes from. -/
inductive Origin where
  | quoted
  | literal
  | expanded
deriving DecidableEq, Repr

/-- What an expanded word is made of: characters, marks of quotes with nothing between them, and ends of
fields between arguments, of which those that are not quoted leave no empty field. -/
inductive Glyph where
  | char (c : Char) (origin : Origin)
  | presence
  | cut
  | gap

def glyphs (origin : Origin) (s : String) : List Glyph := s.toList.map (.char · origin)

/-- The text of glyphs, with a given text between arguments. -/
def glyphText (separator : List Char) (gs : List Glyph) : String :=
  String.ofList (gs.flatMap fun
    | .char c _ => [c]
    | .presence => []
    | .cut | .gap => separator)

def glyphPattern (separator : List Char) (gs : List Glyph) : Pattern :=
  gs.flatMap fun
    | .char c o => [⟨c, o = .quoted⟩]
    | .presence => []
    | .cut | .gap => separator.map fun c => ⟨c, true⟩

/-- What stands between arguments that become one text. -/
def Sh.separator : Sh (List Char) := do return (← Sh.valueOr "IFS" " \t\n").toList.take 1

/-- Fields that are being cut out of a word. -/
structure Cutter where
  /-- In reverse. -/
  fields : List Pattern
  /-- The field under way, in reverse, if one has begun. -/
  current : Option Pattern
  /-- Whether a blank has ended the last field. -/
  blankBefore : Bool

def isBlankSeparator (c : Char) : Bool := c = ' ' || c = '\t' || c = '\n'

def Cutter.finish (k : Cutter) : Cutter :=
  { k with fields := ((k.current.getD []).reverse) :: k.fields, current := none }

def Cutter.step (separators : List Char) (k : Cutter) : Glyph → Cutter
  | .presence => { k with current := some (k.current.getD []), blankBefore := false }
  | .cut => { k.finish with blankBefore := false }
  | .gap => if k.current.isSome then { k.finish with blankBefore := true } else k
  | .char c origin =>
    if origin = .expanded && separators.contains c then
      if isBlankSeparator c then
        if k.current.isSome then { k.finish with blankBefore := true } else k
      else if k.current.isNone && k.blankBefore then { k with blankBefore := false }
      else { k.finish with blankBefore := false }
    else
      { k with current := some (⟨c, origin = .quoted⟩ :: k.current.getD []), blankBefore := false }

/-- The fields of an expanded word. -/
def cutFields (separators : List Char) (gs : List Glyph) : List Pattern :=
  let k := gs.foldl (Cutter.step separators) ⟨[], none, false⟩
  (if k.current.isSome then k.finish else k).fields.reverse

def Pattern.text (p : Pattern) : String := String.ofList (p.map PatternChar.char)

/-- The pieces of a pattern between separators. -/
def Pattern.pieces (p : Pattern) : List Pattern :=
  p.foldr (fun c acc =>
    match acc with
    | q :: qs => if c.char = '/' then [] :: q :: qs else (c :: q) :: qs
    | [] => [[c]]) [[]]

/-- Names in a directory that a pattern fits; hidden ones need a dot in the pattern. -/
def fittingNames (t : FileTree) (directory : String) (p : Pattern) : List String :=
  let path := Path.ofString (if directory.isEmpty then "." else directory)
  match t.locate path with
  | .error _ => []
  | .ok place =>
    let hidden := p.head?.any fun c => c.char = '.'
    let names := (t.children place).filter fun n =>
      (hidden || !n.startsWith ".") && p.fits n.toList
    names.mergeSort fun a b => a ≤ b

/-- The paths that a pattern fits, piece by piece. -/
def expandPieces (t : FileTree) : (found : List String) → List Pattern → List String
  | found, [] => found
  | found, p :: ps =>
    let last := ps.isEmpty
    let next := found.flatMap fun base =>
      if p.isActive then (fittingNames t base p).map (base ++ ·)
      else
        let name := base ++ p.text
        match entryAt t (if name.isEmpty then "/" else name) with
        | .ok _ => [name]
        | .error _ => []
    expandPieces t (if last then next else next.map (· ++ "/")) ps

/-- What a field stands for: the files that it fits, or itself. -/
def expandField (t : FileTree) (keep : Bool) (p : Pattern) : List String :=
  if keep || !p.isActive then [p.text]
  else
    let found := expandPieces t [""] p.pieces
    if found.isEmpty then [p.text] else found

end Shell

end HyperEvolve
