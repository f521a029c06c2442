import HyperEvolve.Shell.Builtin.Line
import HyperEvolve.Shell.Builtin.Meaning
import HyperEvolve.Shell.Condition
import HyperEvolve.Shell.Invocation

/-!
# Commands of the shell itself

Commands that act on the shell that runs them. Those that run other commands belong to the evaluator.
-/

namespace HyperEvolve

namespace Shell

open Sh

/-- The number that a word stands for, none if it is too large for a status. -/
def count? (word : String) : Option Nat :=
  if isNumber word && numberOf word < 0x80000000 then some (numberOf word) else none

def illegalNumber (word : String) : Sh Unit := abort ("Illegal number: " ++ word)

/-- A text in quotes from which a shell reads it back. -/
def quotedText (s : String) : String := "'" ++ String.intercalate "'\"'\"'" (s.splitOn "'") ++ "'"

def say (line : String) : Sh Unit := write 1 (Utf8.encode (line ++ "\n"))

/-- The place of a name that a word may give a value to, and the value. -/
def splitAssignment (word : String) : String × Option String :=
  let name := word.toList.takeWhile (· ≠ '=')
  match word.toList.drop name.length with
  | _ :: value => (String.ofList name, some (String.ofList value))
  | [] => (word, none)

namespace Builtin

/-- Reads the options of a command and goes on with them and the operands. -/
def withLetters (known : String) (args : List String) (work : List Letter → List String → Sh Unit) : Sh Unit :=
  match leadingLetters known args with
  | .ok (letters, operands) => work letters operands
  | .error fault => abort fault.message

def hasLetter (letters : List Letter) (c : Char) : Bool := letters.any (·.1 = c)

/-! ## Output and conditions -/

def echo (args : List String) : Sh Unit := do
  write 1 (echoed (if (← shell).plain then plainEcho else toolEcho) args)
  setStatus 0

def printf (args : List String) : Sh Unit := do
  let dialect := if (← shell).plain then Format.plain else Format.tool
  withLetters "" args fun _ operands => do
    match operands with
    | [] => abort "usage: printf format [arg ...]"
    | format :: rest =>
      let (bs, complaints, status) := Format.write dialect format rest
      write 1 bs
      complaints.forM fun t => complain t
      setStatus status

def test (name : String) (args : List String) : Sh Unit := do
  let words := if name = "[" then args.dropLast else args
  if name = "[" && args.getLast? ≠ some "]" then abort "missing ]"
  else match Condition.holds (← machine).tree words with
    | .ok b => setStatus (if b then 0 else 1)
    | .error f => abort f.message

/-! ## Leaving -/

def exit (args : List String) : Sh Unit := do
  match args with
  | [] => halt .exit
  | a :: _ =>
    match count? a with
    | some n => Sh.exit (n % 256)
    | none => illegalNumber a

def leaveFunction (args : List String) : Sh Unit := do
  let outside := (← shell).depth = 0
  match args with
  | [] => halt (if outside then .exit else .returned)
  | a :: _ =>
    match count? a with
    | some n =>
      setStatus (if outside then n % 256 else n)
      halt (if outside then .exit else .returned)
    | none => illegalNumber a

/-- Leaves loops, or goes on with the next round of one. -/
def leaveLoops (control : Nat → Control) (args : List String) : Sh Unit := do
  let loops := (← shell).loops
  let leave (n : Nat) : Sh Unit := do
    setStatus 0
    if loops ≠ 0 then halt (control (min n loops))
  match args with
  | [] => leave 1
  | a :: _ =>
    match count? a with
    | some (n + 1) => leave (n + 1)
    | _ => illegalNumber a

/-! ## The working directory -/

/-- Whether a name leads to a directory. -/
def isDirectory (t : FileTree) (name : String) : Bool :=
  match entryAt t name with
  | .ok .directory => true
  | _ => false

/-- The directory that a name means: below one of those in which directories are looked for, if it says
nothing about its place. -/
def directoryNamed (name : String) : Sh (String × Bool) := do
  let t := (← machine).tree
  let bases := ((← valueOr "CDPATH" "").splitOn ":").filter (!·.isEmpty)
  if name.startsWith "/" || name.startsWith "." then return (name, false)
  match (bases.map (· ++ "/" ++ name)).find? (isDirectory t) with
  | some path => return (path, true)
  | none => return (name, false)

def cd (args : List String) : Sh Unit :=
  withLetters "LP" args fun _ operands => do
    let t := (← machine).tree
    let given ← match operands.head? with
      | none => valueOr "HOME" ""
      | some "-" => valueOr "OLDPWD" (Path.ofNames t.cwd).toString
      | some target => pure target
    let (target, found) ← directoryNamed (if given.isEmpty then "." else given)
    match entryAt t target, t.locate (Path.ofString target) with
    | .ok .directory, .ok place =>
      modifyMachine fun m => { m with tree := { m.tree with cwd := place } }
      assign "OLDPWD" (Path.ofNames t.cwd).toString
      assign "PWD" (Path.ofNames place).toString
      if found || operands.head? = some "-" then say (Path.ofNames place).toString
      setStatus 0
    | _, _ => abort ("can't cd to " ++ given)

def pwd (args : List String) : Sh Unit :=
  withLetters "LP" args fun _ _ => do
    say (Path.ofNames (← machine).tree.cwd).toString
    setStatus 0

/-! ## Variables -/

/-- Lists the variables of a class as commands that make them. -/
def listVariables (command : String) (p : Variable → Bool) : Sh Unit := do
  let vs := (← shell).bindings.filter fun v => p v.2
  (vs.mergeSort fun a b => a.1 ≤ b.1).forM fun v =>
    say (command ++ " " ++ v.1 ++ ((v.2.value.map fun x => "=" ++ quotedText x).getD ""))
  setStatus 0

/-- Assigns variables and marks them, or lists those that are marked. -/
def mark (command : String) (isMarked : Variable → Bool) (f : Variable → Variable) (args : List String) : Sh Unit :=
  withLetters "p" args fun letters operands => do
    if hasLetter letters 'p' || operands.isEmpty then listVariables command isMarked
    else
      operands.forM fun word => do
        let (name, value) := splitAssignment word
        if ← halted then return
        if !isName name then abort (name ++ ": bad variable name")
        else
          match value with
          | some v => assign name v
          | none => pure ()
          if !(← halted) then putVariable name (f ((← variableNamed name).getD ⟨none, false, false⟩))
      if !(← halted) then setStatus 0

/-- Covers variables until the running function ends. -/
def cover (args : List String) : Sh Unit := do
  if (← shell).depth = 0 then abort "not in a function"
  else
    args.forM fun word => do
      let (name, value) := splitAssignment word
      if ← halted then return
      if !isName name then abort (name ++ ": bad variable name")
      else
        let old ← variableNamed name
        modifyShell fun s => { s with covered := (name, old) :: s.covered }
        match value with
        | some v => assign name v
        | none => pure ()
    if !(← halted) then setStatus 0

def unset (args : List String) : Sh Unit :=
  withLetters "vf" args fun letters operands => do
    let functions := (letters.getLast?.map Prod.fst) = some 'f'
    operands.forM fun name => do
      if ← halted then return
      if functions then modifyShell fun s => { s with functions := s.functions.filter (·.1 ≠ name) }
      else if !isName name then abort (name ++ ": bad variable name")
      else if ((← variableNamed name).map (·.fixed)).getD false then abort (name ++ ": is read only")
      else dropVariable name
    if !(← halted) then setStatus 0

/-- Gives the script new arguments, of which no option has been read. -/
def setArguments (args : List String) : Sh Unit := modifyShell fun s => { s with args, options := .start }

def shift (args : List String) : Sh Unit := do
  let drop (n : Nat) : Sh Unit := do
    let all := (← shell).args
    if all.length < n then abort "can't shift that many"
    else
      setArguments (all.drop n)
      setStatus 0
  match args with
  | [] => drop 1
  | a :: _ =>
    match count? a with
    | some n => drop n
    | none => illegalNumber a

/-- Changes switches and arguments. -/
def set (args : List String) : Sh Unit := do
  let s ← shell
  match readSwitches s.plain false ⟨s.switches, false, []⟩ args with
  | .ok (start, rest) =>
    start.listed.forM fun table =>
      write 1 (Utf8.encode (if table then s.switches.table else s.switches.script))
    modifyShell fun s => { s with switches := start.switches }
    match rest with
    | some args => setArguments args
    | none => pure ()
    setStatus 0
  | .error e => abort e

/-- Reads a line of the input into variables. -/
def read (args : List String) : Sh Unit :=
  withLetters "p:r" args fun letters operands => do
    let plain := (← shell).plain
    let names := if operands.isEmpty && !plain then ["REPLY"] else operands
    if names.isEmpty then abort "arg count"
    else match ← channelOf 0 with
      | none => setStatus 1
      | some ch =>
        let (line, n, ended) := readLine (hasLetter letters 'r') (available (← machine) ch)
        modifyMachine fun m => takeBytes n m ch
        let separators := (← valueOr "IFS" " \t\n").toList
        (names.zip (readFields separators names.length (markedChars line))).forM fun p => do
          if ← halted then return
          if isName p.1 then assign p.1 p.2 else abort (p.1 ++ ": bad variable name")
        if !(← halted) then setStatus (if ended then 0 else 1)

/-- Reads the next option of the script, or of the words that are given. -/
def getopts (args : List String) : Sh Unit :=
  withLetters "" args fun _ operands => do
    match operands with
    | known :: name :: words =>
      let s ← shell
      let step := nextOption known.toList (if words.isEmpty then s.args else words) s.options
      match step.complaint with
      | some text => write 2 (Utf8.encode (text ++ "\n"))
      | none => pure ()
      match step.value with
      | some (some v) => assign "OPTARG" v
      | some none => dropVariable "OPTARG"
      | none => pure ()
      assign optionIndex (toString step.cursor.next)
      if isName name then assign name (String.singleton step.letter) else abort (name ++ ": bad variable name")
      modifyShell fun s => { s with options := step.cursor }
      if !(← halted) then setStatus (if step.ended then 1 else 0)
    | _ => abort "Usage: getopts optstring var [arg...]"

/-! ## Names -/

/-- Says what names mean. -/
def type (args : List String) : Sh Unit := do
  setStatus 0
  args.forM fun w => do
    let m ← meaningOf w
    say (m.text w)
    if !m.isSomething then setStatus 127

/-- Says what would run under a name. -/
def find (verbose : Bool) (args : List String) : Sh Unit := do
  match args with
  | [] => setStatus 0
  | w :: _ =>
    let m ← meaningOf w
    let text := if verbose then m.text w else match m with
      | .program path => path
      | .nickname text => "alias " ++ w ++ "=" ++ quotedText text
      | _ => w
    if verbose || m.isSomething then say text
    setStatus (if m.isSomething then 0 else 127)

/-- Lets names stand for other text, or says what they stand for. -/
def changeAliases (args : List String) : Sh Unit := do
  let shown (a : String × String) : Sh Unit := say (a.1 ++ "=" ++ quotedText a.2)
  setStatus 0
  if args.isEmpty then (← shell).aliases.forM shown
  else args.forM fun word => do
    match splitAssignment word with
    | (name, some text) =>
      modifyShell fun s => { s with aliases := (name, text) :: s.aliases.filter (·.1 ≠ name) }
    | (name, none) =>
      match (← shell).aliases.lookup name with
      | some text => shown (name, text)
      | none =>
        write 2 (Utf8.encode ("alias: " ++ name ++ " not found\n"))
        setStatus 1

def unalias (args : List String) : Sh Unit :=
  withLetters "a" args fun letters operands => do
    setStatus 0
    if hasLetter letters 'a' then modifyShell fun s => { s with aliases := [] }
    else operands.forM fun name => do
      if ((← shell).aliases.lookup name).isNone then
        write 2 (Utf8.encode ("unalias: " ++ name ++ " not found\n"))
        setStatus 1
      modifyShell fun s => { s with aliases := s.aliases.filter (·.1 ≠ name) }

def hash (args : List String) : Sh Unit :=
  withLetters "r" args fun _ operands => do
    setStatus 0
    operands.forM fun name => do
      if !(← meaningOf name).isSomething then
        complain (name ++ ": not found")
        setStatus 1

/-! ## Signals and jobs -/

/-- Sets what is done on a signal or at the end, or lists that. A lone signal, or a number in place of a
command, takes back what was set. -/
def trap (args : List String) : Sh Unit :=
  withLetters "" args fun _ operands => do
    let put (action : Option String) (n : Nat) : Sh Unit := modifyShell fun s =>
      { s with traps := (action.map (n, ·)).toList ++ s.traps.filter (·.1 ≠ n) }
    setStatus 0
    match operands with
    | [] =>
      ((← shell).traps.mergeSort fun a b => a.1 ≤ b.1).forM fun t =>
        say ("trap -- " ++ quotedText t.2 ++ " " ++ Signal.nameOf t.1)
    | first :: rest =>
      let clears := rest.isEmpty || isNumber first
      let words := if clears then operands else rest
      let action := if clears || first = "-" then none else some first
      let known := words.takeWhile fun w => (Signal.trapNumber? w).isSome
      known.forM fun w => put action ((Signal.trapNumber? w).getD 0)
      match words.drop known.length with
      | w :: _ =>
        write 2 (Utf8.encode ("trap: " ++ w ++ ": bad trap\n"))
        setStatus 1
      | [] => pure ()

/-- Ends a job that has not ended yet. -/
def endJob (now : Float) (signal : Nat) (j : Job) : Job :=
  if now < j.ended then { j with status := 128 + signal, ended := now } else j

/-- Sends a signal to the process that a word names; says whether there is one. -/
def signalTo (n : Nat) (word : String) : Sh Bool := do
  let s ← shell
  let m ← machine
  let id := numberOf word
  if id = s.id || id = s.process then
    if n ≠ 0 then modifyMachine fun m => { m with signals := (id, n) :: m.signals.erase (id, n) }
    return true
  else if m.jobs.any (·.id = id) then
    if Signal.effectOf n = .ends then
      modifyMachine fun m =>
        { m with jobs := m.jobs.map fun j => if j.id = id then endJob m.seconds n j else j }
    return true
  else return false

def killUsage : String :=
  "Usage: kill [-s sigspec | -signum | -sigspec] [pid | job]... or\nkill -l [exitstatus]"

/-- Sends a signal to each of some processes. -/
def sendSignal (n : Nat) (targets : List String) : Sh Unit := do
  setStatus 0
  targets.forM fun word => do
    if ← halted then return
    if word.startsWith "%" then abort ("No such job: " ++ word)
    else if !isNumber word then illegalNumber word
    else if !(← signalTo n word) then
      complain "No such process\n"
      setStatus 1

/-- Lists signals, or names one by its number or by the status that it leaves. -/
def listSignals (operands : List String) : Sh Unit := do
  setStatus 0
  match operands with
  | [] => ("0" :: Signal.all.map Signal.name).forM say
  | word :: _ =>
    match count? word with
    | none => illegalNumber word
    | some n =>
      match Signal.ofNumber? (if 128 < n then n - 128 else n) with
      | some signal => say signal.name
      | none => abort ("invalid signal number or exit status: " ++ word)

def kill (args : List String) : Sh Unit := do
  let send (n : Nat) (targets : List String) : Sh Unit :=
    if targets.isEmpty then abort killUsage else sendSignal n targets
  let named := match args with
    | w :: _ => match w.toList with
      | '-' :: cs => Signal.number? (String.ofList cs)
      | _ => none
    | [] => none
  match named with
  | some n => send n (args.drop 1)
  | none =>
    withLetters "ls:" args fun letters operands => do
      if hasLetter letters 'l' then listSignals operands
      else match letters.reverse.lookup 's' with
        | none => send Signal.terminate operands
        | some name =>
          match Signal.number? name with
          | some n => send n operands
          | none => abort ("invalid signal number or name: " ++ name)

/-- Lets time pass until a job has ended. -/
def awaitJob (id : Nat) : Sh Nat := do
  match (← machine).jobs.find? (·.id = id) with
  | some j =>
    modifyMachine fun m => { m with seconds := max m.seconds j.ended }
    return j.status
  | none => return 127

/-- Waits for jobs, and has the status of the last one that is named. -/
def wait (args : List String) : Sh Unit :=
  withLetters "" args fun _ operands => do
    if operands.isEmpty then
      (← shell).jobs.forM fun id => do
        let _ ← awaitJob id
      setStatus 0
    else operands.forM fun word => do
      if ← halted then return
      if word.startsWith "%" then abort ("No such job: " ++ word)
      else if !isNumber word then illegalNumber word
      else
        let known := (← shell).jobs.contains (numberOf word)
        let status ← if known then awaitJob (numberOf word) else pure 127
        let text := if 128 < status && known then Signal.obituaryOf (status - 128) else ""
        if !text.isEmpty then write 2 (Utf8.encode (text ++ "\n"))
        setStatus status

/-! ## Limits -/

/-- A number with its digits to the base eight, of which there are at least four. -/
def shownMask (n : Nat) : String :=
  String.ofList ([512, 64, 8, 1].map fun d => Char.ofNat (48 + n / d % 8))

/-- What a mask leaves to the owner, the group and others. -/
def allowedByMask (n : Nat) : String :=
  let rights (who : String) (bits : Nat) : String :=
    who ++ "=" ++ (if bits / 4 % 2 = 0 then "r" else "") ++ (if bits / 2 % 2 = 0 then "w" else "") ++
      (if bits % 2 = 0 then "x" else "")
  ",".intercalate [rights "u" (n / 64), rights "g" (n / 8), rights "o" n]

def umask (args : List String) : Sh Unit :=
  withLetters "S" args fun letters operands => do
    setStatus 0
    match operands with
    | [] =>
      let mask := (← shell).mask
      say (if hasLetter letters 'S' then allowedByMask mask else shownMask mask)
    | word :: _ =>
      let cs := word.toList
      if cs.all fun c => '0' ≤ c && c ≤ '7' then
        modifyShell fun s => { s with mask := cs.foldl (fun n c => n * 8 + (c.toNat - 48)) 0 % 512 }
      else if cs.head?.any Char.isDigit then illegalNumber word
      else abort ("Illegal mode: " ++ word)

def ulimit (args : List String) : Sh Unit :=
  withLetters "HSatfdscmlpnvwr" args fun _ operands => do
    if operands.isEmpty then say "unlimited"
    setStatus 0

/-- A command of the shell that runs no other one. -/
def run (name : String) (args : List String) : Sh Unit :=
  match name with
  | "false" => setStatus 1
  | "echo" => echo args
  | "printf" => printf args
  | "test" | "[" => test name args
  | "exit" => exit args
  | "return" => leaveFunction args
  | "break" => leaveLoops .broken args
  | "continue" => leaveLoops .continued args
  | "cd" | "chdir" => cd args
  | "pwd" => pwd args
  | "export" => mark "export" (·.exported) (fun v => { v with exported := true }) args
  | "readonly" => mark "readonly" (·.fixed) (fun v => { v with fixed := true }) args
  | "local" => cover args
  | "unset" => unset args
  | "shift" => shift args
  | "set" => set args
  | "read" => read args
  | "getopts" => getopts args
  | "type" => type args
  | "alias" => changeAliases args
  | "unalias" => unalias args
  | "hash" => hash args
  | "trap" => trap args
  | "kill" => kill args
  | "wait" => wait args
  | "jobs" => withLetters "lp" args fun _ _ => setStatus 0
  | "fg" | "bg" => abort "No current job"
  | "umask" => umask args
  | "ulimit" => ulimit args
  | "times" => do
    say "0m0.000000s 0m0.000000s"
    say "0m0.000000s 0m0.000000s"
    setStatus 0
  | _ => setStatus 0

end Builtin

end Shell

end HyperEvolve
