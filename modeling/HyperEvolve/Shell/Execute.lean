import HyperEvolve.Parser.Basic
import HyperEvolve.Shell.Builtin
import HyperEvolve.Shell.Runner

/-!
# Running commands

An executor for a system that has the standard tools and shells. Stages of a pipeline run one after
the other, each on all that the one before it has written, and time passes only while a tool sleeps.
It is one executor to run the program with: sessions and commands take theirs as a parameter, and what is
proved of them holds of any.
-/

namespace HyperEvolve

namespace Shell

open Sh

/-- The complaint about a file that cannot be opened. -/
def openComplaint (creates : Bool) (name : String) (e : Errno) : String :=
  let reason := if e = .noEntry || e = .notDirectory then if creates then "Directory nonexistent" else "No such file"
    else e.text
  (if creates then "cannot create " else "cannot open ") ++ name ++ ": " ++ reason

/-- Descriptors that have a name of their own among the files. -/
def descriptorFile? (name : String) : Option Nat :=
  match name with
  | "/dev/stdin" => some 0
  | "/dev/stdout" => some 1
  | "/dev/stderr" => some 2
  | _ =>
    match name.splitOn "/dev/fd/" with
    | ["", n] => if isNumber n then some (numberOf n) else none
    | _ => none

/-- Whether there is a file of a name that holds content. -/
def isRegular (t : FileTree) (name : String) : Bool :=
  match entryAt t name with
  | .ok (.file _) => true
  | _ => false

/-- Opens a file for a descriptor; gives the complaint if that fails. -/
def openFile (descriptor : Nat) (mode : OpenMode) (name : String) : Sh (Option String) := do
  match descriptorFile? name with
  | some other =>
    match ← channelOf other with
    | some ch =>
      connect descriptor ch
      return none
    | none => return some (openComplaint (mode ≠ .read) name .noEntry)
  | none =>
    let t := (← machine).tree
    if mode = .read then
      match entryAt t name, t.locate (Path.ofString name) with
      | .error e, _ => return some (openComplaint false name e)
      | .ok .void, _ => connect descriptor (← openChannel .void)
      | .ok _, .ok place => connect descriptor (← openChannel (.file place 0 false))
      | .ok _, .error e => return some (openComplaint false name e)
      return none
    else if mode = .write && (← shell).switches.keepsFiles && isRegular t name then
      return some ("cannot create " ++ name ++ ": File exists")
    else
      let kept := if mode = .write || mode = .replace then [] else (contentAt t name).toOption.getD []
      match storeAt t name kept, t.locate (Path.ofString name) with
      | .ok tree, .ok place =>
        modifyMachine fun m => { m with tree }
        let void := tree.entry? place = some .void
        connect descriptor (← openChannel (if void then .void else .file place 0 (mode = .append)))
        return none
      | .error e, _ => return some (openComplaint true name e)
      | _, .error e => return some (openComplaint true name e)

/-- Runs a tool on the descriptors of the shell. -/
def runTool (tool : Tool) (name : String) (args : List String) : Sh Unit := do
  let m ← machine
  let ch ← channelOf 0
  let input := (ch.map (available m)).getD []
  let e := tool ⟨name, args, input, (ch.map (isFile m)).getD false, m.tree⟩
  modifyMachine fun m => { m with tree := e.tree, seconds := m.seconds + e.seconds }
  match ch with
  | some ch => modifyMachine fun m => takeBytes e.used m ch
  | none => pure ()
  e.writes.forM fun w => write (if w.1 = .output then 1 else 2) w.2
  setStatus e.status

/-- The complaint about a name that cannot be run, and its status. -/
def runComplaint (plain : Bool) (name : String) : Lookup → String × Nat
  | .refused .denied =>
    if plain then (name ++ ": Permission denied", if name.toList.contains '/' then 126 else 127)
    else (name ++ ": Is a directory", 126)
  | .refused .nameTooLong => (name ++ ": File name too long", 126)
  | _ =>
    if plain then (name ++ ": not found", 127)
    else if name.toList.contains '/' then (name ++ ": No such file or directory", 127)
    else (name ++ ": command not found", 127)

/-- Runs something and forgets a loop that it has left. -/
def leaveLoop : Sh Bool := do
  match (← shell).control with
  | none => return false
  | some (.broken n) =>
    modifyShell fun s => { s with control := if n ≤ 1 then none else some (.broken (n - 1)) }
    return true
  | some (.continued n) =>
    if n ≤ 1 then
      modifyShell fun s => { s with control := none }
      return false
    else
      modifyShell fun s => { s with control := some (.continued (n - 1)) }
      return true
  | some _ => return true

/-- Ends the shell if a command has failed that nobody looks at. -/
def stopOnFailure (tested : Bool) : Sh Unit := do
  let s ← shell
  if s.switches.stopsOnFailure && !tested && s.last ≠ 0 && s.control.isNone then halt .exit

/-- How many functions may run within each other. -/
def maxDepth : Nat := 1000

/-- The glyphs of what an expansion has come to. -/
def expandedGlyphs (quoted : Bool) (s : String) : List Glyph :=
  if quoted then .presence :: glyphs .quoted s else glyphs .expanded s

/-- A word in which a tilde at the start stands for the home directory. -/
def withHome (w : Word) : Sh Word := do
  match w with
  | .text s :: rest =>
    if (s = "~" && rest.isEmpty) || s.startsWith "~/" then
      return .quoted (← valueOr "HOME" "~") :: .text (String.ofList (s.toList.drop 1)) :: rest
    else return w
  | _ => return w

/-- Shows a command before it runs. -/
def trace (assignments : List (String × Word)) (fields : List String) : Sh Unit := do
  if (← shell).switches.traces then
    let values ← assignments.mapM fun a => do return a.1 ++ "=" ++ (← valueOr a.1 "")
    write 2 (Utf8.encode ((← valueOr "PS4" "+ ") ++ " ".intercalate (values ++ fields) ++ "\n"))

/-- Writes all input. -/
def copyInput : Tool := fun c => (c.writes c.input).drain c

/-- Variables that a plain shell sets when it starts. -/
def startVariables : List (String × String) :=
  [("IFS", " \t\n"), (optionIndex, "1"), ("PS1", "# "), ("PS2", "> "), ("PS4", "+ ")]

/-- Makes the current shell a new one. Of the variables only those remain that are handed on. -/
def startShell (plain : Bool) (switches : Switches) (name : String) (args : List String) : Sh Unit :=
  modifyShell fun s =>
    let own := if plain then startVariables else []
    let inherited := s.bindings.filter fun v => v.2.exported && v.2.value.isSome && (own.lookup v.1).isNone
    { s with
      plain, name, args, switches
      functions := []
      last := 0
      covered := []
      depth := 0
      loops := 0
      line := 1
      speaker := none
      id := s.process
      jobs := []
      aliases := []
      options := .start
      bindings := own.map (fun v => (v.1, ⟨some v.2, false, false⟩)) ++ inherited }

/-- The end of a shell that cannot start. -/
def failStart (plain : Bool) (name fault : String) : Sh Unit := do
  write 2 (Utf8.encode (name ++ (if plain then ": 0: " else ": ") ++ fault ++ "\n"))
  setStatus 2

/-- The end of a program that cannot run another one. -/
def failRun (fault : Runner.Fault) : Sh Unit := do
  write 2 (Utf8.encode (fault.text ++ "\n"))
  setStatus fault.status

/-- How many rounds a loop may do whose output goes into a pipe: it may be meant to end when nobody reads
any more. -/
def pipeRounds : Nat := 100000

/-- Runs a stage of a pipeline for what it writes, from now on; gives that and the time of its end. -/
def beside (work : Sh Unit) : Sh (Bytes × Float) := do
  let start := (← machine).seconds
  let rounds := (← machine).rounds
  modifyMachine fun m => { m with rounds := min rounds pipeRounds }
  let bs ← capturing work
  settle
  let ended := (← machine).seconds
  modifyMachine fun m => { m with seconds := start, rounds }
  return (bs, ended)

/-- Runs work beside the script. It has no input, and what it writes has its own times. -/
def startJob (work : Sh Unit) : Sh Unit := do
  let start := (← machine).seconds
  let id := (← machine).nextId
  let saved := (← shell).descriptors
  connect 0 (← openChannel .void)
  separately work
  settleQuietly
  let job : Job := ⟨id, (← shell).last, (← machine).seconds⟩
  modifyMachine fun m => { m with seconds := start, jobs := job :: m.jobs }
  modifyShell fun s => { s with descriptors := saved, jobs := id :: s.jobs, last := 0 }

mutual
def expandPart : (fuel : Nat) → Part → Sh (List Glyph)
  | 0, _ => do
    overflows
    return []
  | fuel + 1, part => do
    match part with
    | .text s => return glyphs .literal s
    | .quoted s => return .presence :: glyphs .quoted s
    | .command body quoted =>
      let bs ← substituting (run fuel false body)
      let out := String.ofList ((Utf8.decodeLossy (bs.filter (· ≠ 0))).reverse.dropWhile (· = '\n')).reverse
      return expandedGlyphs quoted out
    | .arithmetic expression quoted =>
      let source := glyphText (← separator) (← expandParts fuel expression)
      if ← halted then return []
      let s ← shell
      let value (name : String) : String := ((s.bindings.lookup name).bind (·.value)).getD ""
      let source := if source.all Char.isWhitespace && !s.plain then "0" else source
      match Arithmetic.eval value source with
      | .ok (n, assigned) =>
        assigned.reverse.forM fun a => assign a.1 (toString a.2)
        return expandedGlyphs quoted (toString n)
      | .error fault =>
        abort (fault.message source)
        return []
    | .parameter name action word quoted => expandParameter fuel name action word quoted

def expandParameter : (fuel : Nat) → String → Action → Word → Bool → Sh (List Glyph)
  | 0, _, _, _, _ => do
    overflows
    return []
  | fuel + 1, name, action, word, quoted => do
    let s ← shell
    let value? ← parameter? name
    let between ← separator
    let plain (v : String) : List Glyph := expandedGlyphs quoted v
    let shown : List Glyph :=
      if name = "@" && quoted then
        (s.args.map fun a => Glyph.presence :: glyphs .quoted a).intersperse [.cut] |>.flatten
      else if name = "*" && quoted then plain ((String.ofList between).intercalate s.args)
      else if name = "@" || name = "*" then
        (s.args.map fun a => glyphs .expanded a).intersperse [.gap] |>.flatten
      else plain (value?.getD "")
    let isSet (colon : Bool) : Bool := match value? with
      | none => false
      | some v => !(colon && v.isEmpty)
    let replacement : Sh (List Glyph) := do
      let gs ← expandParts fuel word
      return gs.map fun
        | .char c .literal => .char c (if quoted then .quoted else .expanded)
        | g => g
    if value?.isNone && s.switches.refusesUnset && action.needsValue && name ≠ "@" && name ≠ "*" then
      abort (name ++ ": parameter not set")
      return []
    match action with
    | .unknown =>
      abort "Bad substitution"
      return []
    | .value => return shown
    | .length =>
      let n := if name = "@" || name = "*" then s.args.length else (value?.getD "").utf8ByteSize
      return plain (toString n)
    | .otherwise colon => if isSet colon then return shown else replacement
    | .alternative colon => if isSet colon then replacement else return plain ""
    | .assign colon =>
      if isSet colon then return shown
      let gs ← replacement
      assign name (glyphText between gs)
      return gs
    | .complain colon =>
      if isSet colon then return shown
      let given := glyphText between (← expandParts fuel word)
      let reason := if given.isEmpty then "parameter not set" ++ (if colon then " or null" else "") else given
      abort (name ++ ": " ++ reason)
      return []
    | .trim atEnd longest =>
      let p := glyphPattern between (← expandParts fuel word)
      return plain (p.trimText s.plain atEnd longest (value?.getD ""))

/-- A word with its expansions; a tilde at its start stands for the home directory. -/
def expandParts : (fuel : Nat) → Word → Sh (List Glyph)
  | 0, _ => do
    overflows
    return []
  | _ + 1, [] => return []
  | fuel + 1, p :: ps => do
    let first ← expandPart fuel p
    if ← halted then return first
    return first ++ (← expandParts fuel ps)

def expandText : (fuel : Nat) → Word → Sh String
  | 0, _ => do
    overflows
    return ""
  | fuel + 1, w => do
    let gs ← expandParts fuel (← withHome w)
    return glyphText (← separator) gs

/-- The fields that words come to. -/
def expandFields : (fuel : Nat) → List Word → Sh (List String)
  | 0, _ => do
    overflows
    return []
  | _ + 1, [] => return []
  | fuel + 1, w :: ws => do
    let gs ← expandParts fuel (← withHome w)
    if ← halted then return []
    let separators := (← valueOr "IFS" " \t\n").toList
    let s ← shell
    let t := (← machine).tree
    let fields := (cutFields separators gs).flatMap (expandField t s.switches.keepsPatterns)
    return fields ++ (← expandFields fuel ws)

/-- Sets up redirections in order; false when one fails, with its complaint written. -/
def redirect : (fuel : Nat) → List Redirection → Sh Bool
  | 0, _ => do
    overflows
    return false
  | _ + 1, [] => return true
  | fuel + 1, r :: rs => do
    let fault ← match r with
      | .file descriptor mode target =>
        let name ← expandText fuel target
        openFile descriptor mode name
      | .here descriptor body =>
        let gs ← expandParts fuel body
        let t := glyphText (← separator) gs
        connect descriptor (← openChannel (.source (Utf8.encode t)))
        pure none
      | .duplicate descriptor target =>
        let name ← expandText fuel target
        if name = "-" then
          disconnect descriptor
          pure none
        else if !isNumber name then pure (some "Syntax error: Bad fd number")
        else match ← channelOf (numberOf name) with
          | some ch =>
            connect descriptor ch
            pure none
          | none => pure (some (name ++ ": Bad file descriptor"))
    match fault with
    | none => redirect fuel rs
    | some text =>
      if !(← halted) then complain text
      return false

/-- Runs work under redirections. -/
def redirecting : (fuel : Nat) → List Redirection → Sh Unit → Sh Unit
  | 0, _, _ => overflows
  | fuel + 1, rs, work => do
    let saved := (← shell).descriptors
    if ← redirect fuel rs then work
    else if !(← halted) then setStatus 2
    modifyShell fun s => { s with descriptors := saved }

/-- Runs a command; `tested` says that its failure is looked at. -/
def run : (fuel : Nat) → (tested : Bool) → Command → Sh Unit
  | 0, _, _ => overflows
  | fuel + 1, tested, c => do
    if (← halted) || (← shell).switches.onlyReads then return
    match c with
    | .nothing => setStatus 0
    | .simple line assignments words redirections =>
      modifyShell fun s => { s with line }
      runSimple fuel tested assignments words redirections
      deliver fuel
      stopOnFailure tested
    | .sequence a b =>
      run fuel tested a
      run fuel tested b
    | .both a b =>
      run fuel true a
      if !(← halted) && (← shell).last = 0 then run fuel tested b
    | .either a b =>
      run fuel true a
      if !(← halted) && (← shell).last ≠ 0 then run fuel tested b
    | .negated body =>
      run fuel true body
      if !(← halted) then setStatus (if (← shell).last = 0 then 1 else 0)
    | .pipeline stages =>
      runStages fuel tested stages
      deliver fuel
      stopOnFailure tested
    | .background body =>
      startJob (run fuel tested body)
      deliver fuel
    | .subshell body =>
      separately do
        run fuel tested body
        finishShell fuel
      settle
      deliver fuel
      stopOnFailure tested
    | .redirected line body redirections =>
      modifyShell fun s => { s with line }
      redirecting fuel redirections (run fuel tested body)
    | .choice condition yes no =>
      run fuel true condition
      if !(← halted) then run fuel tested (if (← shell).last = 0 then yes else no)
    | .loop untilTrue condition body =>
      modifyShell fun s => { s with loops := s.loops + 1 }
      runLoop fuel tested untilTrue condition body
      modifyShell fun s => { s with loops := s.loops - 1 }
    | .each line name words body =>
      modifyShell fun s => { s with line }
      let fields ← match words with
        | some ws => expandFields fuel ws
        | none => do pure (← shell).args
      if ← halted then return
      if fields.isEmpty then setStatus 0
      modifyShell fun s => { s with loops := s.loops + 1 }
      runEach fuel tested name fields body
      modifyShell fun s => { s with loops := s.loops - 1 }
    | .select line subject clauses =>
      modifyShell fun s => { s with line }
      let value ← expandText fuel subject
      if ← halted then return
      runClauses fuel tested value clauses
    | .define name body =>
      modifyShell fun s => { s with functions := (name, body) :: s.functions.filter (·.1 ≠ name) }
      setStatus 0

/-- Repeats a body while its condition says so. The status is that of the last round, zero without one. -/
def runLoop : (fuel : Nat) → (tested untilTrue : Bool) → Command → Command → Sh Unit
  | 0, _, _, _, _ => overflows
  | fuel + 1, tested, untilTrue, condition, body => do
    let round (status : Nat) : Sh (Option Nat) := do
      countRound
      run fuel true condition
      if ← leaveLoop then return none
      if ((← shell).last = 0) == untilTrue then
        setStatus status
        return none
      else
        run fuel tested body
        if ← leaveLoop then return none
        return some (← shell).last
    repeating round (← machine).rounds 0

/-- Runs a body for each of some words. -/
def runEach : (fuel : Nat) → (tested : Bool) → String → List String → Command → Sh Unit
  | 0, _, _, _, _ => overflows
  | fuel + 1, tested, name, words, body =>
    forEach (fun w => do
      assign name w
      run fuel tested body
      return !(← leaveLoop)) words

def runClauses : (fuel : Nat) → (tested : Bool) → String → List (List Word × Command) → Sh Unit
  | 0, _, _, _ => overflows
  | _ + 1, _, _, [] => setStatus 0
  | fuel + 1, tested, value, (patterns, body) :: rest => do
    if ← fitsAny fuel value patterns then run fuel tested body
    else if !(← halted) then runClauses fuel tested value rest

def fitsAny : (fuel : Nat) → String → List Word → Sh Bool
  | 0, _, _ => do
    overflows
    return false
  | _ + 1, _, [] => return false
  | fuel + 1, value, w :: ws => do
    let p := glyphPattern (← separator) (← expandParts fuel w)
    if p.fitsText (← shell).plain value then return true
    fitsAny fuel value ws

/-- Runs the stages of a pipeline, each in a shell of its own. -/
def runStages : (fuel : Nat) → (tested : Bool) → List Command → Sh Unit
  | 0, _, _ => overflows
  | _ + 1, _, [] => return
  | fuel + 1, tested, [c] => do
    separately do
      run fuel tested c
      finishShell fuel
    settle
  | fuel + 1, tested, c :: cs => do
    let before := (← shell).last
    let (bs, ended) ← beside do
      run fuel tested c
      finishShell fuel
    if ← halted then return
    let first := (← shell).last
    let saved := (← shell).descriptors
    let ch ← openChannel (.source bs)
    connect 0 ch
    setStatus before
    runStages fuel tested cs
    modifyShell fun s => { s with
      descriptors := saved
      last := if s.switches.joinsFailures && s.last = 0 then first else s.last }
    modifyMachine fun m =>
      let unread := forever ≤ ended && !(available m ch).isEmpty
      { m with seconds := if unread then m.seconds else max m.seconds ended }

/-- Takes the signals that have come for this shell. -/
def deliver : (fuel : Nat) → Sh Unit
  | 0 => overflows
  | fuel + 1 => do
    let s ← shell
    match (← machine).signals.reverse.find? (·.1 = s.process) with
    | none => return
    | some (process, n) =>
      modifyMachine fun m => { m with signals := m.signals.erase (process, n) }
      match if n = Signal.kill then none else s.traps.lookup n with
      | some action =>
        runText fuel false action
        if !(← halted) then setStatus s.last
        deliver fuel
      | none =>
        match Signal.effectOf n with
        | .ignored => deliver fuel
        | .stops => runsForever
        | .ends => halt (.killed n)

/-- Expands the values of assignments and makes them, one after the other; gives what the variables
were before, the last one first. -/
def assignAll : (fuel : Nat) → (exported : Bool) → (saved : List (String × Option Variable)) →
    List (String × Word) → Sh (List (String × Option Variable))
  | 0, _, saved, _ => do
    overflows
    return saved
  | _ + 1, _, saved, [] => return saved
  | fuel + 1, exported, saved, (name, w) :: rest => do
    let value ← expandText fuel w
    if ← halted then return saved
    let old ← variableNamed name
    assign name value
    if exported then
      match ← variableNamed name with
      | some v => putVariable name { v with exported := true }
      | none => pure ()
    assignAll fuel exported ((name, old) :: saved) rest

/-- Runs a simple command. One without a name has the status of the last command that a word of it was
made of. -/
def runSimple : (fuel : Nat) → (tested : Bool) → List (String × Word) → List Word → List Redirection → Sh Unit
  | 0, _, _, _, _ => overflows
  | fuel + 1, tested, assignments, words, redirections => do
    modifyShell fun s => { s with substituted := 0 }
    let fields ← expandFields fuel words
    if ← halted then return
    match fields with
    | [] =>
      redirecting fuel redirections (do
        let _ ← assignAll fuel false [] assignments
        trace assignments []
        if !(← halted) then setStatus (← shell).substituted)
    | name :: args =>
      let isFunction := ((← shell).functions.lookup name).isSome
      let special := specialBuiltins.contains name && !isFunction
      let saved := (← shell).descriptors
      if ← redirect fuel redirections then
        let covered ← assignAll fuel (!special) [] assignments
        trace assignments fields
        if !(← halted) then
          if name = "exec" && special then runExec fuel args else runNamed fuel tested name args
        if !special then restore covered
        if name = "exec" && special then return
      else if !(← halted) then
        setStatus 2
        if special then halt .exit
      modifyShell fun s => { s with descriptors := saved }

/-- Replaces the shell by a program; without one its redirections stay. -/
def runExec : (fuel : Nat) → List String → Sh Unit
  | 0, _ => overflows
  | _ + 1, [] => setStatus 0
  | fuel + 1, name :: args => do
    match ← lookupCommand name with
    | .found program => runFound fuel program name args
    | l =>
      let (t, status) := runComplaint (← shell).plain name l
      speakingAs (some "exec") (complain t)
      setStatus status
    if !(← halted) then halt .exit

/-- Runs a function, a command of the shell or a program. -/
def runNamed : (fuel : Nat) → (tested : Bool) → String → List String → Sh Unit
  | 0, _, _, _ => overflows
  | fuel + 1, tested, name, args => do
    let s ← shell
    match s.functions.lookup name with
    | some body =>
      if maxDepth ≤ s.depth then abort s!"Maximum function recursion depth ({maxDepth}) reached"
      else
        modifyShell fun s => { s with args, covered := [], depth := s.depth + 1, loops := 0, options := .start }
        run fuel tested body
        restore (← shell).covered
        modifyShell fun t => { t with
          args := s.args, covered := s.covered, depth := s.depth, loops := s.loops, options := s.options
          control := if t.control = some .returned then none else t.control }
    | none =>
      if isBuiltin name then
        let speaks := name ≠ "command" && (s.plain || name ≠ "eval")
        speakingAs (if speaks then some name else s.speaker) (runBuiltin fuel tested name args)
        if !specialBuiltins.contains name && (← shell).control = some .aborted then
          modifyShell fun s => { s with control := none }
      else runProgram fuel name args

/-- Runs a program in a process of its own. -/
def runProgram : (fuel : Nat) → String → List String → Sh Unit
  | 0, _, _ => overflows
  | fuel + 1, name, args => do
    match ← lookupCommand name with
    | .found program =>
      runFound fuel program name args
      settle
    | l =>
      let (t, status) := runComplaint (← shell).plain name l
      complain t
      setStatus status

/-- Runs a program that has been found under a name. -/
def runFound : (fuel : Nat) → (program name : String) → List String → Sh Unit
  | 0, _, _, _ => overflows
  | fuel + 1, program, name, args => do
    match tools.lookup program with
    | some tool => runTool tool name args
    | none =>
      match program with
      | "sh" | "dash" => separately (runShell fuel true name args)
      | "bash" => separately (runShell fuel false name args)
      | "env" => separately (runEnvironment fuel name args)
      | "xargs" =>
        let input ← capturing (runTool copyInput "cat" [])
        match Runner.commands name args input with
        | .error fault => failRun fault
        | .ok commands =>
          setStatus 0
          separately (runAll fuel name commands)
      | "timeout" =>
        match Runner.bound name args with
        | .error fault => failRun fault
        | .ok b =>
          let start := (← machine).seconds
          separately (runFrom fuel name (fun w => "failed to run command " ++ shownWord w) b.command)
          if 0 < b.seconds && b.seconds ≤ (← machine).seconds - start then
            modifyMachine fun m => { m with seconds := start + b.seconds }
            setStatus b.late
      | "nice" =>
        match Runner.lowered name args with
        | .error fault => failRun fault
        | .ok [] =>
          write 1 (Utf8.encode "0\n")
          setStatus 0
        | .ok command => separately (runFrom fuel name shownWord command)
      | "nohup" =>
        if args.isEmpty then failRun (Runner.hinted name "missing operand" 125)
        else separately (runFrom fuel name (fun w => "failed to run command '" ++ w ++ "'") args)
      | _ => setStatus 127

/-- Runs a program for another one, which says in its own words that it cannot be run. -/
def runFrom : (fuel : Nat) → (runner : String) → (shown : String → String) → List String → Sh Unit
  | 0, _, _, _ => overflows
  | _ + 1, _, _, [] => setStatus 0
  | fuel + 1, runner, shown, command :: args => do
    match ← lookupCommand command with
    | .found program => runFound fuel program command args
    | .refused e => failRun ⟨runner ++ ": " ++ shown command ++ ": " ++ e.text, 126⟩
    | .missing => failRun ⟨runner ++ ": " ++ shown command ++ ": No such file or directory", 127⟩

/-- Runs commands one after the other. One that cannot be run ends that, and failures are summed up. -/
def runAll : (fuel : Nat) → (runner : String) → List (List String) → Sh Unit
  | 0, _, _ => overflows
  | _ + 1, _, [] => return
  | fuel + 1, runner, c :: cs => do
    let before := (← shell).last
    let known := match ← lookupCommand (c.headD "") with
      | .found _ => true
      | _ => false
    runFrom fuel runner id c
    match (← shell).control with
    | some (.killed n) =>
      modifyShell fun s => { s with control := none }
      failRun ⟨runner ++ ": " ++ c.headD "" ++ s!": terminated by signal {n}", 125⟩
      return
    | _ => pure ()
    let status := (← shell).last
    if !known then return
    else if status = 255 then
      failRun ⟨runner ++ ": " ++ c.headD "" ++ ": exited with status 255; aborting", 124⟩
    else
      setStatus (if status = 0 then before else 123)
      runAll fuel runner cs

/-- Changes variables for a program, or lists them. -/
def runEnvironment : (fuel : Nat) → (name : String) → List String → Sh Unit
  | 0, _, _ => overflows
  | fuel + 1, name, args => do
    match Runner.environment name args with
    | .error fault => failRun fault
    | .ok e =>
      let path ← valueOr "PATH" (":".intercalate programDirectories)
      modifyShell fun s => { s with
        bindings := if e.clears then [] else s.bindings.filter fun v => v.2.exported && !e.drops.contains v.1 }
      e.assigns.forM fun a => putVariable a.1 ⟨some a.2, true, false⟩
      if e.command.isEmpty then
        let lines := (← shell).bindings.reverse.filterMap fun v => v.2.value.map fun x => v.1 ++ "=" ++ x ++ "\n"
        write 1 (Utf8.encode (String.join lines))
        setStatus 0
      else
        if e.clears && (← variableNamed "PATH").isNone then putVariable "PATH" ⟨some path, false, false⟩
        runFrom fuel name shownWord e.command
        if (← shell).last = 127 && (e.command.headD "").toList.contains ' ' then
          write 2 (Utf8.encode (name ++ ": use -[v]S to pass options in shebang lines\n"))

/-- Runs a new shell on its arguments. -/
def runShell : (fuel : Nat) → (plain : Bool) → (name : String) → List String → Sh Unit
  | 0, _, _, _ => overflows
  | fuel + 1, plain, name, args => do
    match shellStart plain args with
    | .error fault => failStart plain name fault
    | .ok (_, .noText) => failStart plain name "-c requires an argument"
    | .ok (switches, .text script given args) =>
      startShell plain switches (given.getD name) args
      runText fuel false script
    | .ok (switches, .input args) =>
      let script ← capturing (runTool copyInput "cat" [])
      startShell plain switches name args
      runText fuel false (text script)
    | .ok (switches, .file script args) =>
      match entryAt (← machine).tree script with
      | .ok entry =>
        startShell plain switches script args
        runText fuel false (text ((FileTree.contentOf entry).toOption.getD []))
      | .error e =>
        if plain then failStart plain name ("cannot open " ++ script ++ ": No such file")
        else
          write 2 (Utf8.encode (name ++ ": " ++ script ++ ": " ++ e.text ++ "\n"))
          setStatus 127
    finishShell fuel

/-- What a shell does when it ends: the command that waits for that. -/
def finishShell : (fuel : Nat) → Sh Unit
  | 0 => overflows
  | fuel + 1 => do
    let s ← shell
    match s.traps.lookup 0, s.control with
    | _, some (.killed _) => return
    | some action, _ =>
      modifyShell fun s => { s with traps := s.traps.filter (·.1 ≠ 0), control := none }
      let status := s.last
      runText fuel false action
      if (← shell).control.isNone then setStatus status
    | none, _ => return

/-- Runs a script in the current shell, line by line. -/
def runText : (fuel : Nat) → (tested : Bool) → String → Sh Unit
  | 0, _, _ => overflows
  | fuel + 1, tested, script => runSource fuel tested (Source.ofString script)

def runSource : (fuel : Nat) → (tested : Bool) → Source → Sh Unit
  | 0, _, _ => overflows
  | fuel + 1, tested, source => do
    if ← halted then return
    match { source with aliases := (← shell).aliases }.next with
    | .error e =>
      modifyShell fun s => { s with line := e.line }
      abort e.text
    | .ok (none, _) => return
    | .ok (some c, rest) =>
      run fuel tested c
      runSource fuel tested rest

/-- Runs a command of the shell itself. -/
def runBuiltin : (fuel : Nat) → (tested : Bool) → String → List String → Sh Unit
  | 0, _, _, _ => overflows
  | fuel + 1, tested, name, args => do
    let s ← shell
    match name with
    | "eval" =>
      setStatus 0
      runText fuel tested (" ".intercalate args)
    | "." =>
      match args with
      | [] => setStatus 0
      | file :: _ =>
        if !file.toList.contains '/' then abort (file ++ ": not found")
        else match contentAt (← machine).tree file with
          | .ok content =>
            modifyShell fun s => { s with depth := s.depth + 1 }
            speakingAs (some file) (runText fuel false (text content))
            modifyShell fun t => { t with
              depth := s.depth, control := if t.control = some .returned then none else t.control }
          | .error _ => abort ("cannot open " ++ file ++ ": No such file")
    | "command" =>
      match leadingLetters "pvV" args with
      | .error fault => speakingAs (some name) (abort fault.message)
      | .ok (letters, words) =>
        if Builtin.hasLetter letters 'V' then Builtin.find true words
        else if Builtin.hasLetter letters 'v' then Builtin.find false words
        else match words with
          | [] => setStatus 0
          | "exec" :: ws => speakingAs (some "exec") (runExec fuel ws)
          | w :: ws =>
            if isBuiltin w then speakingAs (some w) (runBuiltin fuel tested w ws) else runProgram fuel w ws
    | _ => Builtin.run name args
end

/-! ## The executor -/

/-- How deep the commands of a script may nest. -/
def scriptDepth : Nat := 20000

/-- How many rounds of loops are waited for: fewer when the time is limited. -/
def scriptRounds : (timeout : Option Float) → Nat
  | some _ => 100000
  | none => 10000000

/-- A number for the first process. -/
def firstId : Nat := 4711

/-- The world in which a command starts. -/
def World.start (t : FileTree) (input : Bytes) (rounds : Nat) : World :=
  let bindings := [("PWD", (Path.ofNames t.cwd).toString), ("HOME", "/root"),
    ("PATH", ":".intercalate programDirectories)]
  { machine :=
      { tree := t
        channels := #[.source input, .sink [], .sink []]
        seconds := 0
        rounds
        nextId := firstId
        signals := []
        jobs := [] }
    shell :=
      { plain := true
        name := ""
        args := []
        bindings := bindings.map fun v => (v.1, ⟨some v.2, true, false⟩)
        functions := []
        descriptors := [(0, 0), (1, 1), (2, 2)]
        last := 0
        substituted := 0
        switches := .off
        traps := []
        covered := []
        depth := 0
        loops := 0
        line := 1
        id := 0
        process := 0
        jobs := []
        aliases := []
        options := .start
        mask := 18
        speaker := none
        control := none } }

def timeReached (seconds : Float) : Option Float → Bool
  | some limit => limit ≤ seconds
  | none => false

/-- The bytes of the words of a command. A word must have some, and none of them may be null; the name
of the program is looked at first. -/
def encodedWords (words : List Text) : Except Escape (List String) :=
  words.mapM fun w =>
    match Utf8.encodeName w with
    | .error fault => .error (.unencodable fault)
    | .ok _ => if w.any (·.val = 0) then .error .nullByte else .ok w.toString

/-- Runs a command over a file tree. -/
def execute (t : FileTree) (words : List Text) (input : Bytes) (timeout : Option Float) :
    ProcessOutcome × FileTree :=
  match encodedWords words with
  | .error e => (.refused e, t)
  | .ok [] => (.notFound, t)
  | .ok (name :: args) =>
    match lookup t name with
    | .missing => (.notFound, t)
    | .refused errno => (.refused (.system ⟨errno, name⟩), t)
    | .found program =>
      let ((), w) := (runFound scriptDepth program name args).run (World.start t input (scriptRounds timeout))
      let tree := { w.machine.tree with cwd := t.cwd }
      let ended := w.machine.jobs.foldl (fun t j => max t j.ended) w.machine.seconds
      if timeReached ended timeout then (.timedOut, tree)
      else
        let status : Int := match w.shell.control with
          | some (.killed n) => -n
          | _ => w.shell.last
        let output := ((written 1).run w).1
        let complaints := ((written 2).run w).1
        (.exited status output complaints, tree)

end Shell

end HyperEvolve
