import HyperEvolve.Shell.Edit.Program
import HyperEvolve.Shell.Tool

/-!
# Running editing programs

The work on a stream of lines is one state. A cycle takes a line, runs the steps on it, and writes what
has become of it.
-/

namespace HyperEvolve

namespace Shell

namespace Edit

/-- Where text goes. -/
inductive Target where
  | output
  | complaints
  | file (name : String)
deriving DecidableEq, Repr

def targetNamed (name : String) : Target :=
  if name = "/dev/stdout" then .output
  else if name = "/dev/stderr" then .complaints
  else .file name

/-- How a program is run. -/
structure Manner where
  /-- Lines are written only on demand. -/
  quiet : Bool
  posix : Bool
  /-- Every file is a stream of its own. -/
  separate : Bool
  /-- What ends a line. -/
  ending : Char
  /-- How wide listed lines are. -/
  width : Nat
  /-- Ranges that are under way before the first line. -/
  begun : List (Nat × Option Nat)

/-- A text that a step adds, with the end of its last line. -/
def Manner.closed (m : Manner) (t : List Char) : List Char := if t.isEmpty then [] else t.dropLast ++ [m.ending]

/-- Text that is written after the line. -/
inductive Later where
  | text (t : List Char)
  | file (name : String)

structure State where
  tree : FileTree
  /-- Input that no one has read. -/
  input : Bytes
  /-- Lines that are left of the current file, each with the mark that it has an end. -/
  lines : List (List Char × Bool)
  files : List String
  name : String
  number : Nat
  space : List Char
  ended : Bool
  held : List Char
  heldEnded : Bool
  /-- In reverse. -/
  written : List (Stream × List Char)
  /-- Where the last line has no end yet. -/
  unended : List Target
  /-- Ranges that have begun, by the index of their step, with the line on which they end if that is
  known. -/
  ranges : List (Nat × Option Nat)
  /-- Ranges that begin at a number and are over. -/
  finished : List Nat
  later : List Later
  /-- How many lines of a file have been read one by one. -/
  taken : List (String × Nat)
  last : Option Search
  replaced : Bool
  /-- Whether a file could not be read. -/
  missed : Bool

/-- What ends the work before the input does. -/
inductive Stop where
  | quit (code : Nat)
  | fault (text : String) (status : Nat)

abbrev Run := ExceptT Stop (StateM State)

/-- How the work on a line goes on. -/
inductive Flow where
  | done (prints : Bool)
  | restart

/-! ## Writing -/

def put (target : Target) (t : List Char) : Run Unit := do
  match target with
  | .output => modify fun s => { s with written := (.output, t) :: s.written }
  | .complaints => modify fun s => { s with written := (.complaints, t) :: s.written }
  | .file name =>
    let s ← get
    let before := (contentAt s.tree name).toOption.getD []
    match storeAt s.tree name (before ++ Utf8.encode (String.ofList t)) with
    | .ok tree => set { s with tree }
    | .error e => throw (.fault s!"couldn't open file {name}: {e.text}" 4)

/-- Ends a last line that has no end. -/
def finishLine (m : Manner) (target : Target) : Run Unit := do
  if (← get).unended.contains target then
    modify fun s => { s with unended := s.unended.filter (· ≠ target) }
    put target [m.ending]

def emit (m : Manner) (target : Target) (t : List Char) : Run Unit := do
  finishLine m target
  put target t

/-- Writes a line. The end of one that came without is put off. -/
def emitLine (m : Manner) (target : Target) (t : List Char) (ended : Bool) : Run Unit := do
  emit m target (if ended then t ++ [m.ending] else t)
  if !ended then modify fun s => { s with unended := target :: s.unended }

def emitSpace (m : Manner) (target : Target) : Run Unit := do
  let s ← get
  emitLine m target s.space s.ended

/-- The content of a file; the input can be read once. -/
def contentFor (name : String) : Run (Except Errno Bytes) := do
  let s ← get
  if inputNames.contains name then
    set { s with input := [] }
    return .ok s.input
  return contentAt s.tree name

/-- Writes what has been put off to the end of the line. -/
def flushLater (m : Manner) : Run Unit := do
  let later := (← get).later
  modify fun s => { s with later := [] }
  for l in later do
    match l with
    | .text t => emit m .output t
    | .file name =>
      match ← contentFor name with
      | .ok bs => emit m .output (Utf8.decodeLossy bs)
      | .error _ => finishLine m .output

/-- The character with its escapes, as lines are listed. -/
def listed (c : Char) : List (List Char) :=
  match c with
  | '\\' => [['\\', '\\']]
  | '\x07' => [['\\', 'a']]
  | '\x08' => [['\\', 'b']]
  | '\x0c' => [['\\', 'f']]
  | '\n' => [['\\', 'n']]
  | '\r' => [['\\', 'r']]
  | '\t' => [['\\', 't']]
  | '\x0b' => [['\\', 'v']]
  | c =>
    if 32 ≤ c.toNat && c.toNat < 127 then [[c]]
    else (Utf8.encode (String.singleton c)).map octal
where
  octal (b : UInt8) : List Char :=
    let n := b.toNat
    ['\\', digit (n / 64), digit (n / 8 % 8), digit (n % 8)]
  digit (n : Nat) : Char := Char.ofNat (48 + n)

/-- A line with all its characters visible, broken where it gets too wide. -/
def listing (ending : Char) (width : Nat) (t : List Char) : List Char :=
  let step (acc : List Char × Nat) (piece : List Char) : List Char × Nat :=
    if 0 < width && width - 1 < acc.2 + piece.length then
      (piece.reverse ++ '\n' :: '\\' :: acc.1, piece.length)
    else (piece.reverse ++ acc.1, acc.2 + piece.length)
  ((t.flatMap listed).foldl step ([], 0)).1.reverse ++ ['$', ending]

/-! ## Reading -/

def linesOf (m : Manner) (bs : Bytes) : List (List Char × Bool) :=
  let ending : UInt8 := if m.ending = '\n' then 10 else 0
  let (lines, last) := bs.foldl (fun (acc : List Bytes × Bytes) b =>
    if b = ending then (acc.2.reverse :: acc.1, []) else (acc.1, b :: acc.2)) ([], [])
  lines.reverse.map (fun l => (Utf8.decodeLossy l, true)) ++
    if last.isEmpty then [] else [(Utf8.decodeLossy last.reverse, false)]

/-- Opens the next file. One that cannot be read is left out; a directory ends the work unless it is
only looked at. -/
def openNext (m : Manner) (looks : Bool) (name : String) : Run Unit := do
  match ← contentFor name with
  | .ok bs => modify fun s => { s with name := name, lines := linesOf m bs }
  | .error .isDirectory =>
    if !looks then throw (.fault s!"read error on {name}: {Errno.isDirectory.text}" 4)
  | .error e =>
    let complaint := s!"sed: can't read {name}: {e.text}\n"
    modify fun s => { s with missed := true, written := (.complaints, complaint.toList) :: s.written }

/-- Opens files until one has a line; `fuel` bounds their number. -/
def openFilled (m : Manner) (looks : Bool) : (fuel : Nat) → Run Unit
  | 0 => return
  | fuel + 1 => do
    let s ← get
    match s.lines, s.files with
    | [], name :: files =>
      set { s with files }
      if m.separate && 0 < s.number then
        modify fun s => { s with number := 0, held := [], heldEnded := true, ranges := m.begun, finished := [] }
        finishLine m .output
      openNext m looks name
      openFilled m looks fuel
    | _, _ => return

/-- Whether the current line is the last one. -/
def isLast (m : Manner) : Run Bool := do
  let s ← get
  if !s.lines.isEmpty then return false
  if m.separate then return true
  openFilled m true (s.files.length + 1)
  return (← get).lines.isEmpty

/-- Takes the next line, if there is one. -/
def advance (m : Manner) : Run (Option (List Char)) := do
  flushLater m
  modify fun s => { s with replaced := false }
  openFilled m false ((← get).files.length + 1)
  let s ← get
  match s.lines with
  | [] => return none
  | (l, ended) :: lines =>
    set { s with lines, number := s.number + 1, ended }
    return some l

/-! ## Addresses -/

/-- The expression that is meant: the one used last if none is given. -/
def meant (search : Option Search) : Run Search := do
  match search <|> (← get).last with
  | some u =>
    modify fun s => { s with last := some u }
    return u
  | none => throw (.fault "-e expression #1, char 0: no previous regular expression" 1)

def holdsAt (m : Manner) (a : Address) : Run Bool := do
  let s ← get
  match a with
  | .line n => return s.number = n
  | .last => isLast m
  | .text search =>
    let u ← meant search
    return (u.regex.search u.mode none s.space).isSome
  | .every first step => return first ≤ s.number && (s.number - first) % step = 0
  | .after _ | .multiple _ => return false

/-- The line on which a range ends if its end is given by number. -/
def endLine? (number : Nat) : Address → Option Nat
  | .line n => some n
  | .after n => some (number + n)
  | .multiple n => some (if n = 0 then number else (number / n + 1) * n)
  | _ => none

def beginRange (index : Nat) (stop : Option Nat) : Run Unit :=
  modify fun s => { s with ranges := (index, stop) :: s.ranges }

def endRange (index : Nat) : Run Unit :=
  modify fun s => { s with ranges := s.ranges.filter (·.1 ≠ index), finished := index :: s.finished }

/-- Whether a range begins on the current line. One that begins at a number may do so later, but only
once. -/
def beginsAt (m : Manner) (index : Nat) (a : Address) : Run Bool := do
  match a with
  | .line n =>
    let s ← get
    return n ≤ s.number && !s.finished.contains index
  | a => holdsAt m a

/-- Whether a range that begins and ends at once has the current line. -/
def holdsOnce (number stop : Nat) : Address → Bool
  | .line n => number ≤ stop || number = n
  | _ => true

/-- Whether a step works on the current line. -/
def selects (m : Manner) (index : Nat) (step : Step) : Run Bool := do
  let hit ← match step.first, step.last with
    | none, _ => pure true
    | some a, none => holdsAt m a
    | some a, some b =>
      let s ← get
      match s.ranges.lookup index with
      | some (some n) =>
        if n ≤ s.number then endRange index
        pure (decide (s.number ≤ n))
      | some none =>
        if ← holdsAt m b then endRange index
        pure true
      | none =>
        if ← beginsAt m index a then
          match endLine? s.number b with
          | some n =>
            if s.number < n then
              beginRange index (some n)
              pure true
            else
              endRange index
              pure (holdsOnce s.number n a)
          | none =>
            beginRange index none
            pure true
        else pure false
  return hit != step.negated

/-- Ranges that are under way before the first line. -/
def startRanges (p : Array Step) : List (Nat × Option Nat) :=
  p.toList.zipIdx.filterMap fun (step, index) =>
    match step.first, step.last with
    | some (.line 0), some _ => some (index, none)
    | _, _ => none

/-! ## Substitution -/

/-- Small letters beyond ASCII, from the first to the last, and how far behind the large ones they
stand. -/
def smallLetters : List (Nat × Nat × Nat) :=
  [(0xE0, 0xF6, 32), (0xF8, 0xFE, 32), (0x3B1, 0x3C1, 32), (0x3C3, 0x3CB, 32), (0x430, 0x44F, 32), (0x450, 0x45F, 80)]

def Casing.apply (k : Casing) (c : Char) : Char :=
  match k with
  | .upper =>
    match smallLetters.find? fun r => r.1 ≤ c.toNat && c.toNat ≤ r.2.1 with
    | some r => Char.ofNat (c.toNat - r.2.2)
    | none => c.toUpper
  | .lower =>
    match smallLetters.find? fun r => r.1 ≤ c.toNat + r.2.2 && c.toNat + r.2.2 ≤ r.2.1 with
    | some r => Char.ofNat (c.toNat + r.2.2)
    | none => c.toLower

/-- The text that is put in place of a match. -/
def filled (found : Regex.Match) (insert : List Insert) : List Char :=
  let add (acc : List Char × Option Casing × Option Casing) (t : List Char) :=
    t.foldl (fun acc c =>
      let changed := match acc.2.2, acc.2.1 with
        | some k, _ => k.apply c
        | none, some k => k.apply c
        | none, none => c
      (changed :: acc.1, acc.2.1, none)) acc
  let step (acc : List Char × Option Casing × Option Casing) : Insert → List Char × Option Casing × Option Casing
    | .char c => add acc [c]
    | .group 0 => add acc found.taken
    | .group i => add acc (found.spot.group i)
    | .casing k => (acc.1, k, none)
    | .next k => (acc.1, acc.2.1, some k)
  (insert.foldl step ([], none, none)).1.reverse

/-- The text with matches from the `nth` on replaced, and whether there was one; `fuel` bounds the
matches. -/
def replace (u : Substitution) (search : Search) : (fuel : Nat) → (nth : Nat) → (before : Option Char) →
    (afterMatch : Bool) → List Char → List Char × Bool
  | 0, _, _, _, t => (t, false)
  | fuel + 1, nth, before, afterMatch, t =>
    match search.regex.search search.mode before t with
    | none => (t, false)
    | some found =>
      let skipsEmpty := found.taken.isEmpty && found.skipped.isEmpty && afterMatch
      let counts := nth ≤ 1 && !skipsEmpty
      let piece := if counts then filled found u.insert else found.taken
      let rest := t.drop (found.skipped.length + found.taken.length)
      let nth := if skipsEmpty then nth else nth - 1
      if counts && !u.global then (found.skipped ++ piece ++ rest, true)
      else if found.taken.isEmpty then
        match rest with
        | [] => (found.skipped ++ piece, counts)
        | c :: rest =>
          let (more, any) := replace u search fuel nth (some c) false rest
          (found.skipped ++ piece ++ c :: more, counts || any)
      else
        let (more, any) := replace u search fuel nth found.taken.getLast? true rest
        (found.skipped ++ piece ++ more, counts || any)

def substitute (m : Manner) (u : Substitution) : Run Unit := do
  let search ← meant u.search
  let s ← get
  let (t, any) := replace u search (s.space.length + 2) u.nth none false s.space
  set { s with space := t, replaced := s.replaced || any, last := some search }
  if any then
    if u.print then emitSpace m .output
    match u.file with
    | some name => emitSpace m (targetNamed name)
    | none => pure ()

/-! ## Steps -/

/-- Where a label stands. -/
def labelIndex (p : Array Step) (name : String) : Nat :=
  (p.toList.findIdx? fun step => match step.action with
    | .label n => n = name
    | _ => false).getD p.size

def modifySpace (f : State → List Char) : Run Unit := modify fun s => { s with space := f s }

/-- The next line of a file that is read line by line. -/
def nextLineOf (name : String) : Run (Option (List Char)) := do
  let s ← get
  let bs ← contentFor name
  if inputNames.contains name then modify fun t => { t with input := s.input }
  let index := (s.taken.lookup name).getD 0
  match bs with
  | .error _ => return none
  | .ok bs =>
    match (splitLines bs)[index]? with
    | none => return none
    | some l =>
      modify fun s => { s with taken := (name, index + 1) :: s.taken }
      return some (Utf8.decodeLossy l)

/-- How the steps go on after one of them: with the next, with another one, or not at all. -/
inductive Turn where
  | next
  | jump (index : Nat)
  | stop (flow : Flow)

/-- Runs one action. -/
def act (m : Manner) (p : Array Step) (index : Nat) (a : Action) : Run Turn := do
  let emitFirst (target : Target) : Run Unit := do
    let s ← get
    emitLine m target (s.space.takeWhile (· ≠ m.ending)) (s.ended || s.space.contains m.ending)
  match a with
  | .block _ | .nothing | .label _ => return .next
  | .substitute u =>
    substitute m u
    return .next
  | .transliterate a b =>
    modifySpace fun s => s.space.map fun c => ((a.zip b).lookup c).getD c
    return .next
  | .delete => return .stop (.done false)
  | .deleteFirst =>
    if !(← get).space.contains m.ending then return .stop (.done false)
    modifySpace fun s => (s.space.dropWhile (· ≠ m.ending)).drop 1
    return .stop .restart
  | .print =>
    emitSpace m .output
    return .next
  | .printFirst =>
    emitFirst .output
    return .next
  | .list width =>
    emit m .output (listing m.ending (width.getD m.width) (← get).space)
    return .next
  | .quit code silent =>
    if !silent then
      if !m.quiet then emitSpace m .output
      finishLine m .output
      flushLater m
    throw (.quit code)
  | .next =>
    let last ← isLast m
    if !m.quiet && !(last && m.posix) then emitSpace m .output
    if last then return .stop (.done false)
    match ← advance m with
    | some l =>
      modifySpace fun _ => l
      return .next
    | none => return .stop (.done false)
  | .appendNext =>
    if ← isLast m then return .stop (.done (!m.posix))
    match ← advance m with
    | some l =>
      modifySpace fun s => s.space ++ m.ending :: l
      return .next
    | none => return .stop (.done (!m.posix))
  | .hold adds =>
    modify fun s =>
      if adds then { s with held := s.held ++ m.ending :: s.space }
      else { s with held := s.space, heldEnded := s.ended }
    return .next
  | .fetch adds =>
    modify fun s =>
      if adds then { s with space := s.space ++ m.ending :: s.held }
      else { s with space := s.held, ended := s.heldEnded }
    return .next
  | .exchange =>
    modify fun s => { s with space := s.held, ended := s.heldEnded, held := s.space, heldEnded := s.ended }
    return .next
  | .clear =>
    modifySpace fun _ => []
    return .next
  | .number =>
    emit m .output ((toString (← get).number).toList ++ [m.ending])
    return .next
  | .fileName =>
    emit m .output ((← get).name.toList ++ [m.ending])
    return .next
  | .after t =>
    modify fun s => { s with later := s.later ++ [.text t] }
    return .next
  | .before t =>
    emit m .output (m.closed t)
    return .next
  | .change t =>
    if ((← get).ranges.lookup index).isNone then emit m .output (m.closed t)
    return .stop (.done false)
  | .read name =>
    modify fun s => { s with later := s.later ++ [.file name] }
    return .next
  | .readLine name =>
    match ← nextLineOf name with
    | some l => modify fun s => { s with later := s.later ++ [.text l] }
    | none => pure ()
    return .next
  | .write name =>
    emitSpace m (targetNamed name)
    return .next
  | .writeFirst name =>
    emitFirst (targetNamed name)
    return .next
  | .branch label onlyReplaced =>
    let replaced := (← get).replaced
    let jumps := onlyReplaced.all (· = replaced)
    if onlyReplaced.isSome then modify fun s => { s with replaced := false }
    if !jumps then return .next
    return .jump (if label.isEmpty then p.size else labelIndex p label)

/-- Runs the steps from an index on; `fuel` bounds their number. -/
def runFrom (m : Manner) (p : Array Step) : (fuel : Nat) → (index : Nat) → Run Flow
  | 0, _ => throw (.quit 4)
  | fuel + 1, index => do
    match p[index]? with
    | none => return .done true
    | some step =>
      if ← selects m index step then
        match ← act m p index step.action with
        | .next => runFrom m p fuel (index + 1)
        | .jump i => runFrom m p fuel i
        | .stop flow => return flow
      else match step.action with
        | .block stop => runFrom m p fuel stop
        | _ => runFrom m p fuel (index + 1)

/-- Runs the program on every line; `fuel` bounds the cycles. -/
def cycles (m : Manner) (p : Array Step) : (fuel : Nat) → (again : Bool) → Run Unit
  | 0, _ => return
  | fuel + 1, again => do
    if !again then
      match ← advance m with
      | none => return
      | some l => modifySpace fun _ => l
    match ← runFrom m p 20000 0 with
    | .done prints =>
      if prints && !m.quiet then emitSpace m .output
      cycles m p fuel false
    | .restart => cycles m p fuel true

/-- The files that a program writes. -/
def writtenFiles (p : Array Step) : List String :=
  p.toList.filterMap fun step =>
    match step.action with
    | .write name | .writeFirst name | .substitute ⟨_, _, _, _, _, some name⟩ =>
      if targetNamed name = .file name then some name else none
    | _ => none

/-- Runs a program on files. -/
def run (m : Manner) (p : Array Step) (tree : FileTree) (input : Bytes) (files : List String) :
    Except Stop Unit × State :=
  let start : State :=
    { tree, input, lines := [], files, name := "-", number := 0, space := [], ended := true, held := [],
      heldEnded := true, written := [], unended := [], ranges := m.begun, finished := [], later := [], taken := [], last := none,
      replaced := false, missed := false }
  let size := files.foldl (fun n f => n + ((contentAt tree f).toOption.getD []).length) input.length
  let work : Run Unit := do
    for step in p do
      match step.first, step.last, step.action with
      | some (.line 0), none, .read name => modify fun s => { s with later := s.later ++ [.file name] }
      | _, _, _ => pure ()
    cycles m p (2 * size + 64) false
  work.run start

end Edit

end Shell

end HyperEvolve
