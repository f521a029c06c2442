import HyperEvolve.Shell.Edit.Program
import HyperEvolve.Shell.Escape

/-!
# Reading editing programs

A program comes in pieces. A fault names the piece and how many bytes of it had been read.
-/

namespace HyperEvolve

namespace Shell

namespace Edit

/-- A program that is being read. -/
structure Reader where
  chars : List Char
  /-- Steps read so far, in reverse. -/
  steps : List Step
  /-- The pieces in which open blocks begin, the innermost first. -/
  blocks : List Nat
  /-- The number of the piece. -/
  piece : Nat
  extended : Bool
  posix : Bool

/-- A fault, with the number of bytes of the piece that are left. -/
inductive Fault where
  | here (text : String) (left : Nat)

/-- What is said about a program that cannot be run, and the status. -/
structure Refusal where
  text : String
  status : Nat

abbrev Read := StateT Reader (Except Fault)

def bytesIn (cs : List Char) : Nat := (String.ofList cs).utf8ByteSize

/-- The bytes that are left when only the first byte of a character is taken. -/
def leftPast (c : Char) (rest : List Char) : Nat := bytesIn rest + (String.singleton c).utf8ByteSize - 1

def fail {α : Type} (text : String) : Read α := do throw (.here text (bytesIn (← get).chars))

/-! ## Characters -/

/-- Takes the next character. -/
def nextChar : Read (Option Char) := do
  let s ← get
  set { s with chars := s.chars.drop 1 }
  return s.chars.head?

/-- Puts a character back. -/
def putBack (c : Option Char) : Read Unit := modify fun s => { s with chars := c.toList ++ s.chars }

def isBlank (c : Char) : Bool := c = ' ' || c = '\t'

def skipBlanks : Read Unit := modify fun s => { s with chars := s.chars.dropWhile isBlank }

/-- Takes the next character that is not blank. -/
def nextFilled : Read (Option Char) := do
  skipBlanks
  nextChar

/-- A number that begins with a digit. -/
def number (first : Char) : Read Nat := do
  let ds := (← get).chars.takeWhile Char.isDigit
  modify fun s => { s with chars := s.chars.drop ds.length }
  return (first :: ds).foldl (fun n c => n * 10 + (c.toNat - 48)) 0

/-! ## Texts between delimiters -/

/-- Where reading stands between delimiters: outside brackets, at the start of brackets, inside them, or
inside the sign of a class in them. -/
inductive Spot where
  | outside
  | opened (negated : Bool)
  | inside
  | named (sign : Char)
deriving DecidableEq, Repr

/-- Where reading stands past a character. -/
def Spot.past (s : Spot) (c : Char) (next : Option Char) : Spot :=
  match s with
  | .outside => if c = '[' then .opened false else .outside
  | .opened negated => if c = '^' && !negated then .opened true else inner c next
  | .inside => if c = ']' then .outside else inner c next
  | .named sign => if c = sign && next = some ']' then .inside else .named sign
where
  inner (c : Char) (next : Option Char) : Spot :=
    match next with
    | some sign => if c = '[' && (sign = ':' || sign = '.' || sign = '=') then .named sign else .inside
    | none => .inside

/-- The text up to a delimiter, and what follows it. Between brackets of an expression the delimiter
does not count. A backslash in front of the delimiter goes, and one in front of a line end, too. -/
def upTo (d : Char) (regex : Bool) : Spot → List Char → Except (List Char) (List Char × List Char)
  | _, [] => .error []
  | spot, '\\' :: c :: cs =>
    let kept : List Char :=
      if c = 'n' && regex then ['\n']
      else if c ≠ '\n' && (c ≠ d || (!regex && c = '&')) then ['\\', c]
      else [c]
    let spot := match spot with
      | .opened _ => .inside
      | spot => spot
    (upTo d regex spot cs).map fun r => (kept ++ r.1, r.2)
  | spot, c :: cs =>
    if c = '\n' then .error (c :: cs)
    else if c = d && (!regex || spot = .outside) then .ok ([], cs)
    else (upTo d regex (if regex then spot.past c cs.head? else .outside) cs).map fun r => (c :: r.1, r.2)

def delimited (d : Char) (regex : Bool) (otherwise : String) : Read (List Char) := do
  let s ← get
  match upTo d regex .outside s.chars with
  | .ok (t, rest) =>
    set { s with chars := rest }
    return t
  | .error rest =>
    set { s with chars := rest }
    fail otherwise

/-! ## Escapes -/

/-- A character that is given by its number: the letter says to what base, and how many digits there are
at most. -/
def numbered (c : Char) (cs : List Char) : Option (Char × List Char) :=
  let read (base limit : Nat) : Option (Char × List Char) :=
    let (n, rest) := takeDigits base limit cs
    if rest.length < cs.length then some (Char.ofNat (n % 256), rest) else none
  match c with
  | 'd' => read 10 3
  | 'o' => read 8 3
  | 'x' => read 16 2
  | 'c' =>
    match cs with
    | k :: rest => some (Char.ofNat (k.toUpper.toNat ^^^ 64), rest)
    | [] => none
  | _ => none

theorem numbered_length {c : Char} {cs : List Char} {x : Char} {rest : List Char}
    (h : numbered c cs = some (x, rest)) : rest.length ≤ cs.length := by
  have dec := takeDigits_length 10 3 cs
  have oct := takeDigits_length 8 3 cs
  have hex := takeDigits_length 16 2 cs
  unfold numbered at h
  grind

def controlLetter? : Char → Option Char
  | 'a' => some '\x07'
  | 'f' => some '\x0c'
  | 'r' => some '\r'
  | 't' => some '\t'
  | 'v' => some '\x0b'
  | _ => none

/-- A text in which escapes for characters are read, and all others kept. A character that would have a
meaning of its own keeps its backslash. -/
def withEscapes (special : Char → Bool) : List Char → List Char
  | '\\' :: c :: cs =>
    match controlLetter? c with
    | some x => x :: withEscapes special cs
    | none =>
      match h : numbered c cs with
      | some (x, rest) =>
        have := numbered_length h
        (if special x then ['\\', x] else [x]) ++ withEscapes special rest
      | none => '\\' :: c :: withEscapes special cs
  | c :: cs => c :: withEscapes special cs
  | [] => []
termination_by cs => cs.length
decreasing_by all_goals simp only [List.length_cons]; omega

/-- The text that a command adds or exchanges: backslashes go once the escapes are read. -/
def unescapeText (cs : List Char) : List Char := go (withEscapes (· = '\\') cs)
where
  go : List Char → List Char
    | '\\' :: c :: cs => (if c = 'n' then '\n' else c) :: go cs
    | c :: cs => c :: go cs
    | [] => []

/-! ## Expressions and addresses -/

/-- The expression in a text, none for an empty one, which stands for the one used last. `references` is
the greatest group that is asked for. -/
def search (source : List Char) (mode : Regex.Mode) (references : Nat) : Read (Option Search) := do
  let s ← get
  if source.isEmpty then
    if mode.ignoreCase || mode.lines then fail "cannot specify modifiers on empty regexp"
    return none
  let source := withEscapes (· = '\\') source
  match Regex.readGroups (if s.extended then Regex.extendedEdit else Regex.basicEdit) source with
  | .error e => fail e.message
  | .ok (r, groups) =>
    if groups < references then
      fail ("invalid reference \\" ++ toString references ++ " on `s' command's RHS")
    return some ⟨r, mode⟩

/-- The letters after an expression that say how it is matched; `fuel` bounds their number. -/
def addressMode : (fuel : Nat) → Regex.Mode → Read Regex.Mode
  | 0, m => return m
  | fuel + 1, m => do
    match ← nextFilled with
    | some 'I' => if (← get).posix then putBackAs 'I' m else addressMode fuel { m with ignoreCase := true }
    | some 'M' => if (← get).posix then putBackAs 'M' m else addressMode fuel { m with lines := true }
    | c =>
      putBack c
      return m
where
  putBackAs (c : Char) (m : Regex.Mode) : Read Regex.Mode := do
    putBack (some c)
    return m

/-- An address that begins with a character. -/
def address? (c : Option Char) : Read (Option Address) := do
  let posix := (← get).posix
  let expression (d : Char) : Read (Option Address) := do
    let source ← delimited d true "unterminated address regex"
    let mode ← addressMode (← get).chars.length Regex.exact
    return some (.text (← search source mode 0))
  let numberOr (fallback : Nat) : Read Nat := do
    match ← nextFilled with
    | some d => if d.isDigit then number d else
        putBack (some d)
        return fallback
    | none => return fallback
  match c with
  | some '/' => expression '/'
  | some '\\' =>
    match ← nextChar with
    | some d => expression d
    | none => fail "unterminated address regex"
  | some '$' => return some .last
  | some '+' => if posix then return none else return some (.after (← numberOr 0))
  | some '~' => if posix then return none else return some (.multiple (← numberOr 0))
  | some c =>
    if !c.isDigit then return none
    let n ← number c
    match ← nextFilled with
    | some '~' =>
      if posix then
        putBack (some '~')
        return some (.line n)
      let step ← numberOr 0
      return some (if step = 0 then .line n else .every n step)
    | other =>
      putBack other
      return some (.line n)
  | none => return none

/-! ## Actions -/

/-- What is put in place of a match. -/
def inserts : List Char → List Insert
  | '\\' :: c :: cs =>
    (match c with
      | 'n' => .char '\n'
      | 'L' => .casing (some .lower)
      | 'U' => .casing (some .upper)
      | 'E' => .casing none
      | 'l' => .next .lower
      | 'u' => .next .upper
      | c => if c.isDigit then .group (c.toNat - 48) else .char c) :: inserts cs
  | '&' :: cs => .group 0 :: inserts cs
  | c :: cs => .char c :: inserts cs
  | [] => []

/-- The greatest group that is put in place. -/
def references (is : List Insert) : Nat :=
  is.foldl (fun n i => match i with
    | .group k => max n k
    | _ => n) 0

/-- The rest of a line. -/
def restOfLine : Read String := do
  let cs := (← get).chars.takeWhile (· ≠ '\n')
  modify fun s => { s with chars := s.chars.drop (cs.length + 1) }
  return String.ofList cs

def fileName : Read String := do
  skipBlanks
  let cs := (← get).chars.takeWhile (· ≠ '\n')
  if cs.isEmpty then fail "missing filename in r/R/w/W commands"
  restOfLine

/-- The flags after a substitution, with how it is matched; `fuel` bounds their number. -/
def substitutionFlags : (fuel : Nat) → Substitution → Regex.Mode → Read (Substitution × Regex.Mode)
  | 0, u, m => return (u, m)
  | fuel + 1, u, m => do
    match ← nextFilled with
    | none | some '\n' | some ';' => return (u, m)
    | some 'i' | some 'I' => substitutionFlags fuel u { m with ignoreCase := true }
    | some 'm' | some 'M' => substitutionFlags fuel u { m with lines := true }
    | some 'e' => substitutionFlags fuel u m
    | some 'p' =>
      if u.print then fail "multiple `p' options to `s' command"
      substitutionFlags fuel { u with print := true } m
    | some 'g' =>
      if u.global then fail "multiple `g' options to `s' command"
      substitutionFlags fuel { u with global := true } m
    | some 'w' => return ({ u with file := some (← fileName) }, m)
    | some c =>
      if c = '\x7d' || c = '#' then
        putBack (some c)
        return (u, m)
      else if c.isDigit then
        if u.nth ≠ 0 then fail "multiple number options to `s' command"
        let n ← number c
        if n = 0 then fail "number option to `s' command may not be zero"
        substitutionFlags fuel { u with nth := n } m
      else throw (.here "unknown option to `s'" (leftPast c (← get).chars))

def substitution : Read Action := do
  let unterminated := "unterminated `s' command"
  match ← nextChar with
  | none => fail unterminated
  | some d =>
    let source ← delimited d true unterminated
    let target ← delimited d false unterminated
    let insert := inserts (withEscapes (fun c => c = '\\' || c = '&') target)
    let u : Substitution := ⟨none, insert, 0, false, false, none⟩
    let (u, mode) ← substitutionFlags ((← get).chars.length + 1) u Regex.exact
    return .substitute { u with search := ← search source mode (references insert) }

/-- A command ends here. -/
def endOfCommand : Read Unit := do
  match ← nextFilled with
  | none | some '\n' | some ';' => return
  | some c =>
    if c = '\x7d' || c = '#' then putBack (some c)
    else fail "extra characters after command"

def transliteration : Read Action := do
  let unterminated := "unterminated `y' command"
  match ← nextChar with
  | none => fail unterminated
  | some d =>
    let a := unescapeText (← delimited d false unterminated)
    let b := unescapeText (← delimited d false unterminated)
    if a.length ≠ b.length then fail "strings for `y' command are different lengths"
    endOfCommand
    return .transliterate a b

/-- The text that a command adds, up to the end of a line that no backslash continues. -/
def addedText : Read (List Char) := do
  match ← nextFilled with
  | none => fail "expected \\ after `a', `c' or `i'"
  | some '\\' =>
    let blanks := (← get).chars.takeWhile isBlank
    if ((← get).chars.drop blanks.length).head? = some '\n' then
      modify fun s => { s with chars := s.chars.drop (blanks.length + 1) }
  | c => putBack c
  let taken := lineOf (← get).chars
  modify fun s => { s with chars := s.chars.drop (taken.length + 1) }
  return if taken.isEmpty then [] else unescapeText taken ++ ['\n']
where
  lineOf : List Char → List Char
    | '\\' :: c :: cs => '\\' :: c :: lineOf cs
    | '\n' :: _ => []
    | c :: cs => c :: lineOf cs
    | [] => []

def labelName : Read String := do
  skipBlanks
  let cs := (← get).chars.takeWhile fun c => !isBlank c && c ≠ '\n' && c ≠ ';'
  modify fun s => { s with chars := s.chars.drop cs.length }
  return String.ofList cs

/-- Commands of one letter. -/
def simpleAction? : Char → Option Action
  | 'd' => some .delete
  | 'D' => some .deleteFirst
  | 'p' => some .print
  | 'P' => some .printFirst
  | 'n' => some .next
  | 'N' => some .appendNext
  | 'h' => some (.hold false)
  | 'H' => some (.hold true)
  | 'g' => some (.fetch false)
  | 'G' => some (.fetch true)
  | 'x' => some .exchange
  | 'z' => some .clear
  | '=' => some .number
  | 'F' => some .fileName
  | _ => none

/-- The number after a command, if there is one, up to its end. -/
def numberArgument : Read (Option Nat) := do
  let n ← match ← nextFilled with
    | some d => if d.isDigit then (number d).map some else
        putBack (some d)
        pure none
    | none => pure none
  endOfCommand
  return n

/-- The action of a command that is named by a letter. -/
def action (c : Char) (first last : Option Address) : Read Action := do
  match simpleAction? c with
  | some a =>
    endOfCommand
    return a
  | none =>
    match c with
    | 's' => substitution
    | 'y' => transliteration
    | 'a' => return .after (← addedText)
    | 'i' => return .before (← addedText)
    | 'c' => return .change (← addedText)
    | ':' =>
      if first.isSome then fail ": doesn't want any addresses"
      let name ← labelName
      if name.isEmpty then fail "\":\" lacks a label"
      return .label name
    | 'b' => return .branch (← labelName) none
    | 't' => return .branch (← labelName) (some true)
    | 'T' => return .branch (← labelName) (some false)
    | 'q' | 'Q' =>
      if last.isSome then fail "command only uses one address"
      return .quit ((← numberArgument).getD 0) (c = 'Q')
    | 'l' => return .list (← numberArgument)
    | 'r' => return .read (← fileName)
    | 'R' => return .readLine (← fileName)
    | 'w' => return .write (← fileName)
    | 'W' => return .writeFirst (← fileName)
    | 'v' =>
      let _ ← labelName
      return .nothing
    | _ =>
      throw (.here ("unknown command: `" ++ text [(charBytes c).headD 0] ++ "'") (leftPast c (← get).chars))
where
  text (bs : Bytes) : String := String.ofList (Utf8.decodeLossy bs)

def push (first last : Option Address) (negated : Bool) (a : Action) : Read Unit :=
  modify fun s => { s with steps := ⟨first, last, negated, a⟩ :: s.steps }

/-- Whether an address is the line before the first. -/
def isLineZero : Option Address → Bool
  | some (.line 0) => true
  | _ => false

def isRelative : Option Address → Bool
  | some (.after _) | some (.multiple _) => true
  | _ => false

def isText : Option Address → Bool
  | some (.text _) => true
  | _ => false

/-- The addresses of a step, and the character behind them. -/
def addresses (c : Char) : Read (Option Address × Option Address × Option Char) := do
  let first ← address? (some c)
  if first.isNone then return (none, none, some c)
  if isRelative first then fail "invalid usage of +N or ~N as first address"
  let c ← nextFilled
  let (last, c) ← if c = some ',' then do
      match ← address? (← nextFilled) with
      | none => fail "unexpected `,'"
      | some a => pure (some a, ← nextFilled)
    else pure (none, c)
  let fits := if last.isNone then c = some 'r' else isText last
  if isLineZero first && (!fits || (← get).posix) then fail "invalid usage of line address 0"
  return (first, last, c)

/-- The steps of a piece; `fuel` bounds their number. -/
def steps : (fuel : Nat) → Read Unit
  | 0 => return
  | fuel + 1 => do
    modify fun s => { s with chars := s.chars.dropWhile fun c => isBlank c || c = '\n' || c = ';' }
    match ← nextChar with
    | none => return
    | some c =>
      let (first, last, c) ← addresses c
      let negated := c = some '!'
      let c ← if negated then nextFilled else pure c
      if negated && c = some '!' then fail "multiple `!'s"
      match c with
      | none => fail "missing command"
      | some '#' =>
        if first.isSome then fail "comments don't accept any addresses"
        modify fun s => { s with chars := s.chars.dropWhile (· ≠ '\n') }
      | some '\x7b' =>
        modify fun s => { s with blocks := s.piece :: s.blocks }
        push first last negated (.block 0)
      | some '\x7d' =>
        let s ← get
        if s.blocks.isEmpty then fail "unexpected `\x7d'"
        if first.isSome then fail "`\x7d' doesn't want any addresses"
        endOfCommand
        modify fun s => { s with blocks := s.blocks.drop 1 }
        push none none false .nothing
      | some '\n' => fail "missing command"
      | some c => push first last negated (← action c first last)
      steps fuel

/-! ## Programs -/

/-- The steps with the end of each block filled in. A step that does nothing and has no address ends a
block. -/
def closeBlocks (ss : List Step) : Array Step :=
  let go (acc : Array Step × List Nat) (s : Step) : Array Step × List Nat :=
    let (out, opened) := acc
    match s.action with
    | .block _ => (out.push s, out.size :: opened)
    | .nothing =>
      match opened with
      | i :: rest =>
        (match out[i]? with
          | some b => (out.set! i { b with action := .block (out.size + 1) }).push s
          | none => out.push s, rest)
      | [] => (out.push s, [])
    | _ => (out.push s, opened)
  (ss.foldl go (#[], [])).1

/-- The labels to which a program jumps. -/
def jumps (ss : List Step) : List String :=
  ss.filterMap fun s => match s.action with
    | .branch l _ => if l.isEmpty then none else some l
    | _ => none

def labels (ss : List Step) : List String :=
  ss.filterMap fun s => match s.action with
    | .label l => some l
    | _ => none

/-- Reads the pieces of a program one after the other. -/
def readPieces (extended posix : Bool) (pieces : List String) : Except Refusal (Array Step) := do
  let start : Reader := ⟨[], [], [], 0, extended, posix⟩
  let s ← pieces.foldlM (fun (s : Reader) (t : String) =>
    let s := { s with chars := t.toList, piece := s.piece + 1 }
    match (steps (t.length + 1)).run s with
    | .ok (_, s) => .ok s
    | .error (.here e left) =>
      .error ⟨s!"-e expression #{s.piece}, char {t.utf8ByteSize - left}: {e}", 1⟩) start
  match s.blocks with
  | n :: _ => throw ⟨s!"-e expression #{n}, char 0: unmatched `\x7b'", 1⟩
  | [] =>
    let ss := s.steps.reverse
    match (jumps ss).find? fun l => !(labels ss).contains l with
    | some l => throw ⟨s!"can't find label for jump to `{l}'", 4⟩
    | none => return closeBlocks ss

/-- Pieces of which one that ends with a backslash goes on in the next. -/
def joinPieces : List String → List String
  | a :: b :: rest =>
    if a.endsWith "\\" then joinPieces ((a ++ "\n" ++ b) :: rest) else a :: joinPieces (b :: rest)
  | ps => ps
termination_by ps => ps.length

end Edit

end Shell

end HyperEvolve
