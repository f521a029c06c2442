import HyperEvolve.Shell.Pattern
import Std.Data.HashSet

/-!
# Regular expressions

The two written forms of regular expressions and their matches. Of all matches at the leftmost
possible place the longest one counts.
-/

namespace HyperEvolve

namespace Shell

/-- A place between characters, by whether a word begins or ends there. -/
inductive Edge where
  | first
  | last
  | either
  | neither
  /-- No word goes on in front of the place. -/
  | fresh
  /-- No word goes on behind the place. -/
  | closed
deriving DecidableEq, Repr

inductive Regex where
  | empty
  | char (c : Char)
  | any
  | choice (k : CharacterClass)
  | start
  | finish
  | textStart
  | textEnd
  | edge (e : Edge)
  | group (index : Nat) (body : Regex)
  | again (index : Nat)
  | both (first second : Regex)
  | either (first second : Regex)
  | repeated (body : Regex) (least : Nat) (most : Option Nat)
deriving Repr

namespace Regex

/-! ## Matching -/

/-- What a group has matched: the first characters of a text. -/
structure Taken where
  index : Nat
  text : List Char
  count : Nat

/-- A place in a text: the character in front of it and what follows, with the groups matched so far. -/
structure Spot where
  before : Option Char
  rest : List Char
  /-- How many characters follow. -/
  left : Nat
  groups : List Taken

/-- The text of a group, which is empty if it has matched nothing. -/
def Spot.group (s : Spot) (index : Nat) : List Char :=
  match s.groups.find? (·.index = index) with
  | some g => g.text.take g.count
  | none => []

/-- The place in front of a text. -/
def Spot.start (before : Option Char) (text : List Char) : Spot := ⟨before, text, text.length, []⟩

/-- Letters beyond ASCII: all but the blocks of signs. -/
def isWideLetter (c : Char) : Bool :=
  let n := c.toNat
  let signs := [(0x80, 0xA9), (0xAB, 0xB4), (0xB6, 0xB9), (0xBB, 0xBF), (0xD7, 0xD7), (0xF7, 0xF7), (0x300, 0x36F),
    (0x2000, 0x2070), (0x2072, 0x207E), (0x2080, 0x208F), (0x20A0, 0x2101), (0x2190, 0x2BFF), (0x3000, 0x3004),
    (0x3008, 0x3020), (0xE000, 0xF8FF), (0xFE00, 0xFE6F), (0xFEFF, 0xFF0F), (0xFFE0, 0xFFFF), (0x1F000, 0x1FAFF)]
  128 ≤ n && !signs.any fun r => r.1 ≤ n && n ≤ r.2

/-- Classes that have letters beyond ASCII, too. -/
def wideClasses : List String := ["alpha", "alnum", "graph", "print"]

def isWordChar (c : Char) : Bool := c.isAlphanum || c = '_' || isWideLetter c

def Spot.next (s : Spot) (c : Char) (rest : List Char) : Spot :=
  { s with before := some c, rest, left := s.left - 1 }

/-- Moves over a text if it stands here. -/
def Spot.across (s : Spot) : List Char → Option Spot
  | [] => some s
  | c :: cs =>
    match s.rest with
    | d :: rest => if c = d then (s.next d rest).across cs else none
    | [] => none

/-- How a text is matched: without regard to case, and with its lines apart. -/
structure Mode where
  ignoreCase : Bool
  lines : Bool

/-- Matches a text as it is. -/
def exact : Mode := ⟨false, false⟩

def fold (ignoreCase : Bool) (c : Char) : Char := if ignoreCase then c.toLower else c

/-- Whether a choice has a character; one that leaves characters out has no line end when lines are
apart. -/
def holds (m : Mode) (k : CharacterClass) (c : Char) : Bool :=
  let wide : ClassItem → Bool
    | .named n => wideClasses.contains n && isWideLetter c
    | .range _ _ => false
  let inside := k.items.any fun i =>
    i.holds c || wide i || (m.ignoreCase && (i.holds c.toLower || i.holds c.toUpper))
  inside != k.negated && !(m.lines && k.negated && c = '\n')

/-- Whether an expression that takes just one character takes this one; none for other expressions. -/
def takes? (m : Mode) : Regex → Option (Char → Bool)
  | .char c => some fun d => fold m.ignoreCase c = fold m.ignoreCase d
  | .any => some fun d => !(m.lines && d = '\n')
  | .choice k => some (holds m k)
  | _ => none

/-- The places after each number of characters of a kind, the last one first. -/
def runs (takes : Char → Bool) (least : Nat) (most : Option Nat) :
    List Char → (count : Nat) → Spot → (found : List Spot) → List Spot
  | [], count, s, found => if least ≤ count then s :: found else found
  | c :: cs, count, s, found =>
    let found := if least ≤ count then s :: found else found
    if most = some count || !takes c then found else runs takes least most cs (count + 1) (s.next c cs) found

/-- Whether an expression asks for the text of a group. -/
def recalls : Regex → Bool
  | .again _ => true
  | .group _ a | .repeated a _ _ => recalls a
  | .both a b | .either a b => recalls a || recalls b
  | _ => false

/-- The first of the places with the same text left. Groups apart, a match goes on from each of them in
the same way. -/
def distinct (spots : List Spot) : List Spot :=
  match spots with
  | [] => []
  | [s] => [s]
  | _ =>
    ((spots.foldl (fun (acc : List Spot × Std.HashSet Nat) s =>
      if acc.2.contains s.left then acc else (s :: acc.1, acc.2.insert s.left)) ([], {})).1).reverse

/-- Places that have been found, the last one first, and those from which the repetitions that are left
have been tried. -/
structure Trail where
  found : List Spot
  tried : Std.HashSet (Nat × Nat × Option Nat)

mutual
/-- All places where a match from a place may end, the preferred ones first. With `all`, places that
differ in their groups alone count as different. -/
def ends (m : Mode) (all : Bool) : (fuel : Nat) → Regex → Spot → List Spot
  | 0, _, _ => []
  | fuel + 1, r, s =>
    match r with
    | .empty => [s]
    | .char c =>
      match s.rest with
      | d :: rest => if fold m.ignoreCase c = fold m.ignoreCase d then [s.next d rest] else []
      | [] => []
    | .any =>
      match s.rest with
      | d :: rest => if m.lines && d = '\n' then [] else [s.next d rest]
      | [] => []
    | .choice k =>
      match s.rest with
      | d :: rest => if holds m k d then [s.next d rest] else []
      | [] => []
    | .start => if s.before.isNone || (m.lines && s.before = some '\n') then [s] else []
    | .finish => if s.rest.isEmpty || (m.lines && s.rest.head? = some '\n') then [s] else []
    | .textStart => if s.before.isNone then [s] else []
    | .textEnd => if s.rest.isEmpty then [s] else []
    | .edge e =>
      let before := s.before.any isWordChar
      let after := s.rest.head?.any isWordChar
      let fits := match e with
        | .first => !before && after
        | .last => before && !after
        | .either => before != after
        | .neither => before == after
        | .fresh => !before
        | .closed => !after
      if fits then [s] else []
    | .group i body =>
      (ends m all fuel body s).map fun t => { t with groups := ⟨i, s.rest, s.left - t.left⟩ :: t.groups }
    | .again i => (s.across (s.group i)).toList
    | .both a b =>
      let spots := (ends m all fuel a s).flatMap (ends m all fuel b)
      if all then spots else distinct spots
    | .either a b =>
      let spots := ends m all fuel a s ++ ends m all fuel b s
      if all then spots else distinct spots
    | .repeated body least most =>
      match takes? m body with
      | some takes => runs takes least most s.rest 0 s []
      | none => (rounds m all fuel body least most s ⟨[], {}⟩).found.reverse

/-- Goes on with the repetitions of an expression from a place. -/
def rounds (m : Mode) (all : Bool) : (fuel : Nat) → Regex → (least : Nat) → (most : Option Nat) → Spot →
    Trail → Trail
  | 0, _, _, _, _, trail => trail
  | fuel + 1, body, least, most, s, trail =>
    let key := (s.left, least, most)
    if !all && trail.tried.contains key then trail
    else
      let trail := if all then trail else { trail with tried := trail.tried.insert key }
      let trail := if most = some 0 then trail
        else (ends m all fuel body s).foldl (fun trail t =>
          if t.left = s.left && least = 0 then trail
          else rounds m all fuel body (least - 1) (most.map (· - 1)) t trail) trail
      if least = 0 then { trail with found := s :: trail.found } else trail
end

/-- Whether an expression has a group. -/
def hasGroup : Regex → Bool
  | .group _ _ => true
  | .both a b | .either a b => hasGroup a || hasGroup b
  | .repeated a _ _ => hasGroup a
  | _ => false

/-- How deep matching may go. -/
def depth : Regex → Nat
  | .both a b => depth a + depth b + 1
  | .either a b => depth a + depth b + 1
  | .group _ a => depth a + 1
  | .repeated a least _ => depth a + least + 1
  | _ => 1

/-- The longest match that begins at a place. -/
def matchAt (r : Regex) (m : Mode) (s : Spot) : Option Spot :=
  let fuel := r.depth + s.left * 2 + 8
  (ends m r.recalls fuel r s).foldl (fun best t =>
    match best with
    | some b => if t.left < b.left then some t else some b
    | none => some t) none

/-- A match in a text: what stands before it, what it takes, what follows, and its groups. -/
structure Match where
  skipped : List Char
  taken : List Char
  spot : Spot

/-- The first match from a place on. -/
def find (r : Regex) (m : Mode) : (skipped : List Char) → Spot → List Char → Option Match
  | skipped, s, [] =>
    (r.matchAt m s).map fun t => ⟨skipped.reverse, [], { t with before := s.before }⟩
  | skipped, s, c :: cs =>
    match r.matchAt m s with
    | some t => some ⟨skipped.reverse, s.rest.take (s.left - t.left), t⟩
    | none => r.find m (c :: skipped) (s.next c cs) cs

def search (r : Regex) (m : Mode) (before : Option Char) (text : List Char) : Option Match :=
  r.find m [] (Spot.start before text) text

/-! ## Written forms -/

/-- The forms in which expressions are written. The basic one marks its signs by backslashes. -/
structure Dialect where
  extended : Bool
  /-- A star or a count may not follow another sign of repetition. -/
  single : Bool
  /-- A sign of repetition needs something in front of it; otherwise the extended form passes over it. -/
  strict : Bool
  /-- Braces without a count stand for themselves. -/
  loose : Bool

def basic : Dialect := ⟨false, false, false, false⟩
def extended : Dialect := ⟨true, false, false, true⟩
def basicEdit : Dialect := ⟨false, true, false, false⟩
def extendedEdit : Dialect := ⟨true, false, true, false⟩

inductive Fault where
  | form
  | collation
  | className
  | trailing
  | reference
  | bracket
  | opening
  | brace
  | count
  | range
  | preceding
  | size
  | closing
deriving DecidableEq, Repr

def Fault.message : Fault → String
  | .form => "Invalid regular expression"
  | .collation => "Invalid collation character"
  | .className => "Invalid character class name"
  | .trailing => "Trailing backslash"
  | .reference => "Invalid back reference"
  | .bracket => "Unmatched [, [^, [:, [., or [="
  | .opening => "Unmatched ( or \\("
  | .brace => "Unmatched \\\x7b"
  | .count => "Invalid content of \\\x7b\\\x7d"
  | .range => "Invalid range end"
  | .preceding => "Invalid preceding regular expression"
  | .size => "Regular expression too big"
  | .closing => "Unmatched ) or \\)"

/-- An expression that is being read. -/
structure Reader where
  chars : List Char
  /-- Whether a caret here stands for the start of a line. -/
  caret : Bool
  groups : Nat
  /-- Groups that are closed. -/
  closed : List Nat

abbrev Read := StateT Reader (Except Fault)

inductive Token where
  | char (c : Char)
  | open
  | close
  | alternative
  | star
  | plus
  | question
  | openCount
  | closeCount
  | bracket
  | simple (r : Regex)
  | anchor (r : Regex)
  | again (index : Nat)
  | backslash
  | finish

def wordClass : CharacterClass := ⟨false, [.named "alnum", .range '_' '_']⟩

def spaceClass : CharacterClass := ⟨false, [.named "space"]⟩

/-- A sign that stands for the same in both forms when a backslash is in front of it. -/
def escaped (c : Char) : Token :=
  match c with
  | 'w' => .simple (.choice wordClass)
  | 'W' => .simple (.choice { wordClass with negated := true })
  | 's' => .simple (.choice spaceClass)
  | 'S' => .simple (.choice { spaceClass with negated := true })
  | '<' => .anchor (.edge .first)
  | '>' => .anchor (.edge .last)
  | 'b' => .anchor (.edge .either)
  | 'B' => .anchor (.edge .neither)
  | '\'' => .anchor .textEnd
  | c =>
    if c.toNat = 96 then .anchor .textStart
    else if c.isDigit && c ≠ '0' then .again (c.toNat - 48)
    else .char c

/-- A sign that the extended form writes alone and the basic one with a backslash. -/
def sign? : Char → Option Token
  | '(' => some .open
  | ')' => some .close
  | '|' => some .alternative
  | '+' => some .plus
  | '?' => some .question
  | '\x7b' => some .openCount
  | '\x7d' => some .closeCount
  | _ => none

/-- The next token and its length, but for anchors at the ends of lines. -/
def plainToken (d : Dialect) (cs : List Char) : Token × Nat :=
  match cs with
  | [] => (.finish, 0)
  | ['\\'] => (.backslash, 1)
  | '\\' :: c :: _ =>
    match sign? c with
    | some t => (if d.extended then .char c else t, 2)
    | none => (escaped c, 2)
  | c :: _ =>
    match if d.extended then sign? c else none with
    | some t => (t, 1)
    | none =>
      (match c with
        | '*' => .star
        | '.' => .simple .any
        | '[' => .bracket
        | _ => .char c, 1)

/-- The next token and its length. -/
def token (d : Dialect) (caret : Bool) (cs : List Char) : Token × Nat :=
  match cs with
  | '^' :: _ => if d.extended || caret then (.anchor .start, 1) else (.char '^', 1)
  | '$' :: rest =>
    let ends := rest.isEmpty || d.extended || match (plainToken d rest).1 with
      | .alternative | .close => true
      | _ => false
    (if ends then .anchor .finish else .char '$', 1)
  | _ => plainToken d cs

def peek (d : Dialect) : Read (Token × Nat) := do
  let s ← get
  return token d s.caret s.chars

/-- Passes over some characters; `caret` says whether a caret after them stands for the start of a
line. -/
def take (n : Nat) (caret : Bool) : Read Unit := modify fun s => { s with chars := s.chars.drop n, caret }

/-! ### Choices of characters -/

/-- A member of a choice: a character, or a class that cannot end a range. -/
inductive Member where
  | char (c : Char)
  | named (name : String)

def Member.item : Member → ClassItem
  | .char c => .range c c
  | .named n => .named n

/-- The name between a sign and the same sign in front of a closing bracket, and what follows. -/
def enclosed (sign : Char) : List Char → Option (List Char × List Char)
  | a :: b :: rest =>
    if a = sign && b = ']' then some ([], rest)
    else (enclosed sign (b :: rest)).map fun r => (a :: r.1, r.2)
  | _ => none

/-- One member at the start of a text, and what follows. -/
def member (cs : List Char) : Except Fault (Member × List Char) :=
  match cs with
  | [] => .error .bracket
  | '[' :: sign :: rest =>
    if sign = ':' || sign = '.' || sign = '=' then
      match enclosed sign rest with
      | none => .error .bracket
      | some (name, rest) =>
        if sign = ':' then
          let name := String.ofList name
          if (characterClasses.lookup name).isSome then .ok (.named name, rest) else .error .className
        else match name with
          | [c] => .ok (.char c, rest)
          | _ => .error .collation
    else .ok (.char '[', sign :: rest)
  | c :: rest => .ok (.char c, rest)

/-- The members of a choice up to its closing bracket, and what follows; `fuel` bounds their number. -/
def members : (fuel : Nat) → (first : Bool) → List Char → Except Fault (List ClassItem × List Char)
  | 0, _, _ | _, _, [] => .error .bracket
  | fuel + 1, first, c :: cs => do
    if c = ']' && !first then return ([], cs)
    if c = '-' && !first && cs.head? ≠ some ']' then throw .range
    let (low, rest) ← member (c :: cs)
    match rest with
    | ['-'] => throw .bracket
    | '-' :: d :: more =>
      if d = ']' then
        let (items, rest) ← members fuel false rest
        return (low.item :: items, rest)
      else
        let (high, rest) ← member (d :: more)
        match low, high with
        | .char a, .char b =>
          if b < a then throw .range
          let (items, rest) ← members fuel false rest
          return (.range a b :: items, rest)
        | _, _ => throw .range
    | _ =>
      let (items, rest) ← members fuel false rest
      return (low.item :: items, rest)

/-- A choice after its opening bracket, and what follows it. -/
def readChoice (cs : List Char) : Except Fault (CharacterClass × List Char) := do
  let negated := cs.head? = some '^'
  let cs := if negated then cs.drop 1 else cs
  if cs.isEmpty then throw .form
  let (items, rest) ← members (cs.length + 1) true cs
  return (⟨negated, items⟩, rest)

/-! ### Expressions -/

/-- The greatest count. -/
def greatestCount : Nat := 32767

/-- What a number in a count comes to. -/
inductive CountNumber where
  | missing
  | wrong
  | given (n : Nat)

def CountNumber.push (k : CountNumber) (c : Char) : CountNumber :=
  match k with
  | .wrong => .wrong
  | .missing => if c.isDigit then .given (c.toNat - 48) else .wrong
  | .given n => if c.isDigit then .given (min (greatestCount + 1) (n * 10 + (c.toNat - 48))) else .wrong

/-- The next number in a count, and the token behind it; `fuel` bounds its length. -/
def countNumber (d : Dialect) : (fuel : Nat) → CountNumber → Read (CountNumber × Token)
  | 0, k => return (k, .finish)
  | fuel + 1, k => do
    let (t, n) ← peek d
    take n false
    match t with
    | .finish => return (.wrong, .finish)
    | .closeCount => return (k, .closeCount)
    | .char ',' => return (k, .char ',')
    | .char c => countNumber d fuel (k.push c)
    | _ => countNumber d fuel .wrong

/-- The numbers of a count behind its brace. -/
def counts (d : Dialect) : Read (Except Fault (Nat × Option Nat)) := do
  let fuel := (← get).chars.length + 1
  let (low, t) ← countNumber d fuel .missing
  let ends : Token → Bool
    | .finish => true
    | _ => false
  let closes : Token → Bool
    | .closeCount => true
    | _ => false
  let fits (low : Nat) (high : Option Nat) (t : Token) : Except Fault (Nat × Option Nat) :=
    if !closes t || high.any (· < low) then .error .count
    else if greatestCount < high.getD low then .error .size
    else .ok (low, high)
  let wrong (t : Token) : Except Fault (Nat × Option Nat) := .error (if ends t then .brace else .count)
  let upTo (low : Nat) : Read (Except Fault (Nat × Option Nat)) := do
    let (high, t) ← countNumber d fuel .missing
    return match high with
      | .missing => fits low none t
      | .wrong => wrong t
      | .given n => fits low (some n) t
  match low, t with
  | .missing, .char ',' => upTo 0
  | .missing, _ => return .error .count
  | .wrong, t => return wrong t
  | .given n, .closeCount => return fits n (some n) .closeCount
  | .given n, .char ',' => upTo n
  | .given _, t => return wrong t

mutual
/-- Alternatives; `nested` says that a group is open. -/
def alternatives (d : Dialect) : (fuel : Nat) → (nested : Bool) → Read Regex
  | 0, _ => throw .size
  | fuel + 1, nested => do
    let closed := (← get).closed
    let first ← branch d fuel nested
    let (t, n) ← peek d
    match t with
    | .alternative =>
      take n true
      let reached := (← get).closed
      modify fun s => { s with closed }
      let second ← alternatives d fuel nested
      modify fun s => { s with closed := s.closed ++ reached }
      return .either first second
    | _ => return first

/-- Pieces one after the other. -/
def branch (d : Dialect) : (fuel : Nat) → (nested : Bool) → Read Regex
  | 0, _ => throw .size
  | fuel + 1, nested => do
    match (← peek d).1 with
    | .finish | .alternative => return .empty
    | .close => if nested then return .empty else piece d fuel nested
    | _ => piece d fuel nested

/-- A piece with what follows it. -/
def piece (d : Dialect) : (fuel : Nat) → (nested : Bool) → Read Regex
  | 0, _ => throw .size
  | fuel + 1, nested => do
    let (t, n) ← peek d
    let atom (r : Regex) (caret : Bool) : Read Regex := do
      take n caret
      return r
    let repeatable (r : Regex) : Read Regex := do
      take n false
      let r ← repeats d fuel r
      return .both r (← branch d fuel nested)
    let stray : Read Regex := do
      if d.strict then throw .preceding
      else if d.extended then
        take n false
        branch d fuel nested
      else repeatable (.char (((← get).chars.drop (n - 1)).headD '*'))
    match t with
    | .finish | .alternative => return .empty
    | .char c => repeatable (.char c)
    | .simple r => repeatable r
    | .anchor r =>
      let r ← atom r false
      return .both r (← branch d fuel nested)
    | .again i =>
      if !(← get).closed.contains i then throw .reference
      repeatable (.again i)
    | .backslash => throw .trailing
    | .bracket =>
      let (k, rest) ← readChoice ((← get).chars.drop 1)
      modify fun s => { s with chars := rest, caret := false }
      let r ← repeats d fuel (.choice k)
      return .both r (← branch d fuel nested)
    | .open =>
      take n true
      let index := (← get).groups + 1
      modify fun s => { s with groups := index }
      let body ← alternatives d fuel true
      let (t, n) ← peek d
      match t with
      | .close =>
        take n false
        modify fun s => { s with closed := index :: s.closed }
        let r ← repeats d fuel (.group index body)
        return .both r (← branch d fuel nested)
      | _ => throw .opening
    | .close => if d.loose then repeatable (.char ')') else throw .closing
    | .openCount =>
      if d.single then throw .preceding
      let here ← get
      take n false
      match ← counts d with
      | .ok _ => if d.loose then branch d fuel nested else do
          set here
          stray
      | .error _ =>
        set here
        if d.loose then repeatable (.char '\x7b') else stray
    | .closeCount => repeatable (.char '\x7d')
    | .star | .plus | .question => stray

/-- The signs of repetition after a piece. -/
def repeats (d : Dialect) : (fuel : Nat) → Regex → Read Regex
  | 0, _ => throw .size
  | fuel + 1, r => do
    let (t, n) ← peek d
    let again (r : Regex) : Read Regex := do
      let followed := match (← peek d).1 with
        | .star | .openCount => true
        | _ => false
      if d.single && followed then throw .preceding
      repeats d fuel r
    match t with
    | .star =>
      take n false
      again (.repeated r 0 none)
    | .plus =>
      take n false
      again (.repeated r 1 none)
    | .question =>
      take n false
      again (.repeated r 0 (some 1))
    | .openCount =>
      take n false
      let here ← get
      match ← counts d with
      | .ok (low, high) => again (.repeated r low high)
      | .error e =>
        if d.loose && (e = .count || e = .brace) then
          set here
          return .both r (← repeats d fuel (.char '\x7b'))
        else throw e
    | _ => return r
end

/-- Reads an expression, and counts its groups. -/
def readGroups (d : Dialect) (text : List Char) : Except Fault (Regex × Nat) := do
  let (r, s) ← (alternatives d (8 * text.length + 16) false).run ⟨text, true, 0, []⟩
  return (r, s.groups)

/-- Reads an expression. -/
def read (d : Dialect) (text : List Char) : Except Fault Regex := (readGroups d text).map Prod.fst

/-- An expression that matches exactly a text. -/
def literal (text : List Char) : Regex := text.foldr (fun c r => .both (.char c) r) .empty

end Regex

end Shell

end HyperEvolve
