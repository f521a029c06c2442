import HyperEvolve.Shell.Syntax
import HyperEvolve.Text.Utf8

/-!
# Patterns

Patterns for file names and words: a star stands for any text, a question mark for any character and
brackets for a choice of characters. A quoted character stands for itself.
-/

namespace HyperEvolve

namespace Shell

/-- A character of a pattern with the mark that it is quoted. -/
structure PatternChar where
  char : Char
  quoted : Bool
deriving DecidableEq, Repr

abbrev Pattern := List PatternChar

/-- A pattern in which nothing is quoted but what a backslash protects. -/
def Pattern.ofChars : List Char → Pattern
  | '\\' :: c :: cs => ⟨c, true⟩ :: ofChars cs
  | c :: cs => ⟨c, false⟩ :: ofChars cs
  | [] => []

/-- Classes of characters that brackets may name. -/
def characterClasses : List (String × (Char → Bool)) :=
  [("alpha", Char.isAlpha), ("digit", Char.isDigit), ("alnum", Char.isAlphanum),
    ("upper", Char.isUpper), ("lower", Char.isLower),
    ("space", fun c => c = ' ' || (9 ≤ c.toNat && c.toNat ≤ 13)), ("blank", fun c => c = ' ' || c = '\t'),
    ("punct", fun c => 33 ≤ c.toNat && c.toNat ≤ 126 && !c.isAlphanum),
    ("print", fun c => 32 ≤ c.toNat && c.toNat ≤ 126), ("graph", fun c => 33 ≤ c.toNat && c.toNat ≤ 126),
    ("cntrl", fun c => c.toNat < 32 || c.toNat = 127),
    ("xdigit", fun c => c.isDigit || ('a' ≤ c && c ≤ 'f') || ('A' ≤ c && c ≤ 'F'))]

/-- One item of a choice of characters. -/
inductive ClassItem where
  | range (first last : Char)
  | named (name : String)
deriving DecidableEq, Repr

def ClassItem.holds (c : Char) : ClassItem → Bool
  | .range a b => a ≤ c && c ≤ b
  | .named n => ((characterClasses.lookup n).map fun p => p c).getD false

/-- A choice of characters, or of those outside it. -/
structure CharacterClass where
  negated : Bool
  items : List ClassItem
deriving DecidableEq, Repr

def CharacterClass.holds (k : CharacterClass) (c : Char) : Bool := k.items.any (·.holds c) != k.negated

/-- The name of a class after `[:`, and the number of characters up to the end of it. -/
def className (cs : List Char) : Option (String × Nat) :=
  let name := cs.takeWhile Char.isAlpha
  if (cs.drop name.length).take 2 = [':', ']'] then some (String.ofList name, name.length + 2) else none

/-- The items of a choice up to the closing bracket, and what follows it. A bracket at the start is an
item. `fuel` bounds their number. -/
def classItems : (fuel : Nat) → (first : Bool) → List Char → Option (List ClassItem × List Char)
  | 0, _, _ => none
  | _ + 1, _, [] => none
  | fuel + 1, first, c :: cs =>
    if c = ']' && !first then some ([], cs)
    else
      match if c = '[' && cs.head? = some ':' then className (cs.drop 1) else none with
      | some (name, n) => (classItems fuel false (cs.drop (n + 1))).map fun r => (.named name :: r.1, r.2)
      | none =>
        match cs with
        | '-' :: d :: rest =>
          if d = ']' then (classItems fuel false cs).map fun r => (.range c c :: r.1, r.2)
          else (classItems fuel false rest).map fun r => (.range c d :: r.1, r.2)
        | _ => (classItems fuel false cs).map fun r => (.range c c :: r.1, r.2)

/-- A choice of characters after its opening bracket, one of the marks negating it. -/
def characterClass (marks : List Char) (cs : List Char) : Option (CharacterClass × List Char) :=
  match cs with
  | c :: rest =>
    if marks.contains c then (classItems (cs.length + 1) true rest).map fun r => (⟨true, r.1⟩, r.2)
    else (classItems (cs.length + 1) true cs).map fun r => (⟨false, r.1⟩, r.2)
  | [] => none

namespace Pattern

/-- Whether a pattern has anything but characters that stand for themselves. -/
def isActive (p : Pattern) : Bool :=
  p.any fun c => !c.quoted && (c.char = '*' || c.char = '?' || c.char = '[')

/-- Which starts of a text, the empty one first, a pattern fits, given at which of them it begins; `fuel`
bounds the length of the pattern. -/
def reach : (fuel : Nat) → Pattern → List Char → List Bool → List Bool
  | 0, _, _, begun => begun.map fun _ => false
  | _ + 1, [], _, begun => begun
  | fuel + 1, p :: ps, cs, begun =>
    let one (takes : Char → Bool) : List Bool := false :: List.zipWith (fun c b => b && takes c) cs begun
    let plain : Unit → List Bool := fun _ => reach fuel ps cs (one (· = p.char))
    if p.quoted then plain ()
    else if p.char = '*' then reach fuel ps cs (onwards false begun)
    else if p.char = '?' then reach fuel ps cs (one fun _ => true)
    else if p.char = '[' then
      match characterClass ['!', '^'] (ps.map PatternChar.char) with
      | some (k, rest) => reach fuel (ps.drop (ps.length - rest.length)) cs (one k.holds)
      | none => plain ()
    else plain ()
where
  /-- All places from the first one on. -/
  onwards (any : Bool) : List Bool → List Bool
    | [] => []
    | b :: bs => (any || b) :: onwards (any || b) bs

/-- Which starts of a text, the empty one first, a pattern fits. -/
def starts (p : Pattern) (cs : List Char) : List Bool :=
  reach (p.length + 1) p cs (true :: cs.map fun _ => false)

/-- Whether a pattern fits a whole text. -/
def fits (p : Pattern) (cs : List Char) : Bool := (starts p cs).getLast?.getD false

/-- The text without the shortest or the longest start or end that a pattern fits. -/
def trim (p : Pattern) (atEnd longest : Bool) (cs : List Char) : List Char :=
  if atEnd then
    let counts := List.range (cs.length + 1)
    let counts := if longest then counts else counts.reverse
    match counts.find? fun n => p.fits (cs.drop n) with
    | some n => cs.take n
    | none => cs
  else
    let starts := p.starts cs
    if longest then
      match starts.reverse.findIdx? id with
      | some n => cs.drop (cs.length - n)
      | none => cs
    else
      match starts.findIdx? id with
      | some n => cs.drop n
      | none => cs

/-- The bytes of a text, each as a character. -/
def octetsOf (s : String) : List Char := (Utf8.encode s).map fun b => Char.ofNat b.toNat

/-- The text that some bytes stand for. -/
def ofOctets (cs : List Char) : String := String.ofList (Utf8.decodeLossy (cs.map fun c => c.toUInt8))

/-- A pattern for bytes in place of characters. -/
def octets (p : Pattern) : Pattern :=
  p.flatMap fun c => (octetsOf (String.singleton c.char)).map fun b => ⟨b, c.quoted⟩

/-- Whether a pattern fits a text by its bytes or by its characters. -/
def fitsText (bytewise : Bool) (p : Pattern) (s : String) : Bool :=
  if bytewise then p.octets.fits (octetsOf s) else p.fits s.toList

/-- Trims a text by its bytes or by its characters. -/
def trimText (bytewise : Bool) (p : Pattern) (atEnd longest : Bool) (s : String) : String :=
  if bytewise then ofOctets (p.octets.trim atEnd longest (octetsOf s))
  else String.ofList (p.trim atEnd longest s.toList)

end Pattern

end Shell

end HyperEvolve
