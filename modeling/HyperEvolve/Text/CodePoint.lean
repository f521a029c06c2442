/-!
# Text as code points

Labels, role names and answers of a service may hold any code point, a surrogate that stands alone
included, so they are lists of code points. Texts that come from a declaration tree are ordinary
strings and embed through `Text.ofString`.
-/

namespace HyperEvolve

/-- A Unicode code point, surrogates included. -/
structure CodePoint where
  val : Nat
  isLt : val < 0x110000
deriving DecidableEq, Repr

namespace CodePoint

def ofChar (c : Char) : CodePoint :=
  ⟨c.toNat, by
    have h := c.valid
    have e : c.toNat = c.val.toNat := rfl
    rw [e]
    rcases h with h | h <;> omega⟩

/-- Leading half of a pair of units that stands for a code point beyond the basic plane. -/
def isHighSurrogate (p : CodePoint) : Bool := 0xD800 ≤ p.val && p.val < 0xDC00

/-- Trailing half of such a pair. -/
def isLowSurrogate (p : CodePoint) : Bool := 0xDC00 ≤ p.val && p.val < 0xE000

def isSurrogate (p : CodePoint) : Bool := 0xD800 ≤ p.val && p.val < 0xE000

/-- The character at a code point; a surrogate has none. -/
def toChar? (p : CodePoint) : Option Char :=
  if h : p.val.isValidChar then some (Char.ofNatAux p.val h) else none

/-- The character at a code point, U+FFFD for a surrogate. -/
def toChar (p : CodePoint) : Char := p.toChar?.getD (Char.ofNat 0xFFFD)

/-- Whether a code point is that of a character. -/
def is (p : CodePoint) (c : Char) : Bool := p.val = c.toNat

/-- The code point with the given number, which is reduced to the range of code points. -/
def ofNat (n : Nat) : CodePoint := ⟨n % 0x110000, Nat.mod_lt n (by decide)⟩

end CodePoint

abbrev Text := List CodePoint

namespace Text

def ofChars (cs : List Char) : Text := cs.map CodePoint.ofChar

def ofString (s : String) : Text := ofChars s.toList

instance : Coe String Text := ⟨ofString⟩

/-- No surrogate occurs. -/
def isScalar (t : Text) : Bool := t.all fun p => !p.isSurrogate

/-- The text as a string, each surrogate shown as U+FFFD. -/
def toString (t : Text) : String := String.ofList (t.map CodePoint.toChar)

def chars (t : Text) : List Char := t.map CodePoint.toChar

/-- What follows a word at the start of a text. -/
def after? (word : String) (t : Text) : Option Text :=
  let w := ofString word
  if w.isPrefixOf t then some (t.drop w.length) else none

/-- The texts one after the other with `sep` between neighbours. -/
def join (sep : Text) : List Text → Text
  | [] => []
  | [t] => t
  | t :: ts => t ++ sep ++ join sep ts

end Text

end HyperEvolve
