/-!
# Reading positions

A position in a settings text: what is left of it, how many characters came before, and the line and
column reached. The end of the text is the position with nothing left.
-/

namespace HyperEvolve

namespace Yaml

/-! ## Classes of characters -/

/-- Characters that may stand in a text at all. -/
def isAllowed (c : Char) : Bool :=
  let n := c.toNat
  n = 9 || n = 10 || n = 13 || (0x20 ≤ n && n ≤ 0x7E) || n = 0x85 || (0xA0 ≤ n && n ≤ 0xD7FF) ||
    (0xE000 ≤ n && n ≤ 0xFFFD) || 0x10000 ≤ n

def isBreak (c : Char) : Bool :=
  c = '\n' || c = '\r' || c = '\u0085' || c = '\u2028' || c = '\u2029'

def atBreak : Option Char → Bool
  | none => true
  | some c => isBreak c

/-- A space, a line break or the end. -/
def atSpace : Option Char → Bool
  | none => true
  | some c => c = ' ' || isBreak c

/-- A space, a tab, a line break or the end. -/
def atBlank : Option Char → Bool
  | none => true
  | some c => c = ' ' || c = '\t' || isBreak c

/-- Letters of names: of anchors, tag handles and directives. -/
def isWordChar (c : Char) : Bool := c.isAlphanum || c = '-' || c = '_'

/-! ## Positions -/

structure Cursor where
  rest : List Char
  index : Nat
  line : Nat
  column : Nat

namespace Cursor

def start (text : List Char) : Cursor := ⟨text, 0, 0, 0⟩

def peek (c : Cursor) : Option Char := c.rest.head?

def peekAt (c : Cursor) (n : Nat) : Option Char := c.rest[n]?

/-- One character further. A byte order mark takes no column. -/
def next (c : Cursor) : Cursor :=
  match c.rest with
  | [] => c
  | ch :: rest =>
    if isBreak ch && !(ch = '\r' && rest.head? = some '\n') then ⟨rest, c.index + 1, c.line + 1, 0⟩
    else if ch = '\ufeff' then ⟨rest, c.index + 1, c.line, c.column⟩
    else ⟨rest, c.index + 1, c.line, c.column + 1⟩

def advance (c : Cursor) : Nat → Cursor
  | 0 => c
  | n + 1 => c.next.advance n

/-- The characters up to the first that is not of a class, and the position after them. -/
def span (c : Cursor) (p : Char → Bool) : List Char × Cursor :=
  let taken := c.rest.takeWhile p
  (taken, c.advance taken.length)

def skip (c : Cursor) (p : Char → Bool) : Cursor := (c.span p).2

def skipSpaces (c : Cursor) : Cursor := c.skip (· = ' ')

/-- Skips a comment if one begins here. -/
def skipComment (c : Cursor) : Cursor :=
  if c.peek = some '#' then c.skip (!isBreak ·) else c

/-- The line break here as it counts in a text, and the position after it. -/
def lineBreak (c : Cursor) : List Char × Cursor :=
  match c.rest with
  | '\r' :: '\n' :: _ => (['\n'], c.advance 2)
  | ch :: _ =>
    if ch = '\u2028' || ch = '\u2029' then ([ch], c.next)
    else if isBreak ch then (['\n'], c.next)
    else ([], c)
  | [] => ([], c)

/-- Whether three characters and a blank begin here that separate documents. -/
def atSeparator (c : Cursor) (mark : Char) : Bool :=
  c.rest.take 3 = [mark, mark, mark] && atBlank (c.peekAt 3)

def atDocumentMark (c : Cursor) : Bool := c.atSeparator '-' || c.atSeparator '.'

end Cursor

end Yaml

end HyperEvolve
