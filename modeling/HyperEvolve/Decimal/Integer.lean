import HyperEvolve.Text.Lines

/-!
# Integers written by hand

Ports and similar settings: blanks around a sign and decimal digits of any script, with single
underscores between digits.
-/

namespace HyperEvolve

namespace Decimal

/-- Code points of the digit zero in every script; the other nine follow it. -/
def zeroDigits : List Nat :=
  [0x30, 0x660, 0x6F0, 0x7C0, 0x966, 0x9E6, 0xA66, 0xAE6, 0xB66, 0xBE6, 0xC66, 0xCE6, 0xD66, 0xDE6,
    0xE50, 0xED0, 0xF20, 0x1040, 0x1090, 0x17E0, 0x1810, 0x1946, 0x19D0, 0x1A80, 0x1A90, 0x1B50,
    0x1BB0, 0x1C40, 0x1C50, 0xA620, 0xA8D0, 0xA900, 0xA9D0, 0xA9F0, 0xAA50, 0xABF0, 0xFF10, 0x104A0,
    0x10D30, 0x11066, 0x110F0, 0x11136, 0x111D0, 0x112F0, 0x11450, 0x114D0, 0x11650, 0x116C0,
    0x11730, 0x118E0, 0x11950, 0x11C50, 0x11D50, 0x11DA0, 0x16A60, 0x16AC0, 0x16B50, 0x1D7CE,
    0x1D7D8, 0x1D7E2, 0x1D7EC, 0x1D7F6, 0x1E140, 0x1E2F0, 0x1E950, 0x1FBF0]

def digit? (c : Char) : Option Nat :=
  (zeroDigits.find? fun z => z ≤ c.toNat && c.toNat < z + 10).map (c.toNat - ·)

/-- The value of digits with single underscores between them; `after` says that a digit stands in
front. -/
def digitsFrom? (after : Bool) (n : Nat) : List Char → Option Nat
  | [] => if after then some n else none
  | '_' :: cs => if after then digitsFrom? false n cs else none
  | c :: cs =>
    match digit? c with
    | some d => digitsFrom? true (n * 10 + d) cs
    | none => none

/-- Blanks allowed around a number: of the controls of ASCII only those that move the position. -/
def isPadding (c : Char) : Bool :=
  c = ' ' || (9 ≤ c.toNat && c.toNat ≤ 13) || (127 ≤ c.toNat && Text.isBlank c)

/-- Drops the blanks around a number. -/
def unpadded (cs : List Char) : List Char :=
  ((cs.dropWhile isPadding).reverse.dropWhile isPadding).reverse

/-- Greatest number of digits of an integer to the base ten. -/
def maxDigits : Nat := 4300

/-- The words for an integer with too many digits. -/
def tooManyDigits (digits : Nat) : String :=
  s!"Exceeds the limit ({maxDigits} digits) for integer string conversion: value has {digits} " ++
    "digits; use sys.set_int_max_str_digits() to increase the limit"

/-- The words when such an integer is to be written. -/
def tooLongToWrite : String :=
  s!"Exceeds the limit ({maxDigits} digits) for integer string conversion; " ++
    "use sys.set_int_max_str_digits() to increase the limit"

def digitCount (cs : List Char) : Nat := cs.countP fun c => (digit? c).isSome

def int? (s : String) : Option Int :=
  let cs := unpadded s.toList
  if maxDigits < digitCount cs then none
  else match cs with
    | '-' :: r => (digitsFrom? false 0 r).map fun n => -(n : Int)
    | '+' :: r => (digitsFrom? false 0 r).map Int.ofNat
    | r => (digitsFrom? false 0 r).map Int.ofNat

end Decimal

end HyperEvolve
