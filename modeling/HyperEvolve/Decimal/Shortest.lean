import HyperEvolve.Decimal.Nearest

/-!
# Decimal forms of binary numbers

The shortest decimal that reads back as a given finite number, found on grids of one, two and more
digits in exact arithmetic, and the reading of a decimal as the nearest number.
-/

namespace HyperEvolve

namespace Decimal

/-- A positive number `mantissa * 2 ^ exponent`; `isBoundary` says that the gap below it is half the
gap above. -/
structure Binary where
  mantissa : Nat
  exponent : Int
  isBoundary : Bool

/-- A number `coefficient * 10 ^ exponent`. -/
structure Scaled where
  coefficient : Nat
  exponent : Int
deriving DecidableEq, Repr

/-- Number of decimal digits, one for zero. -/
def width (n : Nat) : Nat := (Nat.toDigits 10 n).length

/-- Fraction `num / den` with `num`, `den` scaled by ten to the power `e`. -/
def scaleTen (num den : Nat) (e : Int) : Nat × Nat :=
  match e with
  | .ofNat k => (num * Nat.pow 10 k, den)
  | .negSucc k => (num, den * Nat.pow 10 (k + 1))

/-- Greatest `e` with `10 ^ e ≤ num / den`. -/
def floorLog10 (num den : Nat) : Int :=
  let e : Int := width num - width den
  let (a, b) := scaleTen num den (-e)
  if b ≤ a then e else e - 1

/-- The number as a fraction whose numerator is four times too large, so that the ends of its
rounding interval are fractions over the same denominator. -/
def Binary.quarters (x : Binary) : Nat × Nat :=
  match x.exponent with
  | .ofNat k => (x.mantissa * 4 * Nat.pow 2 k, 4)
  | .negSucc k => (x.mantissa * 4, 4 * Nat.pow 2 (k + 1))

/-- Width of one quarter of the gap above the number, over the denominator of `quarters`. -/
def Binary.quarter (x : Binary) : Nat :=
  match x.exponent with
  | .ofNat k => Nat.pow 2 k
  | .negSucc _ => 1

/-- Whether `c * 10 ^ e` rounds to the number: inside its interval, whose ends belong to it when
the mantissa is even. -/
def Binary.readsBack (x : Binary) (c : Nat) (e : Int) : Bool :=
  let (num, den) := x.quarters
  let low := num - (if x.isBoundary then 1 else 2) * x.quarter
  let high := num + 2 * x.quarter
  let (a, b) := scaleTen c 1 e
  if x.mantissa % 2 = 0 then low * b ≤ a * den && a * den ≤ high * b
  else low * b < a * den && a * den < high * b

/-- The decimals with `digits` digits next to the number that read back, the nearer of two; an
exact tie goes to the even one. -/
def Binary.onGrid? (x : Binary) (digits : Nat) : Option Scaled :=
  let (num, den) := x.quarters
  let e := floorLog10 num den - (digits - 1 : Nat)
  let (a, b) := scaleTen num den (-e)
  let c := a / b
  let below := x.readsBack c e
  let above := x.readsBack (c + 1) e
  let rest := 2 * (a % b)
  let next : Scaled := if c + 1 = Nat.pow 10 digits then ⟨1, e + digits⟩ else ⟨c + 1, e⟩
  if below && above then
    if rest < b || (rest = b && c % 2 = 0) then some ⟨c, e⟩ else some next
  else if below then some ⟨c, e⟩
  else if above then some next
  else none

/-- The decimal with the fewest digits that reads back; seventeen digits always suffice. -/
def Binary.shortest (x : Binary) : Scaled :=
  ((List.range 17).findSome? fun n => x.onGrid? (n + 1)).getD ⟨x.mantissa, 0⟩

/-- What the bits of a number say. -/
inductive Parts where
  | nan
  | infinite (negative : Bool)
  | zero (negative : Bool)
  | finite (negative : Bool) (value : Binary)

def parts (x : Float) : Parts :=
  let bits : Nat := x.toBits.toNat
  let negative := bits / 0x8000000000000000 = 1
  let field : Nat := bits / 0x10000000000000 % 2048
  let fraction : Nat := bits % 0x10000000000000
  if field = 2047 then if fraction = 0 then .infinite negative else .nan
  else if field = 0 then
    if fraction = 0 then .zero negative else .finite negative ⟨fraction, -1074, false⟩
  else .finite negative ⟨0x10000000000000 + fraction, (field : Int) - 1075, fraction = 0 && 1 < field⟩

/-- How a number is written: positionally while the exponent of its first digit lies in a range,
with an exponent of least width outside it. -/
structure Style where
  positionalFrom : Int
  positionalBelow : Int
  exponentWidth : Nat
  nan : String
  infinity : String

def Style.scaled (f : Style) (s : Scaled) : String :=
  let ds := Nat.toDigits 10 s.coefficient
  let top : Int := s.exponent + (ds.length - 1 : Nat)
  if f.positionalFrom ≤ top && top < f.positionalBelow then
    if 0 ≤ s.exponent then
      String.ofList (ds ++ List.replicate s.exponent.toNat '0' ++ ['.', '0'])
    else if 0 ≤ top then
      String.ofList (ds.take (top.toNat + 1) ++ '.' :: ds.drop (top.toNat + 1))
    else
      String.ofList ('0' :: '.' :: List.replicate ((-top).toNat - 1) '0' ++ ds)
  else
    let tail := ds.drop 1
    let exponent := Nat.toDigits 10 top.natAbs
    let padding := List.replicate (f.exponentWidth - exponent.length) '0'
    String.ofList (ds.take 1 ++ (if tail.isEmpty then [] else '.' :: tail) ++
      'e' :: (if top < 0 then '-' else '+') :: (padding ++ exponent))

def Style.write (f : Style) (x : Float) : String :=
  match parts x with
  | .nan => f.nan
  | .infinite negative => (if negative then "-" else "") ++ f.infinity
  | .zero negative => (if negative then "-" else "") ++ "0.0"
  | .finite negative value => (if negative then "-" else "") ++ f.scaled value.shortest

/-- The number nearest to `coefficient * 10 ^ exponent`. Exponents far outside the range of numbers
are decided by the count of digits alone. -/
def toFloat (negative : Bool) (coefficient : Nat) (exponent : Int) : Float :=
  let top : Int := exponent + width coefficient
  let x : Float :=
    if coefficient = 0 || top < -400 then 0.0
    else if 400 < top then 1.0 / 0.0
    else match exponent with
      | .ofNat k => nearest (coefficient * Nat.pow 10 k) 1
      | .negSucc k => nearest coefficient (Nat.pow 10 (k + 1))
  if negative then -x else x

/-- The number nearest to an integer, none when it is out of range. -/
def ofInt? (n : Int) : Option Float :=
  let x := toFloat (n < 0) n.natAbs 0
  if x.isInf then none else some x

end Decimal

end HyperEvolve
