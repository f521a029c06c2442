import HyperEvolve.Decimal.Shortest

/-!
# A fixed number of places

The exact value of a binary number rounded to a number of places after the point, or to a number of
digits in front of an exponent.
-/

namespace HyperEvolve

namespace Decimal

/-- A binary number as a fraction. -/
def fraction (mantissa : Nat) : (exponent : Int) → Nat × Nat
  | .ofNat k => (mantissa * Nat.pow 2 k, 1)
  | .negSucc k => (mantissa, Nat.pow 2 (k + 1))

/-- Digits with a point in front of the last `places` of them. -/
def pointed (places n : Nat) : List Char :=
  let ds := Nat.toDigits 10 n
  let ds := List.replicate (places + 1 - ds.length) '0' ++ ds
  if places = 0 then ds else ds.take (ds.length - places) ++ '.' :: ds.drop (ds.length - places)

/-- A fraction with a number of places. -/
def fixed (places : Nat) (num den : Nat) : List Char :=
  pointed places (roundDiv (num * Nat.pow 10 places) den)

/-- A fraction with one digit and a number of places, and the exponent that belongs to them. -/
def scientific (places : Nat) (num den : Nat) : Nat × Int :=
  if num = 0 then (0, 0)
  else
    let e := floorLog10 num den
    let (a, b) := scaleTen num den (places - e)
    let c := roundDiv a b
    if c = Nat.pow 10 (places + 1) then (Nat.pow 10 places, e + 1) else (c, e)

/-- A number that is not negative, with a number of places. -/
def fixedFloat (places : Nat) (x : Float) : String :=
  match parts x with
  | .finite _ value =>
    let (num, den) := fraction value.mantissa value.exponent
    String.ofList (fixed places num den)
  | _ => String.ofList (fixed places 0 1)

end Decimal

end HyperEvolve
