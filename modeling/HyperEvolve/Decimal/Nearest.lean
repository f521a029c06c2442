/-!
# Rounding to nearest

Quotients of natural numbers rounded to whole numbers and to binary numbers of a fixed precision, a
half always to the even neighbour. All arithmetic is exact, so every number is rounded once.
-/

namespace HyperEvolve

namespace Decimal

/-- The whole number nearest to `num / den`, the even one of two. -/
def roundDiv (num den : Nat) : Nat :=
  let q := num / den
  let twice := 2 * (num % den)
  if den < twice || (twice = den && q % 2 = 1) then q + 1 else q

theorem roundDiv_mul (n : Nat) {den : Nat} (h : 0 < den) : roundDiv (n * den) den = n := by
  have : n * den % den = 0 := Nat.mul_mod_left n den
  have hq : n * den / den = n := Nat.mul_div_cancel n h
  simp only [roundDiv, this, hq]
  have h0 : ¬ (0 = den) := by omega
  simp [h0]

/-- Greatest `e` with `2 ^ e ≤ num / den`. -/
def floorLog2 (num den : Nat) : Int :=
  let e : Int := (Nat.log2 num : Int) - Nat.log2 den
  let (a, b) := match e with
    | .ofNat k => (num, den * Nat.pow 2 k)
    | .negSucc k => (num * Nat.pow 2 (k + 1), den)
  if b ≤ a then e else e - 1

/-- Binary numbers with a number of digits, none of them below a least exponent. -/
structure Precision where
  digits : Nat
  least : Int

def double : Precision := ⟨53, -1074⟩

def extended : Precision := ⟨64, -16445⟩

/-- The number `mantissa * 2 ^ exponent` nearest to `num / den`. -/
def nearestBinary (p : Precision) (num den : Nat) : Nat × Int :=
  if num = 0 then (0, p.least)
  else
    let e := max p.least (floorLog2 num den - (p.digits - 1 : Nat))
    let m := match e with
      | .ofNat k => roundDiv num (den * Nat.pow 2 k)
      | .negSucc k => roundDiv (num * Nat.pow 2 (k + 1)) den
    (m, e)

/-- Whether a number lies beyond the greatest one of a precision, whose exponents reach as far up as
down. -/
def Precision.isTooLarge (p : Precision) (mantissa : Nat) (exponent : Int) : Bool :=
  mantissa ≠ 0 && 3 - p.least - p.digits ≤ exponent + Nat.log2 mantissa

/-- Bits of the first number that is not finite. -/
def infinityBits : Nat := 2047 * 0x10000000000000

/-- The finite number nearest to `num / den`, or infinity when that lies closer. A mantissa rounded up
to the next power of two carries into the exponent by itself. -/
def nearest (num den : Nat) : Float :=
  let (m, e) := nearestBinary double num den
  let bits : Int := (e + 1074) * 0x10000000000000 + m
  Float.ofBits (UInt64.ofNat (min bits.toNat infinityBits))

end Decimal

end HyperEvolve
