import Mathlib
import HyperEvolve.Decimal.Shortest

/-!
# The range of binary numbers

A positive integer is rounded to a positive number. That number is finite exactly for the integers below the
middle between the greatest finite number and the power of two above it.
-/

namespace HyperEvolve.Decimal

open Float.Model (UnpackedFloat)
open Float.Model.UnpackedFloat

/-! ## Order against zero -/

section Order

variable {x : Float}

/-- A number above zero, infinity among them. -/
def IsPositive : UnpackedFloat → Prop
  | .infinity .positive | .finite .positive _ _ _ => True
  | _ => False

theorem unpack_zero : (0 : Float).toModel.unpack = .zero .positive := by rfl

theorem pos_iff : 0 < x ↔ IsPositive x.toModel.unpack := by
  have hlt : 0 < x ↔ UnpackedFloat.lt (.zero .positive) x.toModel.unpack = true := by
    rw [← unpack_zero]
    exact decide_eq_true_iff
  rw [hlt]
  cases x.toModel.unpack with
  | infinity s => cases s <;> simp [IsPositive, UnpackedFloat.lt, UnpackedFloat.compare]
  | notANumber => simp [IsPositive, UnpackedFloat.lt, UnpackedFloat.compare]
  | zero s => simp [IsPositive, UnpackedFloat.lt, UnpackedFloat.compare]
  | finite s m e h => cases s <;> simp [IsPositive, UnpackedFloat.lt, UnpackedFloat.compare]

/-- What is not below or at zero is above it, or it is no number. -/
theorem not_nonpos_iff : ¬x ≤ 0 ↔ 0 < x ∨ x.isNaN = true := by
  have hle : x ≤ 0 ↔ UnpackedFloat.le x.toModel.unpack (.zero .positive) = true := by
    rw [← unpack_zero]
    exact decide_eq_true_iff
  rw [hle, pos_iff]
  show _ ↔ _ ∨ UnpackedFloat.isNaN x.toModel.unpack = true
  cases x.toModel.unpack with
  | infinity s => cases s <;> simp [IsPositive, UnpackedFloat.le, UnpackedFloat.compare]
  | notANumber => simp [UnpackedFloat.le, UnpackedFloat.compare]
  | zero s => simp [IsPositive, UnpackedFloat.le, UnpackedFloat.compare]
  | finite s m e h => cases s <;> simp [IsPositive, UnpackedFloat.le, UnpackedFloat.compare]

theorem not_pos_of_isNaN (h : x.isNaN = true) : ¬0 < x := by
  have hunpack : x.toModel.unpack = .notANumber := isNaN_iff.mp h
  simp [pos_iff, hunpack, IsPositive]

end Order

/-! ## Numbers from their bits -/

section Bits

variable {b : Nat}

theorem toNat_bits (h : b ≤ infinityBits) : (UInt64.ofNat b).toBitVec.toNat = b := by
  have hb : b < 2 ^ 64 := lt_of_le_of_lt h (by decide)
  simpa using hb

theorem toNat_unpackExponent (h : b ≤ infinityBits) :
    (@unpackExponent .binary64 (UInt64.ofNat b).toBitVec).toNat = b / 2 ^ 52 % 2 ^ 11 := by
  rw [unpackExponent_def, BitVec.extractLsb'_toNat, toNat_bits h, Nat.shiftRight_eq_div_pow]

theorem toNat_unpackMantissa (h : b ≤ infinityBits) :
    (@unpackMantissa .binary64 (UInt64.ofNat b).toBitVec).toNat = b % 2 ^ 52 := by
  rw [unpackMantissa_def, BitVec.extractLsb'_toNat, toNat_bits h, Nat.shiftRight_zero]

theorem unpackSign_eq_zero (h : b ≤ infinityBits) :
    @unpackSign .binary64 (UInt64.ofNat b).toBitVec = 0#1 := by
  rw [← BitVec.toNat_inj, unpackSign_def, BitVec.extractLsb'_toNat, toNat_bits h, Nat.shiftRight_eq_div_pow]
  rw [infinityBits] at h
  show b / 2 ^ 63 % 2 = 0
  omega

/-- Bits between those of zero and those of infinity are those of a finite positive number. -/
theorem unpack_ofBits (h0 : 0 < b) (h : b < infinityBits) :
    IsPositive (Float.ofBits (UInt64.ofNat b)).toModel.unpack ∧
      (Float.ofBits (UInt64.ofNat b)).toModel.unpack.isInf = false := by
  have hexponent := toNat_unpackExponent h.le
  have hmantissa := toNat_unpackMantissa h.le
  have hlt : b < 2047 * 2 ^ 52 := h
  have hones : @unpackExponent .binary64 (UInt64.ofNat b).toBitVec ≠ -1#11 := by
    intro hones
    rw [hones] at hexponent
    have : (-1#11).toNat = 2047 := rfl
    omega
  have hnan : ¬@isNaNBits .binary64 (UInt64.ofNat b).toBitVec := by
    simp only [isNaNBits, hones, false_and, decide_false, Bool.false_eq_true, not_false_eq_true]
  have hunpack :
      (Float.ofBits (UInt64.ofNat b)).toModel.unpack = unpack .binary64 (UInt64.ofNat b).toBitVec := by
    show unpack .binary64 (pack .binary64 (unpack .binary64 (UInt64.ofNat b).toBitVec)) = _
    rw [pack_unpack, if_neg hnan]
  rw [hunpack]
  simp only [unpack, unpackSign_eq_zero h.le, hones, if_false]
  split_ifs with hsmall hzero
  -- Only zero has neither an exponent nor a mantissa.
  · rw [hsmall, BitVec.toNat_zero] at hexponent
    rw [hzero, BitVec.toNat_zero] at hmantissa
    omega
  · exact ⟨trivial, rfl⟩
  · exact ⟨trivial, rfl⟩

theorem unpack_infinityBits :
    (Float.ofBits (UInt64.ofNat infinityBits)).toModel.unpack = .infinity .positive := by rfl

end Bits

/-! ## Rounding of quotients -/

section Quotients

variable {num den q : Nat}

theorem div_le_roundDiv (num den : Nat) : num / den ≤ roundDiv num den := by
  simp only [roundDiv]
  split <;> omega

theorem roundDiv_le_div_add_one (num den : Nat) : roundDiv num den ≤ num / den + 1 := by
  simp only [roundDiv]
  split <;> omega

/-- A quotient is rounded beyond an odd number from the middle to the next number on. -/
theorem lt_roundDiv_iff_of_odd (hden : 0 < den) (hq : q % 2 = 1) :
    q < roundDiv num den ↔ (2 * q + 1) * den ≤ 2 * num := by
  have hsplit := Nat.div_add_mod num den
  have hrest := Nat.mod_lt num hden
  have hlow := div_le_roundDiv num den
  have hhigh := roundDiv_le_div_add_one num den
  rcases lt_trichotomy q (num / den) with h | h | h
  · have hle : (2 * q + 1) * den ≤ 2 * (num / den) * den := Nat.mul_le_mul_right den (by omega)
    have hwhole : 2 * (num / den) * den = 2 * (den * (num / den)) := by ring
    omega
  · subst h
    have hmiddle : (2 * (num / den) + 1) * den = 2 * (den * (num / den)) + den := by ring
    simp only [roundDiv, hq, decide_true, Bool.and_true, Bool.or_eq_true, decide_eq_true_eq]
    split <;> omega
  · have hle : (2 * (num / den + 1) + 1) * den ≤ (2 * q + 1) * den := Nat.mul_le_mul_right den (by omega)
    have hbeyond : (2 * (num / den + 1) + 1) * den = 2 * (den * (num / den)) + 3 * den := by ring
    omega

end Quotients

/-! ## Rounding of integers -/

/-- The least integer that is rounded to no finite number: the middle between the greatest one and the power of
two above it. -/
def rangeEnd : Nat := 2 ^ 1024 - 2 ^ 970

/-- The mantissa of a positive integer: its leading digits, rounded if there are more. -/
def integerMantissa (n : Nat) : Nat :=
  if n.log2 < 52 then n * 2 ^ (52 - n.log2) else roundDiv n (2 ^ (n.log2 - 52))

/-- The bits of a positive integer, were there no greatest number. -/
def integerBits (n : Nat) : Nat := (n.log2 + 1022) * 2 ^ 52 + integerMantissa n

variable {n : Nat}

theorem rangeEnd_eq : rangeEnd = (2 ^ 54 - 1) * 2 ^ 970 := by
  rw [rangeEnd, Nat.sub_mul, ← pow_add, one_mul]

theorem rangeEnd_pos : 0 < rangeEnd := by
  rw [rangeEnd_eq]
  exact Nat.mul_pos (by decide) (pow_pos two_pos 970)

theorem rangeEnd_le : rangeEnd ≤ 2 ^ 1024 := by simp only [rangeEnd, tsub_le_self]

theorem floorLog2_one (hn : n ≠ 0) : floorLog2 n 1 = n.log2 := by
  have hone : (n.log2 : Int) - (Nat.log2 1 : Nat) = .ofNat n.log2 := by simp [show Nat.log2 1 = 0 from rfl]
  simp only [floorLog2, hone, Nat.pow_eq, one_mul, Nat.log2_self_le hn, if_true]
  rfl

theorem nearestBinary_one (hn : n ≠ 0) : nearestBinary double n 1 = (integerMantissa n, (n.log2 : Int) - 52) := by
  have hexponent : max double.least (floorLog2 n 1 - (double.digits - 1 : Nat)) = (n.log2 : Int) - 52 := by
    rw [floorLog2_one hn]
    simp only [double]
    omega
  simp only [nearestBinary, hn, if_false, hexponent, integerMantissa, Prod.mk.injEq, and_true]
  by_cases h : n.log2 < 52
  · have hshift : (n.log2 : Int) - 52 = .negSucc (51 - n.log2) := by omega
    have hplaces : 51 - n.log2 + 1 = 52 - n.log2 := by omega
    have hwhole := roundDiv_mul (n * 2 ^ (52 - n.log2)) one_pos
    rw [mul_one] at hwhole
    simp only [hshift, h, if_true, Nat.pow_eq, hplaces, hwhole]
  · have hshift : (n.log2 : Int) - 52 = .ofNat (n.log2 - 52) := by simp; omega
    simp only [hshift, h, if_false, Nat.pow_eq, one_mul]

theorem integerMantissa_bounds (hn : n ≠ 0) : 2 ^ 52 ≤ integerMantissa n ∧ integerMantissa n ≤ 2 ^ 53 := by
  have hlow := Nat.log2_self_le hn
  have hhigh := Nat.lt_log2_self (n := n)
  simp only [integerMantissa]
  split
  · rename_i h
    have hleast : 2 ^ n.log2 * 2 ^ (52 - n.log2) = 2 ^ 52 := by rw [← pow_add]; congr 1; omega
    have hmost : 2 ^ (n.log2 + 1) * 2 ^ (52 - n.log2) = 2 ^ 53 := by rw [← pow_add]; congr 1; omega
    exact ⟨hleast ▸ Nat.mul_le_mul_right _ hlow, hmost ▸ Nat.mul_le_mul_right _ hhigh.le⟩
  · rename_i h
    have hleast : 2 ^ 52 * 2 ^ (n.log2 - 52) = 2 ^ n.log2 := by rw [← pow_add]; congr 1; omega
    have hmost : 2 ^ 53 * 2 ^ (n.log2 - 52) = 2 ^ (n.log2 + 1) := by rw [← pow_add]; congr 1; omega
    have hfrom : 2 ^ 52 ≤ n / 2 ^ (n.log2 - 52) := (Nat.le_div_iff_mul_le (Nat.two_pow_pos _)).mpr (hleast ▸ hlow)
    have hbelow : n / 2 ^ (n.log2 - 52) < 2 ^ 53 :=
      (Nat.div_lt_iff_lt_mul (Nat.two_pow_pos _)).mpr (hmost ▸ hhigh)
    have := div_le_roundDiv n (2 ^ (n.log2 - 52))
    have := roundDiv_le_div_add_one n (2 ^ (n.log2 - 52))
    omega

theorem integerBits_pos (hn : n ≠ 0) : 0 < integerBits n := by
  have := integerMantissa_bounds hn
  rw [integerBits]
  omega

theorem nearest_one (hn : n ≠ 0) :
    nearest n 1 = Float.ofBits (UInt64.ofNat (min (integerBits n) infinityBits)) := by
  have hbits : (((n.log2 : Int) - 52 + 1074) * 0x10000000000000 + integerMantissa n).toNat = integerBits n := by
    rw [integerBits]
    omega
  simp only [nearest, nearestBinary_one hn, hbits]

/-- An integer leaves the range with its number of digits or, if it has as many as the greatest number, by being
rounded up. -/
theorem infinityBits_le_integerBits_iff (hn : n ≠ 0) : infinityBits ≤ integerBits n ↔ rangeEnd ≤ n := by
  obtain ⟨hleast, hmost⟩ := integerMantissa_bounds hn
  have hlow := Nat.log2_self_le hn
  have hhigh := Nat.lt_log2_self (n := n)
  simp only [infinityBits, integerBits, rangeEnd_eq]
  -- The exponent is a variable from here on, so that nothing computes its power.
  generalize hk : 970 = k
  have hpos := Nat.two_pow_pos k
  rcases lt_trichotomy n.log2 1023 with h | h | h
  · have hsmall : 2 ^ (n.log2 + 1) ≤ 2 ^ 53 * 2 ^ k := by
      rw [← pow_add]
      exact Nat.pow_le_pow_right two_pos (by omega)
    omega
  · have hshift : n.log2 - 52 = k + 1 := by omega
    have hround := @lt_roundDiv_iff_of_odd n _ (2 ^ 53 - 1) (Nat.two_pow_pos (k + 1)) (by decide)
    rw [integerMantissa, if_neg (by omega), hshift] at hleast hmost ⊢
    rw [pow_succ] at *
    omega
  · have hlarge : 2 ^ 54 * 2 ^ k ≤ 2 ^ n.log2 := by
      rw [← pow_add]
      exact Nat.pow_le_pow_right two_pos (by omega)
    omega

theorem nearest_one_pos (hn : n ≠ 0) : 0 < nearest n 1 := by
  rw [nearest_one hn, pos_iff]
  rcases lt_or_ge (integerBits n) infinityBits with h | h
  · rw [min_eq_left h.le]
    exact (unpack_ofBits (integerBits_pos hn) h).1
  · rw [min_eq_right h, unpack_infinityBits]
    trivial

theorem isInf_nearest_one_iff (hn : n ≠ 0) : (nearest n 1).isInf = true ↔ rangeEnd ≤ n := by
  rw [← infinityBits_le_integerBits_iff hn, nearest_one hn]
  show UnpackedFloat.isInf (Float.ofBits _).toModel.unpack = true ↔ _
  rcases lt_or_ge (integerBits n) infinityBits with h | h
  · rw [min_eq_left h.le, (unpack_ofBits (integerBits_pos hn) h).2]
    simp [h]
  · rw [min_eq_right h, unpack_infinityBits]
    simp [UnpackedFloat.isInf, h]

/-! ## Integers in range -/

theorem pow_le_of_lt_width {e : Nat} (he : 0 < e) (h : e < width n) : 10 ^ e ≤ n := by
  by_contra hlt
  exact absurd (Nat.toDigits_length 10 n e he (not_le.mp hlt)) (not_le.mpr h)

/-- An integer with many digits is out of range, whatever they are. -/
theorem rangeEnd_le_of_lt_width {e : Nat} (he : 1024 ≤ 3 * e) (h : e < width n) : rangeEnd ≤ n :=
  calc rangeEnd ≤ 2 ^ 1024 := rangeEnd_le
    _ ≤ 2 ^ (3 * e) := pow_le_pow_right₀ one_le_two he
    _ = (2 ^ 3) ^ e := pow_mul 2 3 e
    _ ≤ 10 ^ e := Nat.pow_le_pow_left (by decide) e
    _ ≤ n := pow_le_of_lt_width (by omega) h

theorem isInf_infinity : (1.0 / 0.0 : Float).isInf = true := by rfl

theorem ofInt?_eq (hn : n ≠ 0) : ofInt? n = if rangeEnd ≤ n then none else some (nearest n 1) := by
  have htop : ¬((0 : Int) + width n < -400) := by omega
  have hpositive : ¬((n : Int) < 0) := by omega
  simp only [ofInt?, toFloat, Int.natAbs_natCast, hn, htop, hpositive, decide_false, Bool.or_self, Bool.false_eq_true,
    if_false]
  by_cases hwidth : 400 < width n
  · have hbeyond : (400 : Int) < 0 + width n := by omega
    simp only [hbeyond, if_true, isInf_infinity, rangeEnd_le_of_lt_width (by decide) hwidth]
  · have hwithin : ¬(400 : Int) < 0 + width n := by omega
    simp only [hwithin, if_false, Nat.pow_eq, pow_zero, mul_one, isInf_nearest_one_iff hn]

end HyperEvolve.Decimal
