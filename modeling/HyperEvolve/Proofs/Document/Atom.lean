import HyperEvolve.Proofs.Document.Text
import Mathlib.Algebra.Group.Nat.Defs

/-!
# Words and integers read back

An integer is read back when what follows it cannot go on with a number, and when its digits are not
too many to be read.
-/

namespace HyperEvolve.Document

/-! ## Digits -/

theorem isDigit_ofChar (c : Char) : isDigit (.ofChar c) = c.isDigit := by
  simp only [isDigit, CodePoint.val_ofChar, Char.isDigit, ge_iff_le, UInt32.le_iff_toNat_le]
  rfl

theorem toDigits_eq_cons (n : Nat) :
    ∃ c cs, Nat.toDigits 10 n = c :: cs ∧ isDigit (.ofChar c) = true ∧ ∀ p ∈ Text.ofChars cs, isDigit p = true := by
  have hdigits : ∀ c ∈ Nat.toDigits 10 n, isDigit (.ofChar c) = true := by
    intro c hc
    rw [isDigit_ofChar]
    exact Nat.isDigit_of_mem_toDigits (by decide) (by decide) hc
  obtain ⟨c, cs, hcs⟩ := List.exists_cons_of_ne_nil (Nat.toDigits_ne_nil (n := n) (b := 10))
  rw [hcs, List.forall_mem_cons] at hdigits
  refine ⟨c, cs, hcs, hdigits.1, ?_⟩
  intro p hp
  obtain ⟨d, hd, rfl⟩ := List.mem_map.mp hp
  exact hdigits.2 d hd

theorem digitsValue_toDigits (n : Nat) : digitsValue (Text.ofChars (Nat.toDigits 10 n)) = n := by
  have hfold : digitsValue (Text.ofChars (Nat.toDigits 10 n)) = Nat.ofDigitChars 10 (Nat.toDigits 10 n) 0 := by
    rw [digitsValue, Text.ofChars, List.foldl_map, Nat.ofDigitChars_eq_foldl]
    simp only [CodePoint.val_ofChar, Nat.mul_comm]
    rfl
  rw [hfold, Nat.ofDigitChars_toDigits (by decide) (by decide)]

theorem toDigits_injective : Function.Injective (Nat.toDigits 10) := by
  intro n m h
  rw [← digitsValue_toDigits n, h, digitsValue_toDigits]

theorem lt_width {k n : Nat} (h : 10 ^ k ≤ n) : k < Decimal.width n := by
  rcases Nat.eq_zero_or_pos k with rfl | hk
  · exact List.length_pos_of_ne_nil Nat.toDigits_ne_nil
  · rw [← Nat.not_le, Decimal.width, Nat.length_toDigits_le_iff (by decide) hk]
    exact Nat.not_lt.mpr h

/-- Only zero is written with a leading zero. -/
theorem eq_zero_of_head?_toDigits {n : Nat} (h : (Nat.toDigits 10 n).head? = some '0') : n = 0 := by
  induction n using Nat.strongRecOn with
  | ind n ih =>
      rw [Nat.toDigits_eq_if (by decide)] at h
      split at h
      · rename_i hn
        have hdigits : ∀ m < 10, [m.digitChar].head? = some '0' → m = 0 := by decide
        exact hdigits n hn h
      · rename_i hn
        rw [List.head?_append_of_ne_nil _ Nat.toDigits_ne_nil] at h
        have hzero := ih (n / 10) (by omega) h
        omega

/-- A number does not go on with this text. -/
def Stops (r : Text) : Prop :=
  ∀ p ∈ r.head?, isDigit p = false ∧ p.is '.' = false ∧ p.is 'e' = false ∧ p.is 'E' = false

theorem stops_nil : Stops [] := by
  intro p hp
  cases hp

theorem readWhole_toDigits (n : Nat) {r : Text} (hr : Stops r) :
    readWhole (Text.ofChars (Nat.toDigits 10 n) ++ r) = some (Text.ofChars (Nat.toDigits 10 n), r) := by
  obtain ⟨c, cs, hcs, hc, hdigits⟩ := toDigits_eq_cons n
  by_cases h0 : c = '0'
  · subst h0
    have hn : n = 0 := eq_zero_of_head?_toDigits (by rw [hcs]; rfl)
    subst hn
    rfl
  · have htake : r.takeWhile isDigit = [] ∧ r.dropWhile isDigit = r := by
      cases r with
      | nil => exact ⟨rfl, rfl⟩
      | cons p r => simp [(hr p rfl).1]
    rw [hcs, Text.ofChars_cons, List.cons_append]
    simp only [readWhole, CodePoint.is_ofChar, h0, decide_false, Bool.false_eq_true, ↓reduceIte, hc,
      List.takeWhile_append_of_pos hdigits, List.dropWhile_append_of_pos hdigits, htake.1, htake.2,
      List.append_nil]

theorem readFraction_of_stops {r : Text} (hr : Stops r) : readFraction r = none := by
  cases r with
  | nil => rfl
  | cons p r => simp [readFraction, (hr p rfl).2.1]

theorem readExponent_of_stops {r : Text} (hr : Stops r) : readExponent r = none := by
  cases r with
  | nil => rfl
  | cons p r => simp [readExponent, (hr p rfl).2.2.1, (hr p rfl).2.2.2]

/-! ## Integers -/

theorem toDigits_ne_sign (n : Nat) (cs : List Char) : Nat.toDigits 10 n ≠ '-' :: cs := by
  intro h
  obtain ⟨c, ds, hds, hc, -⟩ := toDigits_eq_cons n
  rw [hds] at h
  cases h
  cases hc

theorem writeInt_ne_sign (n : Int) : writeInt n ≠ ['-'] := by
  cases n with
  | ofNat n => exact toDigits_ne_sign n []
  | negSucc n => exact fun h => Nat.toDigits_ne_nil (List.cons.inj h).2

theorem writeInt_injective : Function.Injective writeInt := by
  intro n m h
  cases n with
  | ofNat n =>
      cases m with
      | ofNat m => exact congrArg Int.ofNat (toDigits_injective h)
      | negSucc m => exact absurd h (toDigits_ne_sign n _)
  | negSucc n =>
      cases m with
      | ofNat m => exact absurd h.symm (toDigits_ne_sign m _)
      | negSucc m => exact congrArg Int.negSucc (Nat.succ.inj (toDigits_injective (List.cons.inj h).2))

/-- The digits of an integer are read to their end; whether they are too many is asked only then. -/
theorem readNumber_writeInt (n : Int) {r : Text} (hr : Stops r) :
    readNumber (Text.ofChars (writeInt n) ++ r) =
      (integerOf (decide (n < 0)) (Text.ofChars (Nat.toDigits 10 n.natAbs))).map fun d => (d, r) := by
  cases n with
  | ofNat n =>
      obtain ⟨c, cs, hcs, hdigit, -⟩ := toDigits_eq_cons n
      have hc : c ≠ '-' := by
        rintro rfl
        cases hdigit
      have hread := readWhole_toDigits n hr
      have hsign : decide (Int.ofNat n < 0) = false := decide_eq_false (Int.not_lt.mpr (Int.natCast_nonneg n))
      rw [writeInt, Int.natAbs_ofNat', hsign]
      rw [hcs, Text.ofChars_cons, List.cons_append] at hread ⊢
      simp only [readNumber, CodePoint.is_ofChar, hc, decide_false, Bool.false_eq_true, ↓reduceIte, hread,
        readFraction_of_stops hr, readExponent_of_stops hr]
  | negSucc n =>
      have hread := readWhole_toDigits (n + 1) hr
      have hsign : decide (Int.negSucc n < 0) = true := decide_eq_true (Int.negSucc_lt_zero n)
      rw [hsign]
      simp only [writeInt, Int.natAbs_negSucc, Nat.succ_eq_add_one, Text.ofChars_cons, List.cons_append,
        readNumber, CodePoint.is_ofChar, decide_true, ↓reduceIte, hread, readFraction_of_stops hr,
        readExponent_of_stops hr, Bool.false_eq_true]

theorem length_digits (n : Int) : (Text.ofChars (Nat.toDigits 10 n.natAbs)).length = Decimal.width n.natAbs :=
  Text.length_ofChars _

theorem integerOf_digits {n : Int} (h : Decimal.width n.natAbs ≤ Decimal.maxDigits) :
    integerOf (decide (n < 0)) (Text.ofChars (Nat.toDigits 10 n.natAbs)) = .ok (.int n) := by
  have hvalue : (if decide (n < 0) then -(n.natAbs : Int) else n.natAbs) = n := by
    by_cases hn : n < 0
    · rw [if_pos (decide_eq_true hn)]
      omega
    · rw [if_neg (by simpa using hn)]
      omega
  rw [integerOf, length_digits, if_neg (Nat.not_lt.mpr h), digitsValue_toDigits]
  exact congrArg (fun n => Except.ok (Document.int n)) hvalue

theorem integerOf_digits_of_lt {n : Int} (h : Decimal.maxDigits < Decimal.width n.natAbs) :
    integerOf (decide (n < 0)) (Text.ofChars (Nat.toDigits 10 n.natAbs)) =
      .error (.longInteger (Decimal.width n.natAbs)) := by
  rw [integerOf, length_digits, if_pos h]

/-! ## Atoms -/

theorem after?_eq_none_of_digit {t : Text} (ht : (t.take 2).any isDigit = true) :
    ∀ w ∈ words, Text.after? w.1 t = none := by
  have hwords : ∀ w ∈ words, 2 ≤ (Text.ofString w.1).length ∧
      ((Text.ofString w.1).take 2).any isDigit = false := by
    decide
  intro w hw
  obtain ⟨hlength, hdigit⟩ := hwords w hw
  rw [Text.after?, if_neg]
  intro hpre
  obtain ⟨r, rfl⟩ := List.isPrefixOf_iff_prefix.mp hpre
  rw [List.take_append_of_le_length hlength, hdigit] at ht
  cases ht

theorem readAtom_writeInt (n : Int) (r : Text) :
    readAtom (Text.ofChars (writeInt n) ++ r) = readNumber (Text.ofChars (writeInt n) ++ r) := by
  have hdigit : ((Text.ofChars (writeInt n) ++ r).take 2).any isDigit = true := by
    cases n with
    | ofNat n =>
        obtain ⟨c, cs, hcs, hc, -⟩ := toDigits_eq_cons n
        simp [writeInt, hcs, hc]
    | negSucc n =>
        obtain ⟨c, cs, hcs, hc, -⟩ := toDigits_eq_cons (n + 1)
        simp [writeInt, hcs, hc]
  have hnone : (words.findSome? fun w =>
      (Text.after? w.1 (Text.ofChars (writeInt n) ++ r)).map fun r => (w.2, r)) = none := by
    rw [List.findSome?_eq_none_iff]
    intro w hw
    rw [after?_eq_none_of_digit hdigit w hw, Option.map_none]
  rw [readAtom, hnone]

theorem readAtom_null (r : Text) : readAtom (Text.ofChars "null".toList ++ r) = .ok (.null, r) := rfl

theorem readAtom_bool (b : Bool) (r : Text) :
    readAtom (Text.ofChars (write (.bool b)) ++ r) = .ok (.bool b, r) := by
  cases b <;> rfl

end HyperEvolve.Document
