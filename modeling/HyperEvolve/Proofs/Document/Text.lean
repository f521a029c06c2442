import HyperEvolve.Document.Reader
import HyperEvolve.Document.Writer
import Mathlib.Data.List.Chain

/-!
# Texts read back

A written text is read as one or two units for each code point. Joining the pairs of surrogates among
the units gives the text back, unless a high surrogate stood directly before a low one in it.
-/

namespace HyperEvolve

/-! ## Code points -/

namespace CodePoint

theorem ext_val {p q : CodePoint} (h : p.val = q.val) : p = q := by
  cases p; cases q; cases h; rfl

@[simp] theorem val_ofChar (c : Char) : (ofChar c).val = c.toNat := rfl

@[simp] theorem is_ofChar (c d : Char) : (ofChar c).is d = decide (c = d) := by
  simp only [is, val_ofChar, Char.toNat_inj]

theorem ofChar_injective : Function.Injective ofChar := fun _ _ h => Char.toNat_inj.mp (congrArg val h)

theorem val_ofNat {n : Nat} (h : n < 0x110000) : (ofNat n).val = n := Nat.mod_eq_of_lt h

theorem ofNat_val (p : CodePoint) : ofNat p.val = p := ext_val (val_ofNat p.isLt)

theorem ofChar_toChar {p : CodePoint} (h : p.val < 0xD800) : ofChar p.toChar = p := by
  have hv : p.val.isValidChar := Or.inl h
  refine ext_val ?_
  rw [val_ofChar, toChar, toChar?, dif_pos hv]
  rfl

end CodePoint

namespace Text

@[simp] theorem ofChars_nil : ofChars [] = [] := rfl

@[simp] theorem ofChars_cons (c : Char) (cs : List Char) : ofChars (c :: cs) = .ofChar c :: ofChars cs := rfl

@[simp] theorem ofChars_append (cs ds : List Char) : ofChars (cs ++ ds) = ofChars cs ++ ofChars ds :=
  List.map_append

@[simp] theorem length_ofChars (cs : List Char) : (ofChars cs).length = cs.length := List.length_map _

theorem ofString_inj {s s' : String} : ofString s = ofString s' ↔ s = s' := by
  constructor
  · intro h
    exact String.toList_inj.mp (List.map_injective_iff.mpr CodePoint.ofChar_injective h)
  · rintro rfl
    rfl

theorem toString_ofString (s : String) : (ofString s).toString = s := by
  have hchar : CodePoint.toChar ∘ CodePoint.ofChar = id := by
    funext c
    have hv : c.toNat.isValidChar := c.valid
    have hc : CodePoint.toChar? (.ofChar c) = some (Char.ofNatAux c.toNat hv) := dif_pos hv
    rw [Function.comp_apply, CodePoint.toChar, hc]
    rfl
  rw [toString, ofString, ofChars, List.map_map, hchar, List.map_id, String.ofList_toList]

/-- No high surrogate stands directly before a low one. -/
def Unpaired (t : Text) : Prop := t.IsChain fun p q => ¬(p.isHighSurrogate ∧ q.isLowSurrogate)

instance (t : Text) : Decidable t.Unpaired := inferInstanceAs (Decidable (List.IsChain _ t))

/-- A text of characters holds no pair of surrogates. -/
theorem unpaired_of_isScalar {t : Text} (h : t.isScalar = true) : t.Unpaired := by
  induction t with
  | nil => exact List.isChain_nil
  | cons p t ih =>
      simp only [isScalar, List.all_cons, Bool.and_eq_true] at h
      refine List.isChain_cons.mpr ⟨fun q _ hpq => ?_, ih h.2⟩
      simp only [CodePoint.isSurrogate, CodePoint.isHighSurrogate, Bool.not_eq_true', Bool.and_eq_false_iff,
        Bool.and_eq_true, decide_eq_true_eq, decide_eq_false_iff_not] at h hpq
      omega

theorem isScalar_ofString (s : String) : (ofString s).isScalar = true := by
  simp only [isScalar, ofString, ofChars, List.all_map, List.all_eq_true, Function.comp_apply]
  intro c _
  have hc : c.toNat < 0xD800 ∨ 0xDFFF < c.toNat ∧ c.toNat < 0x110000 := c.valid
  simp only [CodePoint.isSurrogate, Bool.not_eq_true', Bool.and_eq_false_iff, decide_eq_false_iff_not]
  rw [CodePoint.val_ofChar]
  omega

theorem unpaired_ofString (s : String) : (ofString s).Unpaired := unpaired_of_isScalar (isScalar_ofString s)

end Text

namespace Document

/-! ## Written code points -/

/-- The halves of a code point beyond the basic plane. -/
def highHalf (p : CodePoint) : CodePoint := .ofNat (0xD800 + (p.val - 0x10000) / 1024)

def lowHalf (p : CodePoint) : CodePoint := .ofNat (0xDC00 + (p.val - 0x10000) % 1024)

/-- The four ways to write a code point, with the units that are read from each. -/
inductive Written (p : CodePoint) : List Char → List TextUnit → Prop where
  | letter {c : Char} (hc : escaped? (.ofChar c) = some p) : Written p ['\\', c] [.plain p]
  | plain (hq : p.val ≠ 34) (hb : p.val ≠ 92) (hlow : 32 ≤ p.val) (hhigh : p.val < 127) :
      Written p [p.toChar] [.plain p]
  | numbered (h : p.val < 0x10000) : Written p (unitEscape p.val) [.numbered p]
  | halves (h : 0x10000 ≤ p.val) :
      Written p (unitEscape (highHalf p).val ++ unitEscape (lowHalf p).val)
        [.numbered (highHalf p), .numbered (lowHalf p)]

def units (p : CodePoint) : List TextUnit :=
  if p.val ∈ [34, 92, 10, 13, 9, 8, 12] ∨ 32 ≤ p.val ∧ p.val < 127 then [.plain p]
  else if p.val < 0x10000 then [.numbered p]
  else [.numbered (highHalf p), .numbered (lowHalf p)]

theorem val_highHalf (p : CodePoint) : (highHalf p).val = 0xD800 + (p.val - 0x10000) / 1024 := by
  have hp := p.isLt
  exact CodePoint.val_ofNat (by omega)

theorem val_lowHalf (p : CodePoint) : (lowHalf p).val = 0xDC00 + (p.val - 0x10000) % 1024 :=
  CodePoint.val_ofNat (by omega)

theorem written (p : CodePoint) : Written p (writePoint p) (units p) := by
  by_cases hletter : p.val ∈ [34, 92, 10, 13, 9, 8, 12]
  · rw [units, if_pos (.inl hletter)]
    have hp := CodePoint.ofNat_val p
    simp only [List.mem_cons, List.not_mem_nil, or_false] at hletter
    rcases hletter with h | h | h | h | h | h | h <;> rw [h] at hp <;> subst hp <;>
      exact .letter (by decide)
  · have hnone := hletter
    simp only [List.mem_cons, List.not_mem_nil, or_false, not_or] at hnone
    obtain ⟨h34, h92, h10, h13, h9, h8, h12⟩ := hnone
    by_cases hplain : 32 ≤ p.val ∧ p.val < 127
    · have hw : writePoint p = [p.toChar] := by
        simp [writePoint, h34, h92, h10, h13, h9, h8, h12, hplain.1, hplain.2]
      rw [units, if_pos (.inr hplain), hw]
      exact .plain h34 h92 hplain.1 hplain.2
    · rw [units, if_neg (not_or.mpr ⟨hletter, hplain⟩)]
      have hrange : (decide (32 ≤ p.val) && decide (p.val < 127)) = false := by
        rw [← Bool.decide_and, decide_eq_false hplain]
      by_cases hbasic : p.val < 0x10000
      · have hw : writePoint p = unitEscape p.val := by
          simp [writePoint, h34, h92, h10, h13, h9, h8, h12, hrange, hbasic]
        rw [if_pos hbasic, hw]
        exact .numbered hbasic
      · have hw : writePoint p = unitEscape (highHalf p).val ++ unitEscape (lowHalf p).val := by
          rw [val_highHalf, val_lowHalf]
          simp [writePoint, h34, h92, h10, h13, h9, h8, h12, hrange, hbasic]
        rw [if_neg hbasic, hw]
        exact .halves (Nat.le_of_not_lt hbasic)

/-! ## Joining pairs -/

theorem isHighSurrogate_highHalf (p : CodePoint) : (highHalf p).isHighSurrogate = true := by
  have hp := p.isLt
  simp only [CodePoint.isHighSurrogate, val_highHalf, Bool.and_eq_true, decide_eq_true_eq]
  omega

theorem isLowSurrogate_lowHalf (p : CodePoint) : (lowHalf p).isLowSurrogate = true := by
  simp only [CodePoint.isLowSurrogate, val_lowHalf, Bool.and_eq_true, decide_eq_true_eq]
  omega

theorem joinPair_halves {p : CodePoint} (h : 0x10000 ≤ p.val) : joinPair (highHalf p) (lowHalf p) = p := by
  have hp := p.isLt
  have hsum : 0x10000 + ((highHalf p).val - 0xD800) * 1024 + ((lowHalf p).val - 0xDC00) = p.val := by
    rw [val_highHalf, val_lowHalf]
    omega
  rw [joinPair, hsum, CodePoint.ofNat_val]

theorem joinPairs_numbered {p : CodePoint} {us : List TextUnit}
    (h : ∀ q, us.head? = some (.numbered q) → ¬(p.isHighSurrogate ∧ q.isLowSurrogate)) :
    joinPairs (.numbered p :: us) = p :: joinPairs us := by
  match us with
  | [] => rfl
  | .plain q :: us => rfl
  | .numbered q :: us =>
      have hpq : (p.isHighSurrogate && q.isLowSurrogate) = false := by
        rw [Bool.eq_false_iff, ne_eq, Bool.and_eq_true]
        exact h q rfl
      simp only [joinPairs, hpq, Bool.false_eq_true, ↓reduceIte]

theorem Written.joinPairs_append {p : CodePoint} {cs : List Char} {us vs : List TextUnit}
    (h : Written p cs us)
    (hvs : ∀ q, vs.head? = some (.numbered q) → ¬(p.isHighSurrogate ∧ q.isLowSurrogate)) :
    joinPairs (us ++ vs) = p :: joinPairs vs := by
  cases h with
  | letter hc => rfl
  | plain hq hb hlow hhigh => rfl
  | numbered h => exact joinPairs_numbered hvs
  | halves h =>
      simp only [List.cons_append, List.nil_append, joinPairs, isHighSurrogate_highHalf,
        isLowSurrogate_lowHalf, Bool.and_self, ↓reduceIte, joinPair_halves h]

/-- A first unit that is a low surrogate comes from a code point that is one. -/
theorem Written.eq_of_head? {p q : CodePoint} {cs : List Char} {us vs : List TextUnit}
    (h : Written p cs us) (hq : (us ++ vs).head? = some (.numbered q)) (hlow : q.isLowSurrogate = true) :
    p = q := by
  cases h with
  | letter hc => cases hq
  | plain hq' hb hlow hhigh => cases hq
  | numbered h => cases hq; rfl
  | halves h =>
      cases hq
      have hhigh := isHighSurrogate_highHalf p
      simp only [CodePoint.isHighSurrogate, CodePoint.isLowSurrogate, Bool.and_eq_true,
        decide_eq_true_eq] at hhigh hlow
      omega

theorem joinPairs_flatMap_units {t : Text} (h : t.Unpaired) : joinPairs (t.flatMap units) = t := by
  induction t with
  | nil => rfl
  | cons p t ih =>
      obtain ⟨hp, ht⟩ := List.isChain_cons.mp h
      rw [List.flatMap_cons, (written p).joinPairs_append, ih ht]
      intro q hq hpq
      cases t with
      | nil => cases hq
      | cons p' t =>
          rw [List.flatMap_cons] at hq
          have he := (written p').eq_of_head? hq hpq.2
          exact hp q (by rw [he]; rfl) hpq

/-! ## Reading units -/

section

variable {start r : Text} {fuel : Nat}

theorem readUnits_quote : readUnits start (fuel + 1) (.ofChar '"' :: r) = .ok ([], r) := by
  simp [readUnits]

theorem readUnits_plain {p : CodePoint} (hq : p.val ≠ 34) (hb : p.val ≠ 92) (hc : 32 ≤ p.val) :
    readUnits start (fuel + 1) (p :: r) = (readUnits start fuel r).map fun x => (.plain p :: x.1, x.2) := by
  have h₁ : p.is '"' = false := decide_eq_false hq
  have h₂ : p.is '\\' = false := decide_eq_false hb
  simp only [readUnits, h₁, h₂, Bool.false_eq_true, ↓reduceIte, if_neg (Nat.not_lt.mpr hc)]

theorem eq_of_escaped? {c : Char} {p : CodePoint} (h : escaped? (.ofChar c) = some p) :
    ∃ e ∈ escapes, e.1 = c := by
  obtain ⟨e, he, -⟩ := Option.map_eq_some_iff.mp h
  refine ⟨e, List.mem_of_find?_eq_some he, ?_⟩
  have hc := List.find?_some he
  rw [CodePoint.is_ofChar, decide_eq_true_eq] at hc
  exact hc.symm

theorem readUnits_letter {c : Char} {p : CodePoint} (hc : escaped? (.ofChar c) = some p) :
    readUnits start (fuel + 1) (.ofChar '\\' :: .ofChar c :: r) =
      (readUnits start fuel r).map fun x => (.plain p :: x.1, x.2) := by
  have hu : c ≠ 'u' := by
    rintro rfl
    have hnone : escaped? (.ofChar 'u') = none := by decide
    rw [hnone] at hc
    cases hc
  simp [readUnits, hu, hc]

theorem hexValue?_hexDigit (n : Nat) (h : n < 16) :
    hexValue? (.ofChar ("0123456789abcdef".toList.getD n '0')) = some n := by
  revert n; decide

theorem readUnits_unitEscape (p : CodePoint) (hp : p.val < 0x10000) (hr : r ≠ []) :
    readUnits start (fuel + 1) (Text.ofChars (unitEscape p.val) ++ r) =
      (readUnits start fuel r).map fun x => (.numbered p :: x.1, x.2) := by
  obtain ⟨q, r, rfl⟩ := List.exists_cons_of_ne_nil hr
  have hvalue : p.val / 16 / 16 / 16 % 16 * 4096 + p.val / 16 / 16 % 16 * 256 + p.val / 16 % 16 * 16 +
      p.val % 16 = p.val := by
    omega
  simp only [unitEscape, Text.hexDigits, List.nil_append, List.cons_append,
    Text.ofChars_cons, Text.ofChars_nil, readUnits, CodePoint.is_ofChar, Char.reduceEq, decide_false,
    decide_true, Bool.false_eq_true, ↓reduceIte, readNumbered, unit?,
    hexValue?_hexDigit _ (Nat.mod_lt _ (by decide : 16 > 0)), Option.bind_eq_bind, Option.bind_some,
    Option.pure_def, Option.map_some, hvalue, CodePoint.ofNat_val]

/-- One code point read back; something must follow it, as the closing quote does. -/
theorem Written.readUnits_append {p : CodePoint} {cs : List Char} {us : List TextUnit} (h : Written p cs us)
    (hr : r ≠ []) :
    readUnits start (fuel + us.length) (Text.ofChars cs ++ r) =
      (readUnits start fuel r).map fun x => (us ++ x.1, x.2) := by
  cases h with
  | letter hc => exact readUnits_letter hc
  | plain hq hb hlow hhigh =>
      rw [Text.ofChars_cons, CodePoint.ofChar_toChar (by omega)]
      exact readUnits_plain hq hb hlow
  | numbered h => exact readUnits_unitEscape p h hr
  | halves h =>
      have hp := p.isLt
      have hhigh : (highHalf p).val < 0x10000 := by rw [val_highHalf]; omega
      have hlow : (lowHalf p).val < 0x10000 := by rw [val_lowHalf]; omega
      rw [Text.ofChars_append, List.append_assoc]
      change readUnits start (fuel + 1 + 1) _ = _
      rw [readUnits_unitEscape _ hhigh (by simp [unitEscape]), readUnits_unitEscape _ hlow hr]
      cases readUnits start fuel r <;> rfl

theorem readUnits_flatMap (t : Text) :
    readUnits start (fuel + (t.flatMap units).length + 1)
        (Text.ofChars (t.flatMap writePoint) ++ .ofChar '"' :: r) = .ok (t.flatMap units, r) := by
  induction t with
  | nil => exact readUnits_quote
  | cons p t ih =>
      have hfuel : fuel + ((p :: t).flatMap units).length + 1 =
          fuel + (t.flatMap units).length + 1 + (units p).length := by
        rw [List.flatMap_cons, List.length_append]
        omega
      rw [hfuel, List.flatMap_cons, Text.ofChars_append, List.append_assoc,
        (written p).readUnits_append (by simp), ih]
      rfl

end

/-! ## Written texts -/

theorem Written.length_le {p : CodePoint} {cs : List Char} {us : List TextUnit} (h : Written p cs us) :
    us.length ≤ cs.length := by
  cases h <;> simp [unitEscape]

theorem length_flatMap_units_le (t : Text) : (t.flatMap units).length ≤ (t.flatMap writePoint).length := by
  induction t with
  | nil => exact Nat.le_refl 0
  | cons p t ih =>
      have hp := (written p).length_le
      simp only [List.flatMap_cons, List.length_append]
      omega

/-- A written text is read back, with what follows it left over. -/
theorem readText_writeText {t start r : Text} {fuel : Nat} (ht : t.Unpaired)
    (hfuel : (writeText t).length ≤ fuel + 1) :
    readText fuel start (Text.ofChars (t.flatMap writePoint) ++ .ofChar '"' :: r) = .ok (t, r) := by
  have hunits := length_flatMap_units_le t
  simp only [writeText, List.length_cons, List.length_append, List.length_nil] at hfuel
  obtain ⟨spare, rfl⟩ : ∃ spare, fuel = spare + (t.flatMap units).length + 1 :=
    ⟨fuel - ((t.flatMap units).length + 1), by omega⟩
  rw [readText, readUnits_flatMap]
  exact congrArg (fun t => Except.ok (t, r)) (joinPairs_flatMap_units ht)

/-! ## Printable characters -/

/-- From the space to the tilde. -/
def Printable (c : Char) : Prop := 0x20 ≤ c.toNat ∧ c.toNat ≤ 0x7E

instance (c : Char) : Decidable (Printable c) := inferInstanceAs (Decidable (_ ∧ _))

theorem printable_of_all {cs : List Char} (h : cs.all (fun c => decide (Printable c)) = true) :
    ∀ c ∈ cs, Printable c := by
  intro c hc
  exact of_decide_eq_true (List.all_eq_true.mp h c hc)

theorem printable_hexDigit (n : Nat) : Printable ("0123456789abcdef".toList.getD n '0') := by
  by_cases h : n < 16
  · revert n; decide
  · rw [List.getD_eq_getElem?_getD, List.getElem?_eq_none (Nat.le_of_not_lt h)]
    decide

theorem printable_unitEscape (n : Nat) : ∀ c ∈ unitEscape n, Printable c := by
  have hhex : ∀ w n, ∀ c ∈ Text.hexDigits w n, Printable c := by
    intro w
    induction w with
    | zero => simp [Text.hexDigits]
    | succ w ih =>
        intro n c hc
        rw [Text.hexDigits, List.mem_append, List.mem_singleton] at hc
        rcases hc with hc | rfl
        · exact ih _ c hc
        · exact printable_hexDigit _
  simp only [unitEscape, List.forall_mem_cons]
  exact ⟨by decide, by decide, hhex 4 n⟩

theorem Written.printable {p : CodePoint} {cs : List Char} {us : List TextUnit} (h : Written p cs us) :
    ∀ c ∈ cs, Printable c := by
  cases h with
  | letter hc =>
      obtain ⟨e, he, rfl⟩ := eq_of_escaped? hc
      have hescapes : ∀ e ∈ escapes, Printable e.1 := by decide
      simp only [List.forall_mem_cons]
      exact ⟨by decide, hescapes e he, by simp⟩
  | plain hq hb hlow hhigh =>
      have hval : p.toChar.toNat = p.val := congrArg CodePoint.val (CodePoint.ofChar_toChar (by omega))
      simp only [List.mem_singleton, forall_eq, Printable, hval]
      omega
  | numbered h => exact printable_unitEscape _
  | halves h => exact List.forall_mem_append.mpr ⟨printable_unitEscape _, printable_unitEscape _⟩

theorem printable_writeText (t : Text) : ∀ c ∈ writeText t, Printable c := by
  simp only [writeText, List.forall_mem_cons, List.forall_mem_append, List.mem_flatMap]
  refine ⟨by decide, ?_, by decide, by simp⟩
  rintro c ⟨p, -, hc⟩
  exact (written p).printable c hc

end Document

end HyperEvolve
