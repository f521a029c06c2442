import HyperEvolve.Proofs.Document.RoundTrip

/-!
# Documents with too long an integer

The reader stops at the first integer that has too many digits, however deep it stands, and the whole
text is refused. All that stands in front of that integer must be readable, or another fault would come
first; what comes after it does not matter.
-/

namespace HyperEvolve.Document

/-- The first fault of the written document is an integer with too many digits. -/
inductive Overlong : Document → Prop where
  | int {n : Int} (h : Decimal.maxDigits < Decimal.width n.natAbs) : Overlong (.int n)
  | array {before after : List Document} {d : Document} (hbefore : ∀ x ∈ before, x.Readable)
      (h : Overlong d) : Overlong (.array (before ++ d :: after))
  | object {before after : List (Text × Document)} {k : Text} {d : Document}
      (htexts : ∀ f ∈ before, f.1.Unpaired) (hbefore : ∀ f ∈ before, f.2.Readable) (hk : k.Unpaired)
      (h : Overlong d) : Overlong (.object (before ++ (k, d) :: after))

theorem Overlong.startsValue {d : Document} (h : d.Overlong) : d.StartsValue := by
  cases h with
  | int h => exact startsValue_int _
  | array hbefore h => exact startsValue_array _
  | object htexts hbefore hk h => exact startsValue_object _

/-- The reader stops inside the document, whatever comes after it. -/
def Refused (d : Document) : Prop :=
  ∀ depth r, 2 * d.write.length ≤ depth + 1 → Stops r →
    ∃ digits, readValue (depth + 1) (Text.ofChars d.write ++ r) = .error (.longInteger digits)

/-! ## A fault inside -/

section

variable {depth : Nat} {t t' : Text} {k : Text} {fault : Fault}

theorem readItems_fault (hd : readValue depth t = .error fault) : readItems (depth + 1) t = .error fault := by
  simp [readItems, hd, bind, Except.bind]

theorem readFields_fault (hk : readText depth (.ofChar '"' :: t) t = .ok (k, .ofChar ':' :: t'))
    (hblank : skipBlank t' = t') (hd : readValue depth t' = .error fault) :
    readFields (depth + 1) (.ofChar '"' :: t) = .error fault := by
  simp [readFields, hk, skipBlank_cons (c := ':') (by decide), hblank, hd, bind, Except.bind]

end

/-! ## What follows the first part of a list -/

theorem writeItems_append (d : Document) (ds : List Document) (r : Text) :
    ∃ r', Stops r' ∧ d.write.length ≤ (writeItems (d :: ds)).length ∧
      Text.ofChars (writeItems (d :: ds)) ++ .ofChar ']' :: r = Text.ofChars d.write ++ r' := by
  cases ds with
  | nil => exact ⟨_, stops_cons (by decide) r, Nat.le_refl _, rfl⟩
  | cons d' ds =>
      refine ⟨_, stops_cons (c := ',') (by decide) (Text.ofChars (writeItems (d' :: ds)) ++ .ofChar ']' :: r), ?_, ?_⟩
      · rw [writeItems_cons_cons, List.length_append]
        exact Nat.le_add_right _ _
      · rw [writeItems_cons_cons, Text.ofChars_append, Text.ofChars_cons, List.append_assoc, List.cons_append]

theorem writeFields_append (f : Text × Document) (fs : List (Text × Document)) (r : Text) :
    ∃ r', Stops r' ∧ (writeText f.1).length + f.2.write.length + 1 ≤ (writeFields (f :: fs)).length ∧
      Text.ofChars (writeFields (f :: fs)) ++ .ofChar '}' :: r =
        Text.ofChars (writeText f.1) ++ .ofChar ':' :: (Text.ofChars f.2.write ++ r') := by
  cases fs with
  | nil =>
      refine ⟨_, stops_cons (c := '}') (by decide) r, ?_, ?_⟩
      · rw [writeFields_singleton, List.length_append, List.length_cons]
        omega
      · rw [writeFields_singleton, Text.ofChars_append, Text.ofChars_cons, List.append_assoc, List.cons_append]
  | cons f' fs =>
      refine ⟨_, stops_cons (c := ',') (by decide)
        (Text.ofChars (writeFields (f' :: fs)) ++ .ofChar '}' :: r), ?_, ?_⟩
      · rw [writeFields_cons_cons, List.length_append, List.length_cons, List.length_append]
        omega
      · simp only [writeFields_cons_cons, Text.ofChars_append, Text.ofChars_cons, List.append_assoc,
          List.cons_append]

/-! ## Refused documents -/

theorem readItems_refused {before after : List Document} {d : Document} (hr : ∀ x ∈ before, x.Readable)
    (hd : d.StartsValue) (hrefused : d.Refused) (depth : Nat) (r : Text)
    (hdepth : 2 * (writeItems (before ++ d :: after)).length ≤ depth) :
    ∃ digits, readItems (depth + 1) (Text.ofChars (writeItems (before ++ d :: after)) ++ .ofChar ']' :: r) =
      .error (.longInteger digits) := by
  induction before generalizing depth with
  | nil =>
      obtain ⟨r', hr', hlength, happend⟩ := writeItems_append d after r
      have hpos := hd.length_write_pos
      rw [List.nil_append] at hdepth ⊢
      obtain ⟨depth, rfl⟩ : ∃ e, depth = e + 1 := ⟨depth - 1, by omega⟩
      obtain ⟨digits, hread⟩ := hrefused depth r' (by omega) hr'
      exact ⟨digits, by rw [happend, readItems_fault hread]⟩
  | cons x before ih =>
      obtain ⟨hx, hr'⟩ := List.forall_mem_cons.mp hr
      -- the rest of the list is not empty, and begins with a value
      obtain ⟨y, ys, hys, hstart⟩ : ∃ y ys, before ++ d :: after = y :: ys ∧ y.StartsValue := by
        cases before with
        | nil => exact ⟨d, after, rfl, hd⟩
        | cons y ys => exact ⟨y, _, rfl, (hr' y List.mem_cons_self).startsValue⟩
      obtain ⟨c, cs, hcs, hc⟩ := hstart.writeItems_eq_cons ys
      have hpos := hx.startsValue.length_write_pos
      rw [List.cons_append, hys, writeItems_cons_cons] at hdepth ⊢
      rw [hys] at ih
      rw [List.length_append, List.length_cons] at hdepth
      obtain ⟨depth, rfl⟩ : ∃ e, depth = e + 1 := ⟨depth - 1, by omega⟩
      obtain ⟨digits, hread⟩ := ih hr' depth (by omega)
      refine ⟨digits, ?_⟩
      rw [Text.ofChars_append, Text.ofChars_cons, List.append_assoc, List.cons_append,
        readItems_next (hx.readsBack depth _ (by omega) (stops_cons (by decide) _)), hread]
      · rfl
      · rw [hcs]
        exact skipBlank_cons hc.1 _

theorem readFields_refused {before after : List (Text × Document)} {k : Text} {d : Document}
    (ht : ∀ f ∈ before, f.1.Unpaired) (hr : ∀ f ∈ before, f.2.Readable) (hk : k.Unpaired)
    (hd : d.StartsValue) (hrefused : d.Refused) (depth : Nat) (r : Text)
    (hdepth : 2 * (writeFields (before ++ (k, d) :: after)).length ≤ depth) :
    ∃ digits, readFields (depth + 1)
        (Text.ofChars (writeFields (before ++ (k, d) :: after)) ++ .ofChar '}' :: r) =
      .error (.longInteger digits) := by
  induction before generalizing depth with
  | nil =>
      obtain ⟨r', hr', hlength, happend⟩ := writeFields_append (k, d) after r
      dsimp only at hlength happend
      rw [List.nil_append] at hdepth ⊢
      obtain ⟨depth, rfl⟩ : ∃ e, depth = e + 1 := ⟨depth - 1, by omega⟩
      obtain ⟨digits, hread⟩ := hrefused depth r' (by omega) hr'
      refine ⟨digits, ?_⟩
      rw [happend, ofChars_writeText_append]
      exact readFields_fault (readText_writeText hk (by omega)) (hd.skipBlank_write _) hread
  | cons f before ih =>
      obtain ⟨hf, hr'⟩ := List.forall_mem_cons.mp hr
      obtain ⟨hname, ht'⟩ := List.forall_mem_cons.mp ht
      obtain ⟨g, gs, hgs⟩ := List.exists_cons_of_ne_nil (List.append_ne_nil_of_right_ne_nil before
        (List.cons_ne_nil (k, d) after))
      obtain ⟨cs, hcs⟩ := writeFields_eq_cons g gs
      rw [List.cons_append, hgs, writeFields_cons_cons] at hdepth ⊢
      rw [hgs] at ih
      rw [List.length_append, List.length_cons, List.length_append, List.length_cons] at hdepth
      obtain ⟨depth, rfl⟩ : ∃ e, depth = e + 1 := ⟨depth - 1, by omega⟩
      obtain ⟨digits, hread⟩ := ih ht' hr' depth (by omega)
      refine ⟨digits, ?_⟩
      rw [Text.ofChars_append, Text.ofChars_cons, Text.ofChars_append, Text.ofChars_cons,
        List.append_assoc, List.cons_append, List.append_assoc, List.cons_append, ofChars_writeText_append,
        readFields_next (readText_writeText hname (by omega)) (hf.startsValue.skipBlank_write _)
          (hf.readsBack depth _ (by omega) (stops_cons (by decide) _)), hread]
      · rfl
      · rw [hcs]
        exact skipBlank_cons (by decide) _

theorem Overlong.refused {d : Document} (h : d.Overlong) : d.Refused := by
  induction h with
  | @int n h =>
      intro depth r _ hr
      refine ⟨Decimal.width n.natAbs, ?_⟩
      rw [readValue_int n depth hr, integerOf_digits_of_lt h]
      rfl
  | @array before after d hbefore h ih =>
      intro depth r hdepth _
      rw [write_array, List.length_cons, List.length_append, List.length_singleton] at hdepth
      obtain ⟨depth, rfl⟩ : ∃ e, depth = e + 1 := ⟨depth - 1, by omega⟩
      obtain ⟨digits, hread⟩ := @readItems_refused before after d hbefore h.startsValue ih depth r (by omega)
      refine ⟨digits, ?_⟩
      cases before with
      | nil =>
          rw [List.nil_append] at hread ⊢
          rw [readValue_writeItems h.startsValue, hread]
          rfl
      | cons x before =>
          rw [List.cons_append] at hread ⊢
          rw [readValue_writeItems (hbefore x List.mem_cons_self).startsValue, hread]
          rfl
  | @object before after k d htexts hbefore hk h ih =>
      intro depth r hdepth _
      rw [write_object, List.length_cons, List.length_append, List.length_singleton] at hdepth
      obtain ⟨depth, rfl⟩ : ∃ e, depth = e + 1 := ⟨depth - 1, by omega⟩
      obtain ⟨digits, hread⟩ :=
        @readFields_refused before after k d htexts hbefore hk h.startsValue ih depth r (by omega)
      obtain ⟨g, gs, hgs⟩ := List.exists_cons_of_ne_nil (List.append_ne_nil_of_right_ne_nil before
        (List.cons_ne_nil (k, d) after))
      refine ⟨digits, ?_⟩
      rw [hgs] at hread ⊢
      rw [readValue_writeFields, hread]
      rfl

theorem read_write_overlong {d : Document} (h : d.Overlong) :
    ∃ digits, read (Text.ofChars d.write) = .error (.longInteger digits) := by
  obtain ⟨digits, hread⟩ := h.refused (2 * (Text.ofChars d.write).length + 1) []
    (by rw [Text.length_ofChars]; omega) stops_nil
  have hwhole := h.startsValue.read_write (List.forall_mem_nil _) []
  rw [List.nil_append, List.append_nil] at hwhole
  rw [List.append_nil] at hread
  refine ⟨digits, ?_⟩
  rw [hwhole, hread]
  rfl

end HyperEvolve.Document
