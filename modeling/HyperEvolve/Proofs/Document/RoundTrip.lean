import HyperEvolve.Declaration.Tree
import HyperEvolve.Proofs.Document.Atom
import HyperEvolve.Proofs.Table

/-!
# Documents read back

The compact form of a document is read back as that document, and all its characters are printable.
Reading is stated on a text that goes on after the value, so that the parts of an array and of an
object are read one after the other.
-/

namespace HyperEvolve.Document

/-- What a written document needs to be read back: exact numbers that are not too long, texts without
pairs of surrogates and objects without repeated names. -/
inductive Readable : Document → Prop where
  | null : Readable .null
  | bool (b : Bool) : Readable (.bool b)
  | int {n : Int} (h : Decimal.width n.natAbs ≤ Decimal.maxDigits) : Readable (.int n)
  | text {t : Text} (h : t.Unpaired) : Readable (.text t)
  | array {items : List Document} (h : ∀ d ∈ items, Readable d) : Readable (.array items)
  | object {fields : List (Text × Document)} (hnames : (fields.map Prod.fst).Nodup)
      (htexts : ∀ f ∈ fields, f.1.Unpaired) (h : ∀ f ∈ fields, Readable f.2) : Readable (.object fields)

/-! ## The written form of each kind -/

theorem write_int (n : Int) : write (.int n) = writeInt n := rfl

theorem write_text (t : Text) : write (.text t) = writeText t := rfl

theorem write_array (ds : List Document) : write (.array ds) = '[' :: (writeItems ds ++ [']']) := rfl

theorem write_object (fs : List (Text × Document)) :
    write (.object fs) = '{' :: (writeFields fs ++ ['}']) := rfl

theorem writeItems_singleton (d : Document) : writeItems [d] = d.write := rfl

theorem writeItems_cons_cons (d d' : Document) (ds : List Document) :
    writeItems (d :: d' :: ds) = d.write ++ ',' :: writeItems (d' :: ds) := rfl

theorem writeFields_singleton (f : Text × Document) :
    writeFields [f] = writeText f.1 ++ ':' :: f.2.write := rfl

theorem writeFields_cons_cons (f f' : Text × Document) (fs : List (Text × Document)) :
    writeFields (f :: f' :: fs) = writeText f.1 ++ ':' :: (f.2.write ++ ',' :: writeFields (f' :: fs)) := rfl

/-! ## First characters -/

/-- A character that is no blank, opens no byte order mark and closes no array. -/
def Opens (c : Char) : Prop := isBlank (.ofChar c) = false ∧ c ≠ ']' ∧ c ≠ '\uFEFF'

instance (c : Char) : Decidable (Opens c) := inferInstanceAs (Decidable (_ ∧ _))

theorem opens_of_isDigit {c : Char} (h : isDigit (.ofChar c) = true) : Opens c := by
  have hne : ∀ d : Char, isDigit (.ofChar d) = false → c ≠ d := by
    rintro d hd rfl
    rw [h] at hd
    cases hd
  refine ⟨?_, hne _ (by decide), hne _ (by decide)⟩
  simp [isBlank, hne ' ' (by decide), hne '\t' (by decide), hne '\n' (by decide), hne '\r' (by decide)]

theorem writeInt_eq_cons (n : Int) :
    ∃ c cs, writeInt n = c :: cs ∧ (c = '-' ∨ isDigit (.ofChar c) = true) := by
  cases n with
  | ofNat n =>
      obtain ⟨c, cs, hcs, hc, -⟩ := toDigits_eq_cons n
      exact ⟨c, cs, hcs, .inr hc⟩
  | negSucc n => exact ⟨'-', _, rfl, .inl rfl⟩

/-- The written form begins as a value does. -/
def StartsValue (d : Document) : Prop := ∃ c cs, d.write = c :: cs ∧ Opens c

theorem startsValue_int (n : Int) : (int n).StartsValue := by
  obtain ⟨c, cs, hcs, rfl | hc⟩ := writeInt_eq_cons n
  · exact ⟨_, cs, hcs, by decide⟩
  · exact ⟨c, cs, hcs, opens_of_isDigit hc⟩

theorem startsValue_array (ds : List Document) : (array ds).StartsValue := ⟨'[', _, rfl, by decide⟩

theorem startsValue_object (fs : List (Text × Document)) : (object fs).StartsValue := ⟨'{', _, rfl, by decide⟩

theorem Readable.startsValue {d : Document} (h : d.Readable) : d.StartsValue := by
  cases h with
  | null => exact ⟨'n', _, rfl, by decide⟩
  | bool b =>
      cases b with
      | true => exact ⟨'t', _, rfl, by decide⟩
      | false => exact ⟨'f', _, rfl, by decide⟩
  | int h => exact startsValue_int _
  | text h => exact ⟨'"', _, rfl, by decide⟩
  | array h => exact startsValue_array _
  | object hnames htexts h => exact startsValue_object _

theorem skipBlank_cons {c : Char} (h : isBlank (.ofChar c) = false) (t : Text) :
    skipBlank (.ofChar c :: t) = .ofChar c :: t := by
  simp [skipBlank, h]

theorem StartsValue.skipBlank_write {d : Document} (h : d.StartsValue) (r : Text) :
    skipBlank (Text.ofChars d.write ++ r) = Text.ofChars d.write ++ r := by
  obtain ⟨c, cs, hcs, hc, -⟩ := h
  rw [hcs]
  exact skipBlank_cons hc _

theorem stops_cons {c : Char} (h : c ∈ [',', ']', '}']) (r : Text) : Stops (.ofChar c :: r) := by
  intro p hp
  cases hp
  simp only [List.mem_cons, List.not_mem_nil, or_false] at h
  rcases h with rfl | rfl | rfl <;> decide

/-! ## One step of the reader -/

section

variable {depth : Nat} {t r : Text} {d : Document} {k : Text}

theorem readValue_atom {c : Char} (hc : c ∉ ['"', '{', '[']) :
    readValue (depth + 1) (.ofChar c :: t) = readAtom (.ofChar c :: t) := by
  simp only [List.mem_cons, List.not_mem_nil, or_false, not_or] at hc
  simp [readValue, hc]

theorem readValue_text (hk : readText depth (.ofChar '"' :: t) t = .ok (k, r)) :
    readValue (depth + 1) (.ofChar '"' :: t) = .ok (.text k, r) := by
  simp only [readValue, CodePoint.is_ofChar, decide_true, ↓reduceIte, hk]
  rfl

theorem readValue_array_nil : readValue (depth + 1) (.ofChar '[' :: .ofChar ']' :: r) = .ok (.array [], r) := by
  simp [readValue, skipBlank_cons (c := ']') (by decide)]

theorem readValue_object_nil :
    readValue (depth + 1) (.ofChar '{' :: .ofChar '}' :: r) = .ok (.object [], r) := by
  simp [readValue, skipBlank_cons (c := '}') (by decide)]

theorem readItems_last (hd : readValue depth t = .ok (d, .ofChar ']' :: r)) :
    readItems (depth + 1) t = .ok ([d], r) := by
  simp [readItems, hd, skipBlank_cons (c := ']') (by decide), bind, Except.bind]

theorem readItems_next {t' : Text} (hd : readValue depth t = .ok (d, .ofChar ',' :: t'))
    (hblank : skipBlank t' = t') :
    readItems (depth + 1) t = (readItems depth t').map fun x => (d :: x.1, x.2) := by
  simp [readItems, hd, skipBlank_cons (c := ',') (by decide), hblank, bind, Except.bind]

theorem readFields_last {t' : Text} (hk : readText depth (.ofChar '"' :: t) t = .ok (k, .ofChar ':' :: t'))
    (hblank : skipBlank t' = t') (hd : readValue depth t' = .ok (d, .ofChar '}' :: r)) :
    readFields (depth + 1) (.ofChar '"' :: t) = .ok ([(k, d)], r) := by
  simp [readFields, hk, skipBlank_cons (c := ':') (by decide), hblank, hd,
    skipBlank_cons (c := '}') (by decide), bind, Except.bind]

theorem readFields_next {t' t'' : Text}
    (hk : readText depth (.ofChar '"' :: t) t = .ok (k, .ofChar ':' :: t'))
    (hblank : skipBlank t' = t') (hd : readValue depth t' = .ok (d, .ofChar ',' :: t''))
    (hblank' : skipBlank t'' = t'') :
    readFields (depth + 1) (.ofChar '"' :: t) =
      (readFields depth t'').map fun x => ((k, d) :: x.1, x.2) := by
  simp [readFields, hk, skipBlank_cons (c := ':') (by decide), hblank, hd,
    skipBlank_cons (c := ',') (by decide), hblank', bind, Except.bind]

end

/-! ## Whole documents -/

theorem StartsValue.writeItems_eq_cons {d : Document} (h : d.StartsValue) (ds : List Document) :
    ∃ c cs, writeItems (d :: ds) = c :: cs ∧ Opens c := by
  obtain ⟨c, cs, hcs, hc⟩ := h
  cases ds with
  | nil => exact ⟨c, cs, by rw [writeItems_singleton, hcs], hc⟩
  | cons d' ds => exact ⟨c, _, by rw [writeItems_cons_cons, hcs]; rfl, hc⟩

theorem writeFields_eq_cons (f : Text × Document) (fs : List (Text × Document)) :
    ∃ cs, writeFields (f :: fs) = '"' :: cs := by
  cases fs with
  | nil => exact ⟨_, rfl⟩
  | cons f' fs => exact ⟨_, rfl⟩

theorem StartsValue.length_write_pos {d : Document} (h : d.StartsValue) : 0 < d.write.length := by
  obtain ⟨c, cs, hcs, -⟩ := h
  rw [hcs]
  exact Nat.succ_pos _

theorem ofChars_writeText_append (t r : Text) :
    Text.ofChars (writeText t) ++ r =
      .ofChar '"' :: (Text.ofChars (t.flatMap writePoint) ++ .ofChar '"' :: r) := by
  simp [writeText]

/-- The document is read from its written form, whatever comes after it. The depth is twice the length:
a value and the list around it each spend one call, and a text spends one for each unit. -/
def ReadsBack (d : Document) : Prop :=
  ∀ depth r, 2 * d.write.length ≤ depth + 1 → Stops r →
    readValue (depth + 1) (Text.ofChars d.write ++ r) = .ok (d, r)

theorem readItems_writeItems {d : Document} {ds : List Document} (hr : ∀ x ∈ d :: ds, x.Readable)
    (hb : ∀ x ∈ d :: ds, x.ReadsBack) (depth : Nat) (r : Text)
    (hdepth : 2 * (writeItems (d :: ds)).length ≤ depth) :
    readItems (depth + 1) (Text.ofChars (writeItems (d :: ds)) ++ .ofChar ']' :: r) = .ok (d :: ds, r) := by
  have hpos := (hr d List.mem_cons_self).startsValue.length_write_pos
  induction ds generalizing d depth with
  | nil =>
      rw [writeItems_singleton] at hdepth ⊢
      obtain ⟨depth, rfl⟩ : ∃ e, depth = e + 1 := ⟨depth - 1, by omega⟩
      exact readItems_last (hb d List.mem_cons_self depth _ hdepth (stops_cons (by decide) r))
  | cons d' ds ih =>
      have hr' := (List.forall_mem_cons.mp hr).2
      have hstart := (hr' d' List.mem_cons_self).startsValue
      obtain ⟨c, cs, hcs, hc⟩ := hstart.writeItems_eq_cons ds
      rw [writeItems_cons_cons] at hdepth ⊢
      rw [List.length_append, List.length_cons] at hdepth
      obtain ⟨depth, rfl⟩ : ∃ e, depth = e + 1 := ⟨depth - 1, by omega⟩
      have hrest := ih hr' (List.forall_mem_cons.mp hb).2 depth (by omega) hstart.length_write_pos
      rw [Text.ofChars_append, Text.ofChars_cons, List.append_assoc, List.cons_append,
        readItems_next (hb d List.mem_cons_self depth _ (by omega) (stops_cons (by decide) _)), hrest]
      · rfl
      · rw [hcs]
        exact skipBlank_cons hc.1 _

theorem readFields_writeFields {f : Text × Document} {fs : List (Text × Document)}
    (ht : ∀ x ∈ f :: fs, x.1.Unpaired) (hr : ∀ x ∈ f :: fs, x.2.Readable)
    (hb : ∀ x ∈ f :: fs, x.2.ReadsBack) (depth : Nat) (r : Text)
    (hdepth : 2 * (writeFields (f :: fs)).length ≤ depth) :
    readFields (depth + 1) (Text.ofChars (writeFields (f :: fs)) ++ .ofChar '}' :: r) = .ok (f :: fs, r) := by
  have hblank := (hr f List.mem_cons_self).startsValue.skipBlank_write
  induction fs generalizing f depth with
  | nil =>
      rw [writeFields_singleton] at hdepth ⊢
      rw [List.length_append, List.length_cons] at hdepth
      obtain ⟨depth, rfl⟩ : ∃ e, depth = e + 1 := ⟨depth - 1, by omega⟩
      rw [Text.ofChars_append, Text.ofChars_cons, List.append_assoc, List.cons_append,
        ofChars_writeText_append]
      exact readFields_last (readText_writeText (ht f List.mem_cons_self) (by omega)) (hblank _)
        (hb f List.mem_cons_self depth _ (by omega) (stops_cons (by decide) r))
  | cons f' fs ih =>
      obtain ⟨cs, hcs⟩ := writeFields_eq_cons f' fs
      have hr' := (List.forall_mem_cons.mp hr).2
      rw [writeFields_cons_cons] at hdepth ⊢
      rw [List.length_append, List.length_cons, List.length_append, List.length_cons] at hdepth
      obtain ⟨depth, rfl⟩ : ∃ e, depth = e + 1 := ⟨depth - 1, by omega⟩
      have hrest := ih (List.forall_mem_cons.mp ht).2 hr' (List.forall_mem_cons.mp hb).2 depth (by omega)
        (hr' f' List.mem_cons_self).startsValue.skipBlank_write
      rw [Text.ofChars_append, Text.ofChars_cons, Text.ofChars_append, Text.ofChars_cons,
        List.append_assoc, List.cons_append, List.append_assoc, List.cons_append, ofChars_writeText_append,
        readFields_next (readText_writeText (ht f List.mem_cons_self) (by omega)) (hblank _)
          (hb f List.mem_cons_self depth _ (by omega) (stops_cons (by decide) _)), hrest]
      · rfl
      · rw [hcs]
        exact skipBlank_cons (by decide) _

theorem readValue_int (n : Int) (depth : Nat) {r : Text} (hr : Stops r) :
    readValue (depth + 1) (Text.ofChars (write (.int n)) ++ r) =
      (integerOf (decide (n < 0)) (Text.ofChars (Nat.toDigits 10 n.natAbs))).map fun d => (d, r) := by
  obtain ⟨c, cs, hcs, hc⟩ := writeInt_eq_cons n
  have hatom : c ∉ ['"', '{', '['] := by
    intro hmem
    simp only [List.mem_cons, List.not_mem_nil, or_false] at hmem
    rcases hmem with rfl | rfl | rfl <;> revert hc <;> decide
  have hread := (readAtom_writeInt n r).trans (readNumber_writeInt n hr)
  rw [write_int]
  rw [hcs] at hread ⊢
  exact (readValue_atom hatom).trans hread

/-- An array that begins with a readable value is read as the items between its brackets are. -/
theorem readValue_writeItems {d : Document} (h : d.StartsValue) (ds : List Document) (depth : Nat) (r : Text) :
    readValue (depth + 1) (Text.ofChars (write (.array (d :: ds))) ++ r) =
      (readItems depth (Text.ofChars (writeItems (d :: ds)) ++ .ofChar ']' :: r)).map
        fun x => (.array x.1, x.2) := by
  obtain ⟨c, cs, hcs, hc⟩ := h.writeItems_eq_cons ds
  rw [write_array, Text.ofChars_cons, Text.ofChars_append, List.cons_append, List.append_assoc, hcs]
  simp [readValue, skipBlank_cons hc.1, hc.2.1]

theorem readValue_writeFields (f : Text × Document) (fs : List (Text × Document)) (depth : Nat) (r : Text) :
    readValue (depth + 1) (Text.ofChars (write (.object (f :: fs))) ++ r) =
      (readFields depth (Text.ofChars (writeFields (f :: fs)) ++ .ofChar '}' :: r)).map
        fun x => (.object x.1, x.2) := by
  obtain ⟨cs, hcs⟩ := writeFields_eq_cons f fs
  rw [write_object, Text.ofChars_cons, Text.ofChars_append, List.cons_append, List.append_assoc, hcs]
  simp [readValue, skipBlank_cons (c := '"') (by decide)]

theorem Readable.readsBack {d : Document} (h : d.Readable) : d.ReadsBack := by
  induction h with
  | null => exact fun depth r _ _ => (readValue_atom (by decide)).trans (readAtom_null r)
  | bool b =>
      intro depth r _ _
      cases b with
      | true => exact (readValue_atom (by decide)).trans (readAtom_bool true r)
      | false => exact (readValue_atom (by decide)).trans (readAtom_bool false r)
  | @int n h =>
      intro depth r _ hr
      rw [readValue_int n depth hr, integerOf_digits h]
      rfl
  | text h =>
      intro depth r hdepth _
      rw [write_text] at hdepth ⊢
      rw [ofChars_writeText_append]
      exact readValue_text (readText_writeText h (by omega))
  | @array items h ih =>
      intro depth r hdepth _
      cases items with
      | nil => exact readValue_array_nil
      | cons d ds =>
          rw [write_array, List.length_cons, List.length_append, List.length_singleton] at hdepth
          obtain ⟨depth, rfl⟩ : ∃ e, depth = e + 1 := ⟨depth - 1, by omega⟩
          rw [readValue_writeItems (h d List.mem_cons_self).startsValue,
            readItems_writeItems h ih depth r (by omega)]
          rfl
  | @object fields hnames htexts h ih =>
      intro depth r hdepth _
      cases fields with
      | nil => exact readValue_object_nil
      | cons f fs =>
          rw [write_object, List.length_cons, List.length_append, List.length_singleton] at hdepth
          obtain ⟨depth, rfl⟩ : ∃ e, depth = e + 1 := ⟨depth - 1, by omega⟩
          rw [readValue_writeFields, readFields_writeFields htexts h ih depth r (by omega)]
          rfl

/-- Blanks in front of a written value are skipped, and then all of it is read. -/
theorem StartsValue.read_write {d : Document} (h : d.StartsValue) {front : Text}
    (hfront : ∀ p ∈ front, isBlank p = true) (back : Text) :
    read (front ++ (Text.ofChars d.write ++ back)) = (do
      let (d, r) ← readValue (2 * (front ++ (Text.ofChars d.write ++ back)).length + 2) (Text.ofChars d.write ++ back)
      match skipBlank r with
      | [] => .ok d
      | r => .error (.form .extra r)) := by
  obtain ⟨c, cs, hcs, hc⟩ := id h
  have hmark : (front ++ (Text.ofChars d.write ++ back)).head?.any (·.is '\uFEFF') = false := by
    cases front with
    | nil => simp [hcs, hc.2.2]
    | cons p front =>
        have hp := hfront p List.mem_cons_self
        simp only [isBlank, Bool.or_eq_true, CodePoint.is, decide_eq_true_eq] at hp
        simp only [List.cons_append, List.head?_cons, Option.any_some, CodePoint.is, decide_eq_false_iff_not]
        rintro he
        rw [he] at hp
        revert hp
        decide
  have hblank : skipBlank (front ++ (Text.ofChars d.write ++ back)) = Text.ofChars d.write ++ back := by
    rw [skipBlank, List.dropWhile_append_of_pos hfront]
    exact h.skipBlank_write back
  rw [read, hmark, hblank]
  rfl

theorem ofString_compact (d : Document) : Text.ofString d.compact = Text.ofChars d.write := by
  rw [Text.ofString, compact, String.toList_ofList]

theorem stops_of_blank {r : Text} (h : ∀ p ∈ r, isBlank p = true) : Stops r := by
  intro p hp
  have hp := h p (List.mem_of_mem_head? hp)
  simp only [isBlank, CodePoint.is, Bool.or_eq_true, decide_eq_true_eq] at hp
  rcases hp with ((hp | hp) | hp) | hp <;> rw [isDigit, CodePoint.is, CodePoint.is, CodePoint.is, hp] <;> decide

theorem read_between {d : Document} (h : d.Readable) {front back : Text} (hfront : ∀ p ∈ front, isBlank p = true)
    (hback : ∀ p ∈ back, isBlank p = true) : read (front ++ (Text.ofChars d.write ++ back)) = .ok d := by
  have hread := h.readsBack (2 * (front ++ (Text.ofChars d.write ++ back)).length + 1) back
    (by simp only [List.length_append, Text.length_ofChars]; omega) (stops_of_blank hback)
  have hend : skipBlank back = [] := by
    rw [skipBlank, ← List.append_nil back, List.dropWhile_append_of_pos hback]
    rfl
  rw [h.startsValue.read_write hfront, hread]
  simp only [bind, Except.bind, hend]

theorem read_write {d : Document} (h : d.Readable) : read (Text.ofChars d.write) = .ok d := by
  have hread := read_between h (List.forall_mem_nil _) (List.forall_mem_nil _)
  rwa [List.nil_append, List.append_nil] at hread

/-! ## Printable characters -/

theorem printable_writeInt (n : Int) : ∀ c ∈ writeInt n, Printable c := by
  have hdigits : ∀ m, ∀ c ∈ Nat.toDigits 10 m, Printable c := by
    intro m c hc
    have hdigit := Nat.isDigit_of_mem_toDigits (by decide) (by decide) hc
    rw [← isDigit_ofChar] at hdigit
    simp only [isDigit, Bool.and_eq_true, decide_eq_true_eq] at hdigit
    rw [CodePoint.val_ofChar] at hdigit
    exact ⟨by omega, by omega⟩
  cases n with
  | ofNat n => exact hdigits n
  | negSucc n => exact List.forall_mem_cons.mpr ⟨by decide, hdigits (n + 1)⟩

theorem printable_writeItems {ds : List Document} (h : ∀ d ∈ ds, ∀ c ∈ d.write, Printable c) :
    ∀ c ∈ writeItems ds, Printable c := by
  match ds with
  | [] => exact fun c hc => by cases hc
  | [d] => exact h d List.mem_cons_self
  | d :: d' :: ds =>
      obtain ⟨hd, hds⟩ := List.forall_mem_cons.mp h
      rw [writeItems_cons_cons, List.forall_mem_append, List.forall_mem_cons]
      exact ⟨hd, by decide, printable_writeItems hds⟩

theorem printable_writeFields {fs : List (Text × Document)} (h : ∀ f ∈ fs, ∀ c ∈ f.2.write, Printable c) :
    ∀ c ∈ writeFields fs, Printable c := by
  match fs with
  | [] => exact fun c hc => by cases hc
  | [f] =>
      rw [writeFields_singleton, List.forall_mem_append, List.forall_mem_cons]
      exact ⟨printable_writeText f.1, by decide, h f List.mem_cons_self⟩
  | f :: f' :: fs =>
      obtain ⟨hf, hfs⟩ := List.forall_mem_cons.mp h
      rw [writeFields_cons_cons, List.forall_mem_append, List.forall_mem_cons, List.forall_mem_append,
        List.forall_mem_cons]
      exact ⟨printable_writeText f.1, by decide, hf, by decide, printable_writeFields hfs⟩

theorem Readable.printable {d : Document} (h : d.Readable) : ∀ c ∈ d.write, Printable c := by
  induction h with
  | null => exact printable_of_all rfl
  | bool b => cases b <;> exact printable_of_all rfl
  | int h => exact printable_writeInt _
  | text h => exact printable_writeText _
  | array h ih =>
      rw [write_array, List.forall_mem_cons, List.forall_mem_append]
      exact ⟨by decide, printable_writeItems ih, printable_of_all rfl⟩
  | object hnames htexts h ih =>
      rw [write_object, List.forall_mem_cons, List.forall_mem_append]
      exact ⟨by decide, printable_writeFields ih, printable_of_all rfl⟩

/-! ## Merging repeated names -/

theorem putField_eq_put (k : Text) (d : Document) (fs : List (Text × Document)) :
    putField k d fs = Table.put k d fs := by
  induction fs with
  | nil => rfl
  | cons f fs ih => rw [putField, Table.put, ih]

theorem mergeFields_eq_entries (fs : List (Text × Document)) :
    mergeFields fs = (Table.ofList fs).entries := by
  have h : ∀ t : Table Text Document, fs.foldl (fun fs f => putField f.1 f.2 fs) t.entries =
      (fs.foldl (fun t f => t.insert f.1 f.2) t).entries := by
    induction fs with
    | nil => exact fun t => rfl
    | cons f fs ih =>
        intro t
        rw [List.foldl_cons, List.foldl_cons, putField_eq_put]
        exact ih (t.insert f.1 f.2)
  exact h ∅

theorem mergeFields_of_nodup {fs : List (Text × Document)} (h : (fs.map Prod.fst).Nodup) :
    mergeFields fs = fs := by
  rw [mergeFields_eq_entries]
  exact congrArg Table.entries (Table.ofList_entries ⟨fs, h⟩)

theorem mergedItems_eq_map (ds : List Document) : mergedItems ds = ds.map merged := by
  induction ds with
  | nil => rfl
  | cons d ds ih => rw [mergedItems, ih, List.map_cons]

theorem mergedFields_eq_map (fs : List (Text × Document)) :
    mergedFields fs = fs.map fun f => (f.1, f.2.merged) := by
  induction fs with
  | nil => rfl
  | cons f fs ih => rw [mergedFields, ih, List.map_cons]

theorem Readable.merged_eq {d : Document} (h : d.Readable) : d.merged = d := by
  induction h with
  | null => rfl
  | bool b => rfl
  | int h => rfl
  | text h => rfl
  | array h ih => rw [merged, mergedItems_eq_map, List.map_congr_left ih, List.map_id']
  | @object fields hnames htexts h ih =>
      have hfields : ∀ f ∈ fields, (f.1, f.2.merged) = f := fun f hf => by rw [ih f hf]
      rw [merged, mergedFields_eq_map, List.map_congr_left hfields, List.map_id', mergeFields_of_nodup hnames]

/-! ## Records -/

theorem field?_record (fs : List (String × Document)) (name : String) :
    field? (fs.map fun f => (Text.ofString f.1, f.2)) name =
      (fs.reverse.find? fun f => f.1 = name).map Prod.snd := by
  rw [field?, ← List.map_reverse, List.find?_map, Option.map_map]
  simp only [Function.comp_def, Text.ofString_inj]

theorem readable_record {fs : List (String × Document)} (hnames : (fs.map Prod.fst).Nodup)
    (h : ∀ f ∈ fs, f.2.Readable) : (record fs).Readable := by
  refine .object ?_ ?_ ?_
  · have hmap : (fs.map fun f => (Text.ofString f.1, f.2)).map Prod.fst =
        (fs.map Prod.fst).map Text.ofString := by
      rw [List.map_map, List.map_map]
      rfl
    rw [hmap]
    exact List.Pairwise.map Text.ofString (fun s s' hne he => hne (Text.ofString_inj.mp he)) hnames
  · intro f hf
    obtain ⟨g, -, rfl⟩ := List.mem_map.mp hf
    exact Text.unpaired_ofString g.1
  · intro f hf
    obtain ⟨g, hg, rfl⟩ := List.mem_map.mp hf
    exact h g hg

end HyperEvolve.Document
