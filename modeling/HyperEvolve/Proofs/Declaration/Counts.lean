import HyperEvolve.Proofs.Acceptance
import HyperEvolve.Proofs.Document.Atom
import HyperEvolve.Proofs.Document.Fields
import Mathlib.Data.List.TakeWhile

/-!
# Counts that are read

The reader of documents refuses an integer with too many digits, and the decoder a text that stands for one.
So no count of a program that was read is too long to be shown.
-/

namespace HyperEvolve

/-! ## Digits -/

theorem foldl_digits_lt {α : Type} {value : α → Nat} {ds : List α} (h : ∀ d ∈ ds, value d < 10) :
    ds.foldl (fun n d => n * 10 + value d) 0 < 10 ^ ds.length := by
  induction ds using List.reverseRecOn with
  | nil => exact Nat.one_pos
  | append_singleton ds d ih =>
      rw [List.forall_mem_append] at h
      have hrest := ih h.1
      have hd := h.2 d List.mem_cons_self
      rw [List.foldl_append, List.foldl_cons, List.foldl_nil, List.length_append, List.length_singleton, pow_succ]
      omega

theorem Decimal.width_le {n k : Nat} (hk : 0 < k) (h : n < 10 ^ k) : width n ≤ k :=
  (Nat.length_toDigits_le_iff (by decide) hk).mpr h

/-- A number that is read digit by digit is written with no more digits. -/
theorem Decimal.width_foldl_le {α : Type} {value : α → Nat} {ds : List α} (h : ∀ d ∈ ds, value d < 10)
    (hne : ds ≠ []) : width (ds.foldl (fun n d => n * 10 + value d) 0) ≤ ds.length :=
  width_le (List.length_pos_of_ne_nil hne) (foldl_digits_lt h)

/-! ## Documents that are read -/

namespace Document

/-- No integer at any level has more digits than are read. -/
inductive Short : Document → Prop
  | null : Short .null
  | bool (b : Bool) : Short (.bool b)
  | int {n : Int} : Decimal.width n.natAbs ≤ Decimal.maxDigits → Short (.int n)
  | float (x : Float) : Short (.float x)
  | text (t : Text) : Short (.text t)
  | array {items : List Document} : (∀ d ∈ items, d.Short) → Short (.array items)
  | object {fields : List (Text × Document)} : (∀ f ∈ fields, f.2.Short) → Short (.object fields)

theorem Short.item {items : List Document} (h : (Document.array items).Short) : ∀ d ∈ items, d.Short := by
  cases h with
  | array h => exact h

theorem Short.field? {fields : List (Text × Document)} (h : (Document.object fields).Short) {name : Text}
    {d : Document} (hd : field? fields name = some d) : d.Short := by
  cases h with
  | object h => exact h _ (mem_of_field? hd)

theorem value_lt_of_isDigit {p : CodePoint} (h : isDigit p = true) : p.val - 48 < 10 := by
  simp only [isDigit, Bool.and_eq_true, decide_eq_true_eq] at h
  omega

/-- What is read as a whole number has digits and nothing else. -/
theorem digits_of_readWhole {t ds r : Text} (h : readWhole t = some (ds, r)) :
    ds ≠ [] ∧ ∀ p ∈ ds, p.val - 48 < 10 := by
  cases t with
  | nil => cases h
  | cons p t =>
      rw [readWhole] at h
      split at h
      · rename_i hp
        cases h
        refine ⟨List.cons_ne_nil _ _, fun q hq => ?_⟩
        have hzero : p.val = 48 := by simpa [CodePoint.is] using hp
        rw [List.mem_singleton.mp hq, hzero]
        decide
      · split at h
        · rename_i hp
          cases h
          refine ⟨List.cons_ne_nil _ _, fun q hq => value_lt_of_isDigit ?_⟩
          rcases List.mem_cons.mp hq with rfl | hq
          · exact hp
          · exact List.mem_takeWhile_imp hq
        · cases h

theorem short_of_integerOf {negative : Bool} {ds : Text} (hds : ds ≠ [] ∧ ∀ p ∈ ds, p.val - 48 < 10)
    {d : Document} (h : integerOf negative ds = .ok d) : d.Short := by
  rw [integerOf] at h
  split at h
  · cases h
  · rename_i hlength
    cases h
    refine .int ?_
    have habs : (if negative then -(digitsValue ds : Int) else digitsValue ds).natAbs = digitsValue ds := by
      split <;> simp
    rw [habs]
    exact (Decimal.width_foldl_le hds.2 hds.1).trans (Nat.not_lt.mp hlength)

theorem short_of_readNumber {t r : Text} {d : Document} (h : readNumber t = .ok (d, r)) : d.Short := by
  unfold readNumber at h
  dsimp only at h
  split at h
  · cases h
  · rename_i whole rest hwhole
    have hdigits := digits_of_readWhole hwhole
    split at h
    · cases h
      exact .float _
    · split at h
      · cases h
        exact .float _
      · obtain ⟨d', hd', he⟩ := map_eq_ok_iff.mp h
        cases he
        exact short_of_integerOf hdigits hd'

theorem short_of_readAtom {t r : Text} {d : Document} (h : readAtom t = .ok (d, r)) : d.Short := by
  rw [readAtom] at h
  split at h
  · rename_i x hx
    cases h
    obtain ⟨w, hw, hafter⟩ := List.exists_of_findSome?_eq_some hx
    obtain ⟨rest, -, he⟩ := Option.map_eq_some_iff.mp hafter
    cases he
    simp only [words, List.mem_cons, List.not_mem_nil, or_false] at hw
    rcases hw with rfl | rfl | rfl | rfl | rfl | rfl
    · exact .null
    · exact .bool true
    · exact .bool false
    · exact .float _
    · exact .float _
    · exact .float _
  · exact short_of_readNumber h

section

variable {depth : Nat} {t r : Text}

theorem short_of_readValue
    (hitems : ∀ {t ds r}, readItems depth t = .ok (ds, r) → ∀ d ∈ ds, d.Short)
    (hfields : ∀ {t fs r}, readFields depth t = .ok (fs, r) → ∀ f ∈ fs, f.2.Short)
    {d : Document} (h : readValue (depth + 1) t = .ok (d, r)) : d.Short := by
  cases t with
  | nil => cases h
  | cons p t =>
      rw [readValue] at h
      split at h
      · obtain ⟨x, -, he⟩ := map_eq_ok_iff.mp h
        cases he
        exact .text _
      · split at h
        · split at h
          · cases h
          · split at h
            · cases h
              exact .object (List.forall_mem_nil _)
            · obtain ⟨x, hx, he⟩ := map_eq_ok_iff.mp h
              cases he
              exact .object (hfields hx)
        · split at h
          · split at h
            · cases h
            · split at h
              · cases h
                exact .array (List.forall_mem_nil _)
              · obtain ⟨x, hx, he⟩ := map_eq_ok_iff.mp h
                cases he
                exact .array (hitems hx)
          · exact short_of_readAtom h

theorem short_of_readItems (hvalue : ∀ {t d r}, readValue depth t = .ok (d, r) → d.Short)
    (hitems : ∀ {t ds r}, readItems depth t = .ok (ds, r) → ∀ d ∈ ds, d.Short)
    {ds : List Document} (h : readItems (depth + 1) t = .ok (ds, r)) : ∀ d ∈ ds, d.Short := by
  rw [readItems, bind_eq_ok_iff] at h
  obtain ⟨⟨d, rest⟩, hd, h⟩ := h
  dsimp only at h
  split at h
  · cases h
  · split at h
    · cases h
      exact List.forall_mem_singleton.mpr (hvalue hd)
    · split at h
      · obtain ⟨x, hx, he⟩ := map_eq_ok_iff.mp h
        cases he
        exact List.forall_mem_cons.mpr ⟨hvalue hd, hitems hx⟩
      · cases h

theorem short_of_readFields (hvalue : ∀ {t d r}, readValue depth t = .ok (d, r) → d.Short)
    (hfields : ∀ {t fs r}, readFields depth t = .ok (fs, r) → ∀ f ∈ fs, f.2.Short)
    {fs : List (Text × Document)} (h : readFields (depth + 1) t = .ok (fs, r)) : ∀ f ∈ fs, f.2.Short := by
  cases t with
  | nil => cases h
  | cons p t =>
      rw [readFields] at h
      split at h
      · cases h
      · obtain ⟨⟨name, rest⟩, -, h⟩ := bind_eq_ok_iff.mp h
        dsimp only at h
        split at h
        · cases h
        · split at h
          · cases h
          · obtain ⟨⟨d, rest⟩, hd, h⟩ := bind_eq_ok_iff.mp h
            dsimp only at h
            split at h
            · cases h
            · split at h
              · cases h
                exact List.forall_mem_singleton.mpr (hvalue hd)
              · split at h
                · obtain ⟨x, hx, he⟩ := map_eq_ok_iff.mp h
                  cases he
                  exact List.forall_mem_cons.mpr ⟨hvalue hd, hfields hx⟩
                · cases h

end

/-- One level spends one of the depth, whether it is that of a value, of a list or of an object. -/
theorem short_of_readWithin (depth : Nat) :
    (∀ {t d r}, readValue depth t = .ok (d, r) → d.Short) ∧
    (∀ {t ds r}, readItems depth t = .ok (ds, r) → ∀ d ∈ ds, d.Short) ∧
    ∀ {t fs r}, readFields depth t = .ok (fs, r) → ∀ f ∈ fs, f.2.Short := by
  induction depth with
  | zero => simp [readValue, readItems, readFields]
  | succ depth ih =>
      obtain ⟨hvalue, hitems, hfields⟩ := ih
      exact ⟨short_of_readValue hitems hfields, short_of_readItems hvalue hitems, short_of_readFields hvalue hfields⟩

theorem short_of_read {t : Text} {d : Document} (h : read t = .ok d) : d.Short := by
  rw [read] at h
  split at h
  · cases h
  · obtain ⟨⟨d', rest⟩, hx, h⟩ := bind_eq_ok_iff.mp h
    dsimp only at h
    split at h
    · cases h
      exact (short_of_readWithin _).1 hx
    · cases h

end Document

/-! ## Decoding -/

namespace Tree

open Document

variable {α β : Type}

theorem Checked.under_eq_ok_iff {step : Step} {r : Checked α} {a : α} : r.under step = .ok a ↔ r = .ok a := by
  cases r <;> simp [under]

theorem Checked.ap_eq_ok_iff {f : Checked (α → β)} {r : Checked α} {b : β} :
    f.ap r = .ok b ↔ ∃ g a, f = .ok g ∧ r = .ok a ∧ g a = b := by
  cases f <;> cases r <;> simp [ap]

theorem tagged_eq_ok {select : String → Option (Fields → Checked α)} {d : Document} {a : α}
    (h : tagged select d = .ok a) :
    ∃ fields tag decode, d = .object fields ∧ select tag = some decode ∧ decode fields = .ok a := by
  unfold tagged at h
  split at h
  · rename_i fields
    split at h
    · cases h
    · split at h
      · rename_i decode hdecode
        exact ⟨fields, _, decode, rfl, hdecode, Checked.under_eq_ok_iff.mp h⟩
      · cases h
    · cases h
  · cases h

theorem elements_eq_ok {decode : Document → Checked α} {i : Nat} {ds : List Document} {as : List α}
    (h : elements decode i ds = .ok as) : ∀ a ∈ as, ∃ d ∈ ds, decode d = .ok a := by
  induction ds generalizing i as with
  | nil =>
      cases h
      exact fun a ha => nomatch ha
  | cons d ds ih =>
      obtain ⟨cons, rest, hcons, hrest, rfl⟩ := Checked.ap_eq_ok_iff.mp h
      obtain ⟨a, ha, rfl⟩ := map_eq_ok_iff.mp hcons
      refine List.forall_mem_cons.mpr ⟨⟨d, List.mem_cons_self, Checked.under_eq_ok_iff.mp ha⟩, fun b hb => ?_⟩
      obtain ⟨d', hd', hb⟩ := ih hrest b hb
      exact ⟨d', List.mem_cons_of_mem d hd', hb⟩

theorem list_eq_ok {decode : Document → Checked α} {d : Document} {as : List α} (h : list decode d = .ok as) :
    ∃ ds, d = .array ds ∧ ∀ a ∈ as, ∃ d ∈ ds, decode d = .ok a := by
  unfold list at h
  split at h
  · exact ⟨_, rfl, elements_eq_ok h⟩
  · cases h

theorem optional_eq_ok {fields : Fields} {name : String} {default a : α} {decode : Document → Checked α}
    (h : optional fields name default decode = .ok a) :
    a = default ∨ ∃ d, field? fields name = some d ∧ decode d = .ok a := by
  unfold optional at h
  split at h
  · cases h
    exact .inl rfl
  · rename_i d hd
    exact .inr ⟨d, hd, Checked.under_eq_ok_iff.mp h⟩

/-! ## Counts -/

theorem width_plainDigits {cs : List Char} {n : Nat} (h : plainDigits? cs = some n) :
    Decimal.width n ≤ Decimal.maxDigits := by
  rw [plainDigits?] at h
  split at h
  · cases h
  · rename_i hform
    split at h
    · cases h
    · rename_i hlength
      cases h
      have hne : cs ≠ [] := fun he => hform (by simp [he])
      have hdigits : ∀ c ∈ cs, c.isDigit = true := by
        by_contra hall
        exact hform (by simp_all)
      refine (Decimal.width_foldl_le (fun c hc => ?_) hne).trans (Nat.not_lt.mp hlength)
      have hdigit := hdigits c hc
      rw [← isDigit_ofChar] at hdigit
      simpa only [CodePoint.val_ofChar] using value_lt_of_isDigit hdigit

theorem width_intOfText {s : String} {n : Int} (h : intOfText? s = some n) :
    Decimal.width n.natAbs ≤ Decimal.maxDigits := by
  have hsigned : ∀ {cs : List Char}, signedDigits? cs = some n → Decimal.width n.natAbs ≤ Decimal.maxDigits := by
    intro cs h
    unfold signedDigits? at h
    split at h
    · obtain ⟨_, hcast, rfl⟩ := Option.map_eq_some_iff.mp h
      obtain ⟨k, hk, he⟩ := Option.bind_eq_some_iff.mp hcast
      cases he
      simpa using width_plainDigits hk
    · obtain ⟨k, hk, rfl⟩ := Option.map_eq_some_iff.mp h
      exact width_plainDigits hk
  simp only [intOfText?, Option.bind_eq_bind, Option.bind_eq_some_iff] at h
  obtain ⟨_, -, _, -, _, -, h⟩ := h
  exact hsigned h

theorem width_intOfFloat {x : Float} {n : Int} (h : intOfFloat x = .ok n) :
    Decimal.width n.natAbs ≤ Decimal.maxDigits := by
  have hword : ∀ k : Nat, k < 0x8000000000000000 → Decimal.width k ≤ Decimal.maxDigits := by
    intro k hk
    have hwidth : Decimal.width k ≤ 19 := Decimal.width_le (by decide) (hk.trans (by decide))
    exact hwidth.trans (by decide)
  unfold intOfFloat at h
  split at h
  · cases h
  · cases h
  · cases h
    exact hword 0 (by decide)
  · dsimp only at h
    split at h
    · cases h
    · split at h
      · rename_i hlt
        cases h
        split
        · rw [Int.natAbs_neg]
          exact hword _ hlt
        · exact hword _ hlt
      · cases h

theorem width_integer {d : Document} (hd : d.Short) {n : Int} (h : integer d = .ok n) :
    Decimal.width n.natAbs ≤ Decimal.maxDigits := by
  cases hd with
  | int hn => cases h; exact hn
  | bool b => cases h; cases b <;> decide
  | float x => exact width_intOfFloat h
  | text t =>
      rw [integer] at h
      split at h
      · cases h
      · split at h
        · rename_i k hk
          cases h
          exact width_intOfText hk
        · cases h
  | _ => cases h

theorem width_count {d : Document} (hd : d.Short) {n : Nat} (h : count d = .ok (some n)) :
    Decimal.width n ≤ Decimal.maxDigits := by
  unfold count at h
  split at h
  · cases h
  · obtain ⟨k, hk, h⟩ := bind_eq_ok_iff.mp h
    split at h
    · cases h
    · rename_i hpos
      cases h
      have habs : k.natAbs = k.toNat := by omega
      exact habs ▸ width_integer hd hk

theorem width_counts_declaration {d : Document} (hd : d.Short) {decl : Declaration} (h : declaration d = .ok decl) :
    ∀ n ∈ decl.counts, Decimal.width n ≤ Decimal.maxDigits := by
  obtain ⟨fields, tag, decode, rfl, hselect, h⟩ := tagged_eq_ok h
  unfold selectDeclaration at hselect
  split at hselect
  · cases hselect
    obtain ⟨g, a, hg, -, rfl⟩ := Checked.ap_eq_ok_iff.mp h
    obtain ⟨_, -, rfl⟩ := map_eq_ok_iff.mp hg
    exact fun n hn => nomatch hn
  · cases hselect
    obtain ⟨g, a, hg, -, rfl⟩ := Checked.ap_eq_ok_iff.mp h
    obtain ⟨_, -, rfl⟩ := map_eq_ok_iff.mp hg
    exact fun n hn => nomatch hn
  · cases hselect
    obtain ⟨s, hs, rfl⟩ := map_eq_ok_iff.mp h
    obtain ⟨g, c, hg, hc, rfl⟩ := Checked.ap_eq_ok_iff.mp hs
    obtain ⟨g', _, hg', -, rfl⟩ := Checked.ap_eq_ok_iff.mp hg
    obtain ⟨g'', _, hg'', -, rfl⟩ := Checked.ap_eq_ok_iff.mp hg'
    obtain ⟨_, -, rfl⟩ := map_eq_ok_iff.mp hg''
    intro n hn
    have hn : c = some n := Option.mem_toList.mp hn
    subst hn
    rcases optional_eq_ok hc with hnone | ⟨d, hd', hcount⟩
    · cases hnone
    · exact width_count (hd.field? hd') hcount
  · cases hselect

end Tree

/-- No count of a program that was read is too long to be shown. -/
theorem shortCounts_of_parseDeclarations {text : Text} {ds : List Declaration}
    (h : parseDeclarations text = .ok ds) : ShortCounts ds := by
  obtain ⟨d, hd, h⟩ := bind_eq_ok_iff.mp h
  have hshort : d.Short := by
    unfold Tree.document at hd
    split at hd
    · cases hd
    · split at hd
      · rename_i d' hread
        split at hd
        · cases hd
          exact Document.short_of_read hread
        · cases hd
      · cases hd
  obtain ⟨items, rfl, hall⟩ := Tree.list_eq_ok h
  intro n hn
  obtain ⟨decl, hdecl, hn⟩ := List.mem_flatMap.mp hn
  obtain ⟨item, hitem, hdecode⟩ := hall decl hdecl
  exact Tree.width_counts_declaration (hshort.item item hitem) hdecode n hn

end HyperEvolve
