import HyperEvolve.Document.Basic
import HyperEvolve.Proofs.Document.Text
import Mathlib.Data.List.Nodup

/-!
# Fields of an object

What an object answers under a name is decided by its last field of that name. So the order of fields with
different names is of no account, nor is a field of another name, nor one whose value is read like the one
it stands for.
-/

namespace HyperEvolve.Document

/-! ## One field after the other -/

theorem field?_cons (f : Text × Document) (fs : List (Text × Document)) (name : Text) :
    field? (f :: fs) name = (field? fs name).or (if f.1 = name then some f.2 else none) := by
  rw [field?, field?, List.reverse_cons, List.find?_append, Option.map_or]
  congr 1
  by_cases h : f.1 = name <;> simp [h]

theorem field?_append (fs gs : List (Text × Document)) (name : Text) :
    field? (fs ++ gs) name = (field? gs name).or (field? fs name) := by
  rw [field?, field?, field?, List.reverse_append, List.find?_append, Option.map_or]

theorem field?_eq_none_iff {fs : List (Text × Document)} {name : Text} :
    field? fs name = none ↔ name ∉ fs.map Prod.fst := by
  induction fs with
  | nil => simp [field?]
  | cons f fs ih =>
      rw [field?_cons, Option.or_eq_none_iff, ih, List.map_cons, List.mem_cons, not_or]
      by_cases h : f.1 = name
      · simp [h]
      · simp [h, Ne.symm h]

theorem mem_of_field? {fs : List (Text × Document)} {name : Text} {d : Document} (h : field? fs name = some d) :
    (name, d) ∈ fs := by
  obtain ⟨f, hf, rfl⟩ := Option.map_eq_some_iff.mp h
  have hname : f.1 = name := by simpa using List.find?_some hf
  exact hname ▸ List.mem_reverse.mp (List.mem_of_find?_eq_some hf)

/-! ## Order -/

/-- Without a repeated name every field is answered under its name. -/
theorem field?_eq_some_iff {fs : List (Text × Document)} (h : (fs.map Prod.fst).Nodup) {name : Text}
    {d : Document} : field? fs name = some d ↔ (name, d) ∈ fs := by
  induction fs with
  | nil => simp [field?]
  | cons f fs ih =>
      obtain ⟨k, v⟩ := f
      obtain ⟨hk, hfs⟩ := List.nodup_cons.mp h
      rw [field?_cons, List.mem_cons, ← ih hfs]
      by_cases hname : k = name
      · subst hname
        have hnone : field? fs k = none := field?_eq_none_iff.mpr hk
        simp [hnone, eq_comm]
      · simp [hname, Ne.symm hname]

theorem field?_perm {fs fs' : List (Text × Document)} (h : (fs.map Prod.fst).Nodup) (hp : fs.Perm fs')
    (name : Text) : field? fs name = field? fs' name := by
  have h' : (fs'.map Prod.fst).Nodup := (hp.map Prod.fst).nodup_iff.mp h
  refine Option.ext fun d => ?_
  rw [field?_eq_some_iff h, field?_eq_some_iff h', hp.mem_iff]

/-- The fields that answer some names are all the fields of those names. -/
theorem filter_perm_of_field? {fs gs : List (Text × Document)} (hfs : (fs.map Prod.fst).Nodup)
    (hgs : (gs.map Prod.fst).Nodup) (h : ∀ g ∈ gs, field? fs g.1 = some g.2) :
    (fs.filter fun f => f.1 ∈ gs.map Prod.fst).Perm gs := by
  refine (List.perm_ext_iff_of_nodup (hfs.of_map.filter _) hgs.of_map).mpr fun f => ?_
  simp only [List.mem_filter, decide_eq_true_eq, List.mem_map]
  constructor
  · rintro ⟨hf, g, hg, hname⟩
    have hvalue : field? fs f.1 = some f.2 := (field?_eq_some_iff hfs).mpr hf
    rw [← hname, h g hg] at hvalue
    exact Prod.ext hname (Option.some.inj hvalue) ▸ hg
  · exact fun hf => ⟨(field?_eq_some_iff hfs).mp (h f hf), f, hf, rfl⟩

/-! ## Other fields -/

theorem field?_insert_of_ne {before after : List (Text × Document)} {key name : Text} {d : Document}
    (h : key ≠ name) : field? (before ++ (key, d) :: after) name = field? (before ++ after) name := by
  rw [field?_append, field?_cons, if_neg h, Option.or_none, field?_append]

/-- A value may stand for another that is read like it. -/
theorem map_field?_replace {β : Type} {read : Document → β} {before after : List (Text × Document)}
    {key name : Text} {d d' : Document} (h : key = name → read d = read d') :
    (field? (before ++ (key, d) :: after) name).map read = (field? (before ++ (key, d') :: after) name).map read := by
  by_cases hname : key = name
  · simp only [field?_append, field?_cons, Option.map_or, hname, ↓reduceIte, Option.map_some, h hname]
  · rw [field?_insert_of_ne hname, field?_insert_of_ne hname]

/-! ## Another spelling -/

/-- All fields of one name put under another. -/
def respelled (old new : String) (fs : List (Text × Document)) : List (Text × Document) :=
  fs.map fun f => if f.1 = Text.ofString old then (Text.ofString new, f.2) else f

theorem respelled_cons (old new : String) (f : Text × Document) (fs : List (Text × Document)) :
    respelled old new (f :: fs) =
      (if f.1 = Text.ofString old then (Text.ofString new, f.2) else f) :: respelled old new fs := rfl

/-- When no field had the new name, it answers what the old one did. -/
theorem field?_respelled {old new : String} {fs : List (Text × Document)}
    (h : new ≠ old → Text.ofString new ∉ fs.map Prod.fst) (name : String) :
    field? (respelled old new fs) (Text.ofString name) =
      if name = new then field? fs (Text.ofString old)
      else if name = old then none else field? fs (Text.ofString name) := by
  induction fs with
  | nil => simp [respelled, field?]
  | cons f fs ih =>
      have hfs : new ≠ old → Text.ofString new ∉ fs.map Prod.fst :=
        fun hne hmem => h hne (List.mem_cons_of_mem _ hmem)
      rw [respelled_cons, field?_cons, ih hfs, field?_cons, field?_cons]
      by_cases hold : f.1 = Text.ofString old
      · simp only [hold, ↓reduceIte, Text.ofString_inj, eq_comm (b := name)]
        split
        · rfl
        · split
          · rfl
          · rfl
      · have hnew : f.1 ≠ Text.ofString new := by
          by_cases hne : new = old
          · rwa [hne]
          · intro he
            exact h hne (by simp [he])
        simp only [hold, ↓reduceIte, Option.or_none]
        split
        · rename_i hname
          rw [hname, if_neg hnew, Option.or_none]
        · split
          · rename_i hname
            rw [hname, if_neg hold, Option.or_none]
          · rfl

end HyperEvolve.Document
