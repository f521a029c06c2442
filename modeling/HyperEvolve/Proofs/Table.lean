import Mathlib.Data.List.Dedup
import Mathlib.Data.List.Nodup
import HyperEvolve.Table

/-!
# Lookups in ordered tables

What a table answers after a write, after a list of writes and after a change of its values. The keys
are exactly the names that it answers.
-/

namespace HyperEvolve.Table

variable {κ α β : Type} [DecidableEq κ]

omit [DecidableEq κ] in
theorem ext_entries {t t' : Table κ α} (h : t.entries = t'.entries) : t = t' := by
  cases t; cases t'; cases h; rfl

/-! ## One write -/

theorem lookup_cons_ite (e : κ × α) (es : List (κ × α)) (k : κ) :
    (e :: es).lookup k = if k = e.1 then some e.2 else es.lookup k := by
  rw [List.lookup_cons]
  by_cases h : k = e.1
  · simp [h]
  · rw [if_neg h, beq_eq_false_iff_ne.mpr h]

theorem lookup_put (k k' : κ) (v : α) (es : List (κ × α)) :
    (put k v es).lookup k' = if k' = k then some v else es.lookup k' := by
  induction es with
  | nil => simp only [put, lookup_cons_ite]
  | cons e es ih =>
      simp only [put]
      split
      · rename_i hk
        subst hk
        simp only [lookup_cons_ite]
        split <;> rfl
      · rename_i hk
        simp only [lookup_cons_ite, ih]
        split
        · rename_i he
          rw [he, if_neg hk]
        · rfl

@[simp] theorem get?_empty (k : κ) : (∅ : Table κ α).get? k = none := rfl

theorem get?_insert (t : Table κ α) (k k' : κ) (v : α) :
    (t.insert k v).get? k' = if k' = k then some v else t.get? k' :=
  lookup_put k k' v t.entries

/-! ## Keys -/

theorem isSome_lookup_iff {es : List (κ × α)} {k : κ} : (es.lookup k).isSome ↔ k ∈ es.map Prod.fst := by
  induction es with
  | nil => simp
  | cons e es ih =>
      rw [lookup_cons_ite, List.map_cons, List.mem_cons, ← ih]
      by_cases h : k = e.1 <;> simp [h]

theorem mem_of_lookup {es : List (κ × α)} {k : κ} {v : α} (h : es.lookup k = some v) : (k, v) ∈ es := by
  obtain ⟨l₁, l₂, rfl, -⟩ := List.lookup_eq_some_iff.mp h
  exact List.mem_append_right l₁ List.mem_cons_self

theorem isSome_get?_iff {t : Table κ α} {k : κ} : (t.get? k).isSome ↔ k ∈ t.keys := isSome_lookup_iff

theorem mem_keys_of_get? {t : Table κ α} {k : κ} {v : α} (h : t.get? k = some v) : k ∈ t.keys :=
  isSome_get?_iff.mp (by simp [h])

theorem mem_of_get? {t : Table κ α} {k : κ} {v : α} (h : t.get? k = some v) : (k, v) ∈ t.entries := mem_of_lookup h

/-- Each key stands in one entry only. -/
theorem get?_of_mem {t : Table κ α} {k : κ} {v : α} (h : (k, v) ∈ t.entries) : t.get? k = some v := by
  obtain ⟨w, hw⟩ := Option.isSome_iff_exists.mp (isSome_get?_iff.mpr (List.mem_map_of_mem h))
  have hsame := List.inj_on_of_nodup_map t.nodup (mem_of_get? hw) h rfl
  cases hsame
  exact hw

theorem get?_eq_none_iff {t : Table κ α} {k : κ} : t.get? k = none ↔ k ∉ t.keys := by
  rw [← isSome_get?_iff, Option.not_isSome_iff_eq_none]

omit [DecidableEq κ] in
theorem length_keys (t : Table κ α) : t.keys.length = t.size := by simp [keys, size]

theorem size_eq_of_get? {t t' : Table κ α} (h : ∀ k, t.get? k = t'.get? k) : t.size = t'.size := by
  have hp : t.keys.Perm t'.keys := by
    refine (List.perm_ext_iff_of_nodup t.nodup t'.nodup).mpr fun k => ?_
    change k ∈ t.keys ↔ k ∈ t'.keys
    rw [← isSome_get?_iff, ← isSome_get?_iff, h k]
  rw [← length_keys, ← length_keys, hp.length_eq]

/-! ## Writing a list -/

theorem get?_foldl_insert (ps : List (κ × α)) (t : Table κ α) (k : κ) :
    (ps.foldl (fun t p => t.insert p.1 p.2) t).get? k = (ps.reverse.lookup k).or (t.get? k) := by
  induction ps generalizing t with
  | nil => simp
  | cons p ps ih =>
      rw [List.foldl_cons, ih, get?_insert, List.reverse_cons, List.lookup_append, lookup_cons_ite]
      by_cases h : k = p.1 <;> simp [h]

/-- The last pair of a key decides. -/
theorem get?_ofList (ps : List (κ × α)) (k : κ) : (ofList ps).get? k = ps.reverse.lookup k := by
  rw [ofList, get?_foldl_insert, get?_empty, Option.or_none]

theorem mem_keys_ofList {ps : List (κ × α)} {k : κ} : k ∈ (ofList ps).keys ↔ k ∈ ps.map Prod.fst := by
  rw [← isSome_get?_iff, get?_ofList, isSome_lookup_iff, List.map_reverse, List.mem_reverse]

/-- A table has one entry for each key that was written. -/
theorem size_ofList (ps : List (κ × α)) : (ofList ps).size = (ps.map Prod.fst).dedup.length := by
  have hperm : (ofList ps).keys.Perm (ps.map Prod.fst).dedup := by
    refine (List.perm_ext_iff_of_nodup (ofList ps).nodup (List.nodup_dedup _)).mpr fun k => ?_
    rw [List.mem_dedup]
    exact mem_keys_ofList
  rw [← length_keys, hperm.length_eq]

theorem mem_of_get?_ofList {ps : List (κ × α)} {k : κ} {v : α} (h : (ofList ps).get? k = some v) :
    (k, v) ∈ ps := by
  rw [get?_ofList] at h
  exact List.mem_reverse.mp (mem_of_lookup h)

theorem put_of_notMem {k : κ} {es : List (κ × α)} (v : α) (h : k ∉ es.map Prod.fst) :
    put k v es = es ++ [(k, v)] := by
  induction es with
  | nil => rfl
  | cons e es ih =>
      rw [List.map_cons, List.mem_cons, not_or] at h
      rw [put, if_neg (Ne.symm h.1), ih h.2, List.cons_append]

theorem entries_foldl_insert {ps : List (κ × α)} {t : Table κ α}
    (h : ((t.entries ++ ps).map Prod.fst).Nodup) :
    (ps.foldl (fun t p => t.insert p.1 p.2) t).entries = t.entries ++ ps := by
  induction ps generalizing t with
  | nil => rw [List.foldl_nil, List.append_nil]
  | cons p ps ih =>
      have hp : p.1 ∉ t.entries.map Prod.fst := by
        rw [List.map_append, List.nodup_append] at h
        intro hmem
        exact h.2.2 p.1 hmem p.1 (List.mem_map_of_mem List.mem_cons_self) rfl
      have hinsert : (t.insert p.1 p.2).entries = t.entries ++ [p] := put_of_notMem p.2 hp
      rw [List.append_cons, ← hinsert] at h
      rw [List.foldl_cons, ih h, hinsert, ← List.append_cons]

/-- Writing the entries of a table one after the other gives the table again. -/
theorem ofList_entries (t : Table κ α) : ofList t.entries = t := by
  have h : (ofList t.entries).entries = t.entries := entries_foldl_insert t.nodup
  exact ext_entries h

/-! ## Changing the values -/

theorem entries_insert_map (f : α → β) (k : κ) (v : α) (es : List (κ × α)) :
    put k (f v) (es.map fun e => (e.1, f e.2)) = (put k v es).map fun e => (e.1, f e.2) := by
  induction es with
  | nil => simp [put]
  | cons e es ih =>
      simp only [List.map_cons, put]
      split
      · rfl
      · simp only [List.map_cons, ih]

theorem insert_map (f : α → β) (t : Table κ α) (k : κ) (v : α) :
    (t.map f).insert k (f v) = (t.insert k v).map f := by
  simp only [insert, map, entries_insert_map]

theorem ofList_map (f : α → β) (ps : List (κ × α)) :
    ofList (ps.map fun p => (p.1, f p.2)) = (ofList ps).map f := by
  have h : ∀ t : Table κ α,
      (ps.map fun p => (p.1, f p.2)).foldl (fun t p => t.insert p.1 p.2) (t.map f) =
        (ps.foldl (fun t p => t.insert p.1 p.2) t).map f := by
    induction ps with
    | nil => intro t; rfl
    | cons p ps ih =>
        intro t
        simp only [List.map_cons, List.foldl_cons, insert_map]
        exact ih _
  exact h ∅

/-- Keys may be renamed as long as different keys stay apart. -/
theorem lookup_map_keys {κ' : Type} [DecidableEq κ'] {k : κ → κ'} (hk : Function.Injective k) (f : α → β)
    (es : List (κ × α)) (x : κ) : (es.map fun e => (k e.1, f e.2)).lookup (k x) = (es.lookup x).map f := by
  induction es with
  | nil => rfl
  | cons e es ih =>
      simp only [List.map_cons, lookup_cons_ite, ih, hk.eq_iff]
      split <;> rfl

theorem lookup_map (f : α → β) (es : List (κ × α)) (k : κ) :
    (es.map fun e => (e.1, f e.2)).lookup k = (es.lookup k).map f :=
  lookup_map_keys (fun _ _ h => h) f es k

theorem get?_map (f : α → β) (t : Table κ α) (k : κ) : (t.map f).get? k = (t.get? k).map f :=
  lookup_map f t.entries k

omit [DecidableEq κ] in
@[simp] theorem keys_map (f : α → β) (t : Table κ α) : (t.map f).keys = t.keys := by
  simp [keys, map, Function.comp_def]

omit [DecidableEq κ] in
@[simp] theorem size_map (f : α → β) (t : Table κ α) : (t.map f).size = t.size := by simp [size, map]

end HyperEvolve.Table
