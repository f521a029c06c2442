import HyperEvolve.Proofs.Document.Fields
import HyperEvolve.Proofs.Document.RoundTrip

/-!
# The value of a text

A text that can be read has one value, an object of which answers each name once. Two objects with the
same fields in another order are the same value.
-/

namespace HyperEvolve.Document

/-- The value of a text. -/
def value? (t : Text) : Option Document :=
  match read t with
  | .ok d => some d.merged
  | .error _ => none

theorem value?_compact {d : Document} (h : d.Readable) : value? (Text.ofString d.compact) = some d := by
  rw [value?, ofString_compact, read_write h]
  exact congrArg some h.merged_eq

/-! ## Names that are not repeated -/

/-- No object at any level repeats the name of a field. -/
inductive Distinct : Document → Prop where
  | null : Distinct .null
  | bool (b : Bool) : Distinct (.bool b)
  | int (n : Int) : Distinct (.int n)
  | float (x : Float) : Distinct (.float x)
  | text (t : Text) : Distinct (.text t)
  | array {items : List Document} (h : ∀ d ∈ items, Distinct d) : Distinct (.array items)
  | object {fields : List (Text × Document)} (hnames : (fields.map Prod.fst).Nodup)
      (h : ∀ f ∈ fields, Distinct f.2) : Distinct (.object fields)

theorem Distinct.item {items : List Document} (h : (Document.array items).Distinct) : ∀ d ∈ items, d.Distinct := by
  cases h with
  | array h => exact h

theorem Distinct.nodup {fields : List (Text × Document)} (h : (Document.object fields).Distinct) :
    (fields.map Prod.fst).Nodup := by
  cases h with
  | object hnames _ => exact hnames

theorem Distinct.field {fields : List (Text × Document)} (h : (Document.object fields).Distinct) :
    ∀ f ∈ fields, f.2.Distinct := by
  cases h with
  | object _ h => exact h

theorem mem_of_mem_mergeFields {fields : List (Text × Document)} {f : Text × Document}
    (h : f ∈ mergeFields fields) : f ∈ fields := by
  rw [mergeFields_eq_entries] at h
  exact Table.mem_of_get?_ofList (Table.get?_of_mem h)

mutual
/-- Merging leaves each name once, with a value that is merged in turn. -/
theorem distinct_merged : (d : Document) → d.merged.Distinct
  | .null => .null
  | .bool b => .bool b
  | .int n => .int n
  | .float x => .float x
  | .text t => .text t
  | .array items => .array (distinct_mergedItems items)
  | .object fields => by
      refine .object ?_ fun f hf => distinct_mergedFields fields f (mem_of_mem_mergeFields hf)
      rw [mergeFields_eq_entries]
      exact (Table.ofList (mergedFields fields)).nodup

theorem distinct_mergedItems : (items : List Document) → ∀ d ∈ mergedItems items, d.Distinct
  | [] => by simp [mergedItems]
  | d :: ds => List.forall_mem_cons.mpr ⟨distinct_merged d, distinct_mergedItems ds⟩

theorem distinct_mergedFields : (fields : List (Text × Document)) → ∀ f ∈ mergedFields fields, f.2.Distinct
  | [] => by simp [mergedFields]
  | (_, d) :: fs => List.forall_mem_cons.mpr ⟨distinct_merged d, distinct_mergedFields fs⟩
end

theorem distinct_of_value? {t : Text} {d : Document} (h : value? t = some d) : d.Distinct := by
  rw [value?] at h
  cases hread : read t with
  | ok d' =>
      rw [hread] at h
      cases h
      exact distinct_merged d'
  | error fault =>
      rw [hread] at h
      cases h

/-! ## The order of fields -/

/-- The same value: objects, and objects inside of them, may list their fields in another order. -/
inductive Rearranged : Document → Document → Prop where
  | refl (d : Document) : Rearranged d d
  | trans {d d' d'' : Document} (h : Rearranged d d') (h' : Rearranged d' d'') : Rearranged d d''
  | perm {fields fields' : List (Text × Document)} (h : fields.Perm fields') :
      Rearranged (.object fields) (.object fields')
  | field {before after : List (Text × Document)} {k : Text} {d d' : Document} (h : Rearranged d d') :
      Rearranged (.object (before ++ (k, d) :: after)) (.object (before ++ (k, d') :: after))

end HyperEvolve.Document
