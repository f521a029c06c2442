/-!
# Ordered tables

A table answers with the value written last under a key, and lists its keys in the order in which
they were first written.
-/

namespace HyperEvolve

/-- Entries in order of the first write, each key once. -/
structure Table (κ α : Type) where
  entries : List (κ × α)
  nodup : (entries.map Prod.fst).Nodup

namespace Table

variable {κ α : Type}

instance [DecidableEq κ] [DecidableEq α] : DecidableEq (Table κ α) := fun s t =>
  decidable_of_iff (s.entries = t.entries) ⟨fun h => by cases s; cases t; cases h; rfl, fun h => h ▸ rfl⟩

def empty : Table κ α := ⟨[], List.nodup_nil⟩

instance : EmptyCollection (Table κ α) := ⟨empty⟩

def keys (t : Table κ α) : List κ := t.entries.map Prod.fst

def size (t : Table κ α) : Nat := t.entries.length

variable [DecidableEq κ]

/-- Replaces the value in place, or appends a new entry. -/
def put (k : κ) (v : α) : List (κ × α) → List (κ × α)
  | [] => [(k, v)]
  | (k', v') :: es => if k' = k then (k, v) :: es else (k', v') :: put k v es

theorem mem_keys_put {k : κ} {v : α} {es : List (κ × α)} {x : κ} :
    x ∈ (put k v es).map Prod.fst ↔ x = k ∨ x ∈ es.map Prod.fst := by
  induction es with
  | nil => simp [put]
  | cons e es ih =>
    obtain ⟨k', v'⟩ := e
    by_cases h : k' = k
    · subst h; simp [put]
    · simp only [put, h, ↓reduceIte, List.map_cons, List.mem_cons, ih]
      grind

theorem nodup_put {k : κ} {v : α} {es : List (κ × α)} (h : (es.map Prod.fst).Nodup) :
    ((put k v es).map Prod.fst).Nodup := by
  induction es with
  | nil => simp [put]
  | cons e es ih =>
    obtain ⟨k', v'⟩ := e
    simp only [List.map_cons, List.nodup_cons] at h
    by_cases hk : k' = k
    · subst hk; simpa [put] using h
    · simp only [put, hk, ↓reduceIte, List.map_cons, List.nodup_cons]
      exact ⟨fun hm => (mem_keys_put.1 hm).elim hk h.1, ih h.2⟩

def insert (t : Table κ α) (k : κ) (v : α) : Table κ α := ⟨put k v t.entries, nodup_put t.nodup⟩

/-- The table after writing the pairs in order. -/
def ofList (ps : List (κ × α)) : Table κ α := ps.foldl (fun t p => t.insert p.1 p.2) ∅

def get? (t : Table κ α) (k : κ) : Option α := t.entries.lookup k

def contains (t : Table κ α) (k : κ) : Bool := (t.get? k).isSome

/-- The entries whose keys pass a test. -/
def filterKeys (t : Table κ α) (p : κ → Bool) : Table κ α :=
  ⟨t.entries.filter fun e => p e.1, t.nodup.sublist (List.filter_sublist.map Prod.fst)⟩

def map {β : Type} (f : α → β) (t : Table κ α) : Table κ β :=
  ⟨t.entries.map fun e => (e.1, f e.2), by simpa [List.map_map, Function.comp_def] using t.nodup⟩

end Table

end HyperEvolve
