import HyperEvolve.Program.Checks
import HyperEvolve.Program.Resolution
import HyperEvolve.Program.Symbols
import HyperEvolve.Proofs.Table

/-!
# The lookups of a program

Each lookup is the table of the pairs that the declarations of its kind write, in order. The graphs
of the cycle checks are these same tables with other values, so the checks and the compiler follow
the same references whatever is declared twice or shadowed.
-/

namespace HyperEvolve

/-! ## What a declaration writes -/

namespace Declaration

def arrayPair? : Declaration → Option (String × List Group)
  | .array n gs => some (n, gs)
  | _ => none

def rulePair? : Declaration → Option (String × RuleBody)
  | .rule n body => some (n, body)
  | _ => none

def statePair? : Declaration → Option (String × StateDecl)
  | .state s => some (s.name, s)
  | _ => none

/-- What a program writes under a name by the pairs of its declarations: the last pair decides. -/
def lastWritten {α : Type} (pair? : Declaration → Option (String × α)) (ds : List Declaration) (n : String) :
    Option α := (ds.filterMap pair?).reverse.lookup n

/-- The pairs are those that the declarations of one kind write, each under the name of its own. -/
structure Writes {α : Type} (kind : Kind) (pair? : Declaration → Option (String × α)) : Prop where
  name : ∀ d p, pair? d = some p → p.1 = d.name
  isSome_iff : ∀ d, (pair? d).isSome ↔ d.kind = kind

theorem writes_array : Writes .array arrayPair? where
  name d p h := by cases d <;> cases h; rfl
  isSome_iff d := by cases d <;> simp [arrayPair?, kind]

theorem writes_rule : Writes .rule rulePair? where
  name d p h := by cases d <;> cases h; rfl
  isSome_iff d := by cases d <;> simp [rulePair?, kind]

theorem writes_state : Writes .state statePair? where
  name d p h := by cases d <;> cases h; rfl
  isSome_iff d := by cases d <;> simp [statePair?, kind]

namespace Writes

variable {α : Type} {kind : Kind} {pair? : Declaration → Option (String × α)} (h : Writes kind pair?)
include h

/-- The names of one kind are the keys that the pairs of that kind write. -/
theorem declaredNames_eq (ds : List Declaration) :
    declaredNames kind ds = (ds.filterMap pair?).map Prod.fst := by
  induction ds with
  | nil => rfl
  | cons d ds ih =>
      simp only [declaredNames] at ih ⊢
      cases he : pair? d with
      | none =>
          have hk : d.kind ≠ kind := by rw [ne_eq, ← h.isSome_iff, he]; simp
          simp only [List.filter_cons, hk, decide_false, Bool.false_eq_true, ↓reduceIte, ih,
            List.filterMap_cons, he]
      | some p =>
          have hk : d.kind = kind := by rw [← h.isSome_iff, he]; rfl
          simp only [List.filter_cons, hk, decide_true, ↓reduceIte, List.map_cons, ih,
            List.filterMap_cons, he, h.name d p he]

theorem isSome_lastWritten_iff {ds : List Declaration} {n : String} :
    (lastWritten pair? ds n).isSome ↔ n ∈ declaredNames kind ds := by
  rw [lastWritten, Table.isSome_lookup_iff, List.map_reverse, List.mem_reverse, h.declaredNames_eq]

/-- A declaration answers under its kind and name unless a later one does. -/
theorem lastWritten_cons (d : Declaration) (ds : List Declaration) (n : String) :
    lastWritten pair? (d :: ds) n =
      (lastWritten pair? ds n).or
        (if d.kind = kind ∧ d.name = n then (pair? d).map Prod.snd else none) := by
  unfold lastWritten
  cases hp : pair? d with
  | none => rw [List.filterMap_cons, hp, Option.map_none, ite_self, Option.or_none]
  | some p =>
      have hk : d.kind = kind := (h.isSome_iff d).mp (by rw [hp]; rfl)
      rw [List.filterMap_cons, hp, List.reverse_cons, List.lookup_append, Table.lookup_cons_ite,
        List.lookup_nil, h.name d p hp, Option.map_some]
      simp only [hk, true_and, eq_comm (a := n)]

end Writes

end Declaration

open Declaration

/-! ## Lookups -/

namespace Symbols

theorem foldl_declare_arrays (ds : List Declaration) (t : Symbols) :
    (ds.foldl declare t).arrays =
      (ds.filterMap arrayPair?).foldl (fun t p => t.insert p.1 p.2) t.arrays := by
  induction ds generalizing t with
  | nil => rfl
  | cons d ds ih => rw [List.foldl_cons, ih]; cases d <;> rfl

theorem foldl_declare_rules (ds : List Declaration) (t : Symbols) :
    (ds.foldl declare t).rules =
      (ds.filterMap rulePair?).foldl (fun t p => t.insert p.1 p.2) t.rules := by
  induction ds generalizing t with
  | nil => rfl
  | cons d ds ih => rw [List.foldl_cons, ih]; cases d <;> rfl

theorem foldl_declare_stateIndex (ds : List Declaration) (t : Symbols) :
    (ds.foldl declare t).stateIndex =
      (ds.filterMap statePair?).foldl (fun t p => t.insert p.1 p.2) t.stateIndex := by
  induction ds generalizing t with
  | nil => rfl
  | cons d ds ih => rw [List.foldl_cons, ih]; cases d <;> rfl

theorem foldl_declare_states (ds : List Declaration) (t : Symbols) :
    (ds.foldl declare t).states = t.states ++ stateDecls ds := by
  induction ds generalizing t with
  | nil => simp [stateDecls]
  | cons d ds ih =>
      rw [List.foldl_cons, ih]
      cases d <;> simp [declare, stateDecls]

theorem arrays_ofDeclarations (ds : List Declaration) :
    (ofDeclarations ds).arrays = .ofList (ds.filterMap arrayPair?) := foldl_declare_arrays ds empty

theorem rules_ofDeclarations (ds : List Declaration) :
    (ofDeclarations ds).rules = .ofList (ds.filterMap rulePair?) := foldl_declare_rules ds empty

theorem stateIndex_ofDeclarations (ds : List Declaration) :
    (ofDeclarations ds).stateIndex = .ofList (ds.filterMap statePair?) := foldl_declare_stateIndex ds empty

theorem states_ofDeclarations (ds : List Declaration) : (ofDeclarations ds).states = stateDecls ds := by
  rw [ofDeclarations, foldl_declare_states]
  rfl

theorem get?_arrays (ds : List Declaration) (n : String) :
    (ofDeclarations ds).arrays.get? n = lastWritten arrayPair? ds n := by
  rw [arrays_ofDeclarations, Table.get?_ofList, lastWritten]

theorem get?_rules (ds : List Declaration) (n : String) :
    (ofDeclarations ds).rules.get? n = lastWritten rulePair? ds n := by
  rw [rules_ofDeclarations, Table.get?_ofList, lastWritten]

theorem state?_ofDeclarations (ds : List Declaration) (n : String) :
    (ofDeclarations ds).state? n = lastWritten statePair? ds n := by
  rw [state?, stateIndex_ofDeclarations, Table.get?_ofList, lastWritten]

end Symbols

open Symbols

theorem mem_declaredNames_array {ds : List Declaration} {n : String} :
    n ∈ declaredNames .array ds ↔ n ∈ (ofDeclarations ds).arrays.keys := by
  rw [writes_array.declaredNames_eq, arrays_ofDeclarations, Table.mem_keys_ofList]

theorem mem_declaredNames_rule {ds : List Declaration} {n : String} :
    n ∈ declaredNames .rule ds ↔ n ∈ (ofDeclarations ds).rules.keys := by
  rw [writes_rule.declaredNames_eq, rules_ofDeclarations, Table.mem_keys_ofList]

theorem mem_declaredNames_state {ds : List Declaration} {n : String} :
    n ∈ declaredNames .state ds ↔ n ∈ (ofDeclarations ds).stateIndex.keys := by
  rw [writes_state.declaredNames_eq, stateIndex_ofDeclarations, Table.mem_keys_ofList]

theorem mem_stateDecls {ds : List Declaration} {s : StateDecl} : s ∈ stateDecls ds ↔ .state s ∈ ds := by
  simp only [stateDecls, List.mem_filterMap]
  constructor
  · rintro ⟨d, hd, he⟩
    cases d with
    | state s' => cases he; exact hd
    | _ => cases he
  · intro h
    exact ⟨_, h, rfl⟩

theorem rule_mem_of_get? {ds : List Declaration} {n : String} {body : RuleBody}
    (h : (ofDeclarations ds).rules.get? n = some body) : .rule n body ∈ ds := by
  rw [rules_ofDeclarations] at h
  obtain ⟨d, hd, he⟩ := List.mem_filterMap.mp (Table.mem_of_get?_ofList h)
  cases d with
  | rule n' body' => cases he; exact hd
  | _ => cases he

theorem state_mem_of_state? {ds : List Declaration} {n : String} {s : StateDecl}
    (h : (ofDeclarations ds).state? n = some s) : s.name = n ∧ .state s ∈ ds := by
  rw [state?, stateIndex_ofDeclarations] at h
  obtain ⟨d, hd, he⟩ := List.mem_filterMap.mp (Table.mem_of_get?_ofList h)
  cases d with
  | state s' => cases he; exact ⟨rfl, hd⟩
  | _ => cases he

theorem mem_stateNames {ds : List Declaration} {n : String} :
    n ∈ (ofDeclarations ds).states.map StateDecl.name ↔ n ∈ (ofDeclarations ds).stateIndex.keys := by
  rw [states_ofDeclarations, stateIndex_ofDeclarations, Table.mem_keys_ofList]
  simp only [List.mem_map, mem_stateDecls, List.mem_filterMap]
  constructor
  · rintro ⟨s, hs, rfl⟩
    exact ⟨(s.name, s), ⟨_, hs, rfl⟩, rfl⟩
  · rintro ⟨p, ⟨d, hd, he⟩, rfl⟩
    cases d with
    | state s => cases he; exact ⟨s, hd, rfl⟩
    | _ => cases he

/-! ## The graphs of the cycle checks -/

theorem ruleReferences_eq (ds : List Declaration) :
    ruleReferences ds = (ofDeclarations ds).rules.map fun body => ruleTargets body.items := by
  rw [rules_ofDeclarations, ← Table.ofList_map, List.map_filterMap, ruleReferences]
  congr 2
  funext d
  cases d <;> rfl

theorem stateReferences_eq (ds : List Declaration) :
    stateReferences ds =
      (ofDeclarations ds).stateIndex.map fun s => sourceTargets (declaredNames .array ds) s.source := by
  rw [stateIndex_ofDeclarations, ← Table.ofList_map, List.map_filterMap, stateReferences]
  congr 2
  funext d
  cases d <;> rfl

theorem mem_ruleTargets {items : List Item} {n : String} : n ∈ ruleTargets items ↔ .ruleRef n ∈ items := by
  simp only [ruleTargets, List.mem_filterMap]
  constructor
  · rintro ⟨i, hi, he⟩
    cases i with
    | ruleRef m => cases he; exact hi
    | _ => cases he
  · intro h
    exact ⟨_, h, rfl⟩

end HyperEvolve
