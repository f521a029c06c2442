import Mathlib.Logic.Equiv.Basic
import Mathlib.Logic.Embedding.Basic
import HyperEvolve.Proofs.Acceptance

/-!
# Names are only labels

Renaming the rules of a program, and its arrays and states alike, keeps all that compiling finds out, as
long as different names stay apart. Each lookup of the renamed program answers under a new name what the
old one answers under the old name, so every stage follows the same references, and a program is accepted
under its new names exactly when it is under the old ones, with the same artifacts.
-/

namespace HyperEvolve

open Declaration Symbols

/-! ## Renaming -/

/-- New names that keep different names apart. Arrays and states are renamed alike, since a source may name
either. -/
structure Renaming where
  rule : String ↪ String
  graph : String ↪ String

/-- The new names of one kind. -/
def Renaming.ofKind (ρ : Renaming) : Kind → String ↪ String
  | .rule => ρ.rule
  | .array | .state => ρ.graph

def Item.rename (ρ : Renaming) : Item → Item
  | .inline g => .inline g
  | .arrayRef n => .arrayRef (ρ.graph n)
  | .ruleRef n => .ruleRef (ρ.rule n)

def RuleBody.rename (ρ : Renaming) : RuleBody → RuleBody
  | .triple l i r => .triple (l.rename ρ) (i.rename ρ) (r.rename ρ)
  | .sequence items => .sequence (items.map (Item.rename ρ))

def StateRule.rename (ρ : Renaming) : StateRule → StateRule
  | .body b => .body (b.rename ρ)
  | .item i => .item (i.rename ρ)
  | .items is => .items (is.map (Item.rename ρ))

def Source.rename (ρ : Renaming) : Source → Source
  | .groups gs => .groups gs
  | .name n => .name (ρ.graph n)

def StateDecl.rename (ρ : Renaming) (s : StateDecl) : StateDecl :=
  ⟨ρ.graph s.name, s.source.rename ρ, s.rule.rename ρ, s.count⟩

def Declaration.rename (ρ : Renaming) : Declaration → Declaration
  | .array n gs => .array (ρ.graph n) gs
  | .rule n body => .rule (ρ.rule n) (body.rename ρ)
  | .state s => .state (s.rename ρ)

/-- The program with every name renamed where it is declared and where it is referred to. -/
def renamed (ρ : Renaming) (ds : List Declaration) : List Declaration := ds.map (Declaration.rename ρ)

variable (ρ : Renaming)

@[simp] theorem RuleBody.items_rename (body : RuleBody) : (body.rename ρ).items = body.items.map (Item.rename ρ) := by
  cases body <;> rfl

@[simp] theorem StateRule.parts_rename (rule : StateRule) :
    (rule.rename ρ).parts = rule.parts.map (Item.rename ρ) := by
  cases rule with
  | body b => exact b.items_rename ρ
  | item i => rfl
  | items is => rfl

/-! ## Lookups -/

/-- What is written under a new name is what was written under the old one, renamed. -/
theorem lastWritten_renamed {α : Type} (kind : Kind) {pair? : Declaration → Option (String × α)} {f : α → α}
    (hpair : ∀ d, pair? (d.rename ρ) = (pair? d).map fun p => (ρ.ofKind kind p.1, f p.2))
    (ds : List Declaration) (n : String) :
    lastWritten pair? (renamed ρ ds) (ρ.ofKind kind n) = (lastWritten pair? ds n).map f := by
  have hpairs : (renamed ρ ds).filterMap pair? =
      (ds.filterMap pair?).map fun p => (ρ.ofKind kind p.1, f p.2) := by
    rw [renamed, List.filterMap_map, List.map_filterMap]
    exact List.filterMap_congr fun d _ => hpair d
  rw [lastWritten, hpairs, ← List.map_reverse, Table.lookup_map_keys (ρ.ofKind kind).injective, lastWritten]

theorem declaredNames_renamed (kind : Kind) (ds : List Declaration) :
    declaredNames kind (renamed ρ ds) = (declaredNames kind ds).map (ρ.ofKind kind) := by
  induction ds with
  | nil => rfl
  | cons d ds ih =>
      simp only [declaredNames, renamed] at ih ⊢
      have hkind : (d.rename ρ).kind = d.kind := by cases d <;> rfl
      have hname : (d.rename ρ).name = ρ.ofKind d.kind d.name := by cases d <;> rfl
      by_cases hk : d.kind = kind
      · subst hk
        simp only [List.map_cons, List.filter_cons, hkind, decide_true, ↓reduceIte, hname, ih]
      · simp only [List.map_cons, List.filter_cons, hkind, hk, decide_false, Bool.false_eq_true, ↓reduceIte, ih]

namespace Symbols

/-- The second symbols answer under new names as the first under the old ones, and no other name is
declared in them. -/
structure RenamedTo (ρ : Renaming) (t t' : Symbols) : Prop where
  array : ∀ n, t'.arrays.get? (ρ.graph n) = t.arrays.get? n
  rule : ∀ n, t'.rules.get? (ρ.rule n) = (t.rules.get? n).map (RuleBody.rename ρ)
  state : ∀ n, t'.state? (ρ.graph n) = (t.state? n).map (StateDecl.rename ρ)
  rule_range : ∀ m body, t'.rules.get? m = some body → ∃ n, m = ρ.rule n
  state_range : ∀ m s, t'.state? m = some s → ∃ n, m = ρ.graph n

theorem renamedTo_ofDeclarations (ds : List Declaration) :
    RenamedTo ρ (ofDeclarations ds) (ofDeclarations (renamed ρ ds)) where
  array n := by
    have hpair : ∀ d : Declaration, arrayPair? (d.rename ρ) = (arrayPair? d).map fun p => (ρ.graph p.1, id p.2) :=
      fun d => by cases d <;> rfl
    have h := lastWritten_renamed ρ .array hpair ds n
    rwa [Option.map_id_fun, id, ← get?_arrays, ← get?_arrays] at h
  rule n := by
    have hpair : ∀ d : Declaration, rulePair? (d.rename ρ) = (rulePair? d).map fun p => (ρ.rule p.1, p.2.rename ρ) :=
      fun d => by cases d <;> rfl
    have h := lastWritten_renamed ρ .rule hpair ds n
    rwa [← get?_rules, ← get?_rules] at h
  state n := by
    have hpair : ∀ d : Declaration,
        statePair? (d.rename ρ) = (statePair? d).map fun p => (ρ.graph p.1, p.2.rename ρ) :=
      fun d => by cases d <;> rfl
    have h := lastWritten_renamed ρ .state hpair ds n
    rwa [← state?_ofDeclarations, ← state?_ofDeclarations] at h
  rule_range m body h := by
    have hm := mem_declaredNames_rule.mpr (Table.mem_keys_of_get? h)
    rw [declaredNames_renamed] at hm
    obtain ⟨n, -, rfl⟩ := List.mem_map.mp hm
    exact ⟨n, rfl⟩
  state_range m s h := by
    have hm := mem_declaredNames_state.mpr (Table.mem_keys_of_get? h)
    rw [declaredNames_renamed] at hm
    obtain ⟨n, -, rfl⟩ := List.mem_map.mp hm
    exact ⟨n, rfl⟩

namespace RenamedTo

variable {ρ} {t t' : Symbols} (h : RenamedTo ρ t t')
include h

/-! ## Stages -/

theorem unfoldWithin_eq (depth : Nat) (item : Item) :
    t'.unfoldWithin depth (item.rename ρ) = t.unfoldWithin depth item := by
  refine unfoldWithin_eq_of_related (R := fun i i' => i' = i.rename ρ) ?_ depth rfl
  rintro i _ rfl
  cases i with
  | inline g => exact .inl fun d => by rw [Item.rename, unfoldWithin_inline, unfoldWithin_inline]
  | arrayRef n => exact .inl fun d => by rw [Item.rename, unfoldWithin_arrayRef, unfoldWithin_arrayRef, h.array]
  | ruleRef n =>
      have hn := h.rule n
      cases hb : t.rules.get? n with
      | none =>
          rw [hb] at hn
          exact .inl fun d => by rw [Item.rename, unfoldWithin_undeclared hn, unfoldWithin_undeclared hb]
      | some body =>
          rw [hb] at hn
          have hitems : List.Forall₂ (fun i i' => i' = Item.rename ρ i) body.items (body.rename ρ).items := by
            rw [RuleBody.items_rename, List.forall₂_map_right_iff, List.forall₂_same]
            exact fun _ _ => rfl
          exact .inr ⟨n, ρ.rule n, body, body.rename ρ, rfl, rfl, hb, hn, hitems⟩

theorem hypergraphWithin_eq (depth : Nat) (source : Source) :
    t'.hypergraphWithin depth (source.rename ρ) = t.hypergraphWithin depth source := by
  refine hypergraphWithin_eq_of_related (R := fun src src' => src' = src.rename ρ) ?_ depth rfl
  rintro src _ rfl
  cases src with
  | groups gs => exact .inl fun d => by rw [Source.rename, hypergraphWithin_groups, hypergraphWithin_groups]
  | name n =>
      have ha := h.array n
      have hs := h.state n
      cases hgs : t.arrays.get? n with
      | some gs =>
          exact .inl fun d => by rw [Source.rename, hypergraphWithin_array hgs, hypergraphWithin_array (ha.trans hgs)]
      | none =>
          cases hst : t.state? n with
          | none =>
              rw [hst] at hs
              exact .inl fun d => by
                rw [Source.rename, hypergraphWithin_undeclared (ha.trans hgs) hs, hypergraphWithin_undeclared hgs hst]
          | some s =>
              rw [hst] at hs
              exact .inr ⟨n, ρ.graph n, s, s.rename ρ, rfl, rfl, hgs, hst, ha.trans hgs, hs, rfl, rfl⟩

theorem expand_eq (item : Item) : t'.expand (item.rename ρ) = (t.expand item).map (Item.rename ρ) := by
  cases item with
  | inline g => rfl
  | arrayRef n => rfl
  | ruleRef n =>
      have hn := h.rule n
      cases hb : t.rules.get? n with
      | none =>
          rw [hb] at hn
          simp only [Item.rename, expand, hn, hb, Option.map_none, List.map_cons, List.map_nil]
      | some body =>
          rw [hb] at hn
          simp only [Item.rename, expand, hn, hb, Option.map_some, RuleBody.items_rename]

theorem ruleParts_eq (rule : StateRule) : t'.ruleParts (rule.rename ρ) = (t.ruleParts rule).map (Item.rename ρ) := by
  rw [ruleParts, ruleParts, StateRule.parts_rename, List.flatMap_map, List.map_flatMap]
  exact List.flatMap_congr fun item _ => h.expand_eq item

theorem compileRule_eq (hunfold : ∀ item : Item, t'.unfold (item.rename ρ) = t.unfold item) (rule : StateRule) :
    t'.compileRule (rule.rename ρ) = t.compileRule rule := by
  have hall : ∀ items : List Item, t'.unfoldAll (items.map (Item.rename ρ)) = t.unfoldAll items := by
    intro items
    rw [unfoldAll, unfoldAll, List.flatMap_map]
    exact List.flatMap_congr fun item _ => hunfold item
  rw [compileRule, compileRule, h.ruleParts_eq]
  -- Renaming keeps the number of parts, which decides the roles.
  rcases t.ruleParts rule with _ | ⟨l, _ | ⟨i, _ | ⟨r, _ | ⟨x, parts⟩⟩⟩⟩
  · rfl
  · exact congrArg (fun gs => Table.ofList [(Role.whole, edgesOf gs)]) (hall [l])
  · exact congrArg (fun gs => Table.ofList [(Role.whole, edgesOf gs)]) (hall [l, i])
  · simp only [List.map_cons, List.map_nil, hunfold]
  · exact congrArg (fun gs => Table.ofList [(Role.whole, edgesOf gs)]) (hall (l :: i :: r :: x :: parts))

/-! ## Resolution -/

theorem mem_arrays_iff {n : String} : ρ.graph n ∈ t'.arrays.keys ↔ n ∈ t.arrays.keys := by
  rw [← Table.isSome_get?_iff, ← Table.isSome_get?_iff, h.array]

theorem mem_rules_iff {n : String} : ρ.rule n ∈ t'.rules.keys ↔ n ∈ t.rules.keys := by
  rw [← Table.isSome_get?_iff, ← Table.isSome_get?_iff, h.rule, Option.isSome_map]

theorem mem_states_iff {n : String} : ρ.graph n ∈ t'.stateIndex.keys ↔ n ∈ t.stateIndex.keys := by
  have hs := h.state n
  rw [state?, state?] at hs
  rw [← Table.isSome_get?_iff, ← Table.isSome_get?_iff, hs, Option.isSome_map]

theorem resolves_iff (item : Item) : t'.Resolves (item.rename ρ) ↔ t.Resolves item := by
  cases item with
  | inline g => exact Iff.rfl
  | arrayRef n => exact h.mem_arrays_iff
  | ruleRef n => exact h.mem_rules_iff

theorem sourceResolves_iff (source : Source) : t'.SourceResolves (source.rename ρ) ↔ t.SourceResolves source := by
  cases source with
  | groups gs => exact Iff.rfl
  | name n => exact or_congr h.mem_arrays_iff h.mem_states_iff

theorem itemsResolve_iff (items : List Item) :
    (∀ i ∈ items.map (Item.rename ρ), t'.Resolves i) ↔ ∀ i ∈ items, t.Resolves i := by
  rw [List.forall_mem_map]
  exact forall₂_congr fun i _ => h.resolves_iff i

theorem declarationResolves_iff (d : Declaration) :
    t'.DeclarationResolves (d.rename ρ) ↔ t.DeclarationResolves d := by
  cases d with
  | array n gs => exact Iff.rfl
  | rule n body =>
      rw [Declaration.rename, DeclarationResolves, DeclarationResolves, RuleBody.items_rename]
      exact h.itemsResolve_iff body.items
  | state s =>
      rw [Declaration.rename, DeclarationResolves, DeclarationResolves, StateDecl.rename, StateRule.parts_rename]
      exact and_congr (h.itemsResolve_iff s.rule.parts) (h.sourceResolves_iff s.source)

/-! ## Cycles -/

theorem unfoldEnds_iff : (∀ item, t'.UnfoldEnds item) ↔ ∀ item, t.UnfoldEnds item := by
  constructor
  · intro hends item
    obtain ⟨depth, gs, hgs⟩ := hends (item.rename ρ)
    exact ⟨depth, gs, (h.unfoldWithin_eq depth item).symm.trans hgs⟩
  · intro hends item'
    -- An item either needs no depth, or it names a rule and so is a renamed item.
    obtain ⟨gs, -, hall⟩ | ⟨m, body, rfl, hm⟩ := t'.unfold_leaf_or item'
    · exact ⟨0, gs, hall 0⟩
    · obtain ⟨n, rfl⟩ := h.rule_range m body hm
      obtain ⟨depth, gs, hgs⟩ := hends (.ruleRef n)
      exact ⟨depth, gs, (h.unfoldWithin_eq depth (.ruleRef n)).trans hgs⟩

theorem sourceEnds_iff : (∀ source, t'.SourceEnds source) ↔ ∀ source, t.SourceEnds source := by
  constructor
  · intro hends source
    obtain ⟨depth, g, hg⟩ := hends (source.rename ρ)
    exact ⟨depth, g, (h.hypergraphWithin_eq depth source).symm.trans hg⟩
  · intro hends source'
    obtain ⟨es, -, hall⟩ | ⟨m, s, rfl, -, hm⟩ := t'.source_leaf_or source'
    · exact ⟨0, _, hall 0⟩
    · obtain ⟨n, rfl⟩ := h.state_range m s hm
      obtain ⟨depth, g, hg⟩ := hends (.name n)
      exact ⟨depth, g, (h.hypergraphWithin_eq depth (.name n)).trans hg⟩

end RenamedTo

end Symbols

/-! ## Programs -/

variable {ds : List Declaration}

theorem acyclic_renamed_iff : Acyclic (renamed ρ ds) ↔ Acyclic ds := by
  have h := renamedTo_ofDeclarations ρ ds
  constructor
  · rintro ⟨hrules, hstates⟩
    exact ⟨ruleCycle?_eq_none_iff_ends.mpr (h.unfoldEnds_iff.mp (ruleCycle?_eq_none_iff_ends.mp hrules)),
      stateCycle?_eq_none_iff_ends.mpr (h.sourceEnds_iff.mp (stateCycle?_eq_none_iff_ends.mp hstates))⟩
  · rintro ⟨hrules, hstates⟩
    exact ⟨ruleCycle?_eq_none_iff_ends.mpr (h.unfoldEnds_iff.mpr (ruleCycle?_eq_none_iff_ends.mp hrules)),
      stateCycle?_eq_none_iff_ends.mpr (h.sourceEnds_iff.mpr (stateCycle?_eq_none_iff_ends.mp hstates))⟩

theorem shortCounts_renamed_iff : ShortCounts (renamed ρ ds) ↔ ShortCounts ds := by
  have hcounts : (renamed ρ ds).flatMap Declaration.counts = ds.flatMap Declaration.counts := by
    rw [renamed, List.flatMap_map]
    refine List.flatMap_congr fun d _ => ?_
    cases d <;> rfl
  rw [ShortCounts, hcounts, ShortCounts]

theorem compileState_renamed (hds : Acyclic ds) (s : StateDecl) :
    (ofDeclarations (renamed ρ ds)).compileState (s.rename ρ) = (ofDeclarations ds).compileState s := by
  have h := renamedTo_ofDeclarations ρ ds
  have hds' := (acyclic_renamed_iff ρ).mpr hds
  have hunfold : ∀ item : Item,
      (ofDeclarations (renamed ρ ds)).unfold (item.rename ρ) = (ofDeclarations ds).unfold item :=
    fun item => unfold_eq_of_unfoldWithin hds'.rules
      ((h.unfoldWithin_eq _ item).trans (unfoldWithin_size hds.rules item))
  have hsource : (ofDeclarations (renamed ρ ds)).compileSource (s.source.rename ρ) =
      (ofDeclarations ds).compileSource s.source :=
    compileSource_eq_of_hypergraphWithin hds'.states
      ((h.hypergraphWithin_eq _ s.source).trans (hypergraphWithin_size hds.states s.source))
  simp only [compileState, StateDecl.rename, h.compileRule_eq hunfold, hsource]

/-- A program is accepted under new names exactly when it is under the old ones, and then the artifact
under each new name is the artifact under the old one. -/
theorem compileProgram_renamed (ds : List Declaration) :
    ((∃ c', compileProgram (renamed ρ ds) = .ok c') ↔ ∃ c, compileProgram ds = .ok c) ∧
    ∀ c c', compileProgram ds = .ok c → compileProgram (renamed ρ ds) = .ok c' →
      ∀ n, c'.artifact? (ρ.graph n) = c.artifact? n := by
  have h := renamedTo_ofDeclarations ρ ds
  constructor
  · rw [exists_compileProgram_eq_ok_iff, exists_compileProgram_eq_ok_iff, acyclic_renamed_iff,
      shortCounts_renamed_iff, renamed, List.forall_mem_map]
    exact and_congr_left fun _ => forall₂_congr fun d _ => h.declarationResolves_iff d
  · intro c c' hc hc' n
    rw [artifact?_of_ok hc', artifact?_of_ok hc, h.state, Option.map_map]
    congr 1
    exact funext (compileState_renamed ρ (acyclic_of_ok hc))

/-- A state is built on another one whose name an array has too. -/
def sharedNameProgram : List Declaration :=
  [.array "v" [["v"], ["s", "r"]],
    .rule "r" (.triple (.arrayRef "v") (.inline ["v"]) (.ruleRef "q")),
    .rule "q" (.sequence [.inline ["q"]]),
    .state ⟨"v", .name "v", .item (.ruleRef "r"), some 1⟩,
    .state ⟨"s", .name "v", .item (.arrayRef "v"), none⟩,
    .state ⟨"r", .name "s", .items [.ruleRef "r", .ruleRef "q"], some 2⟩]

/-- The array and the state change names with another state; a rule may keep a name that was given up. -/
def swapping : Renaming where
  rule := (Equiv.swap "r" "v").toEmbedding
  graph := (Equiv.swap "v" "s").toEmbedding

theorem compileProgram_renamed_sharedNameProgram :
    ∃ c c', compileProgram sharedNameProgram = .ok c ∧ compileProgram (renamed swapping sharedNameProgram) = .ok c' ∧
      swapping.graph "v" = "s" ∧ c.artifact? "v" ≠ c.artifact? "s" ∧
      ∀ n, c'.artifact? (swapping.graph n) = c.artifact? n :=
  ⟨_, _, rfl, rfl, by decide, by decide, (compileProgram_renamed swapping sharedNameProgram).2 _ _ rfl rfl⟩

end HyperEvolve
