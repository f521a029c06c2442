import Mathlib.Data.List.Forall2
import HyperEvolve.Compile.Source
import HyperEvolve.Proofs.Resolution
import HyperEvolve.Proofs.Termination

/-!
# Accepted programs and their artifacts

A program is accepted when its names resolve, its references form no cycle and no count is too long to be
shown, and the artifact under a name is that of the state which the lookups know by this name. Two programs
whose references correspond unfold and compile alike; in particular acceptance and artifacts depend on the
lookups alone, but for the counts.
-/

namespace HyperEvolve

open Symbols

/-! ## Counts -/

/-- No count of the program has more digits than an integer is written with. -/
def ShortCounts (ds : List Declaration) : Prop :=
  ∀ n ∈ ds.flatMap Declaration.counts, Decimal.width n ≤ Decimal.maxDigits

theorem mem_counts_iff {ds : List Declaration} {n : Nat} :
    n ∈ ds.flatMap Declaration.counts ↔ ∃ s : StateDecl, .state s ∈ ds ∧ s.count = some n := by
  rw [List.mem_flatMap]
  constructor
  · rintro ⟨d, hd, hn⟩
    cases d with
    | array m gs => cases hn
    | rule m body => cases hn
    | state s => exact ⟨s, hd, Option.mem_toList.mp hn⟩
  · rintro ⟨s, hs, hn⟩
    exact ⟨.state s, hs, Option.mem_toList.mpr hn⟩

theorem ShortCounts.of_subset {ds ds' : List Declaration} (h : ShortCounts ds)
    (hsubset : ∀ s : StateDecl, .state s ∈ ds' → .state s ∈ ds) : ShortCounts ds' := by
  intro n hn
  obtain ⟨s, hs, hcount⟩ := mem_counts_iff.mp hn
  exact h n (mem_counts_iff.mpr ⟨s, hsubset s hs, hcount⟩)

namespace Symbols

variable {ds : List Declaration}

theorem count_mem_counts {s : StateDecl} (hs : .state s ∈ ds) {n : Int}
    (hn : n ∈ (s.count.map Int.ofNat).toList) : ∃ m ∈ ds.flatMap Declaration.counts, n = Int.ofNat m := by
  obtain ⟨m, hm, rfl⟩ := Option.map_eq_some_iff.mp (Option.mem_toList.mp hn)
  exact ⟨m, mem_counts_iff.mpr ⟨s, hs, hm⟩, rfl⟩

/-- Every level of the hypergraph of a source has the count of a state of the program. -/
theorem counts_hypergraphWithin {depth : Nat} {source : Source} {h : Hypergraph}
    (hh : (ofDeclarations ds).hypergraphWithin depth source = some h) :
    ∀ n ∈ h.counts, ∃ m ∈ ds.flatMap Declaration.counts, n = Int.ofNat m := by
  induction depth generalizing source h with
  | zero =>
      obtain ⟨es, -, hall⟩ | ⟨m, s, rfl, ha, hs⟩ := (ofDeclarations ds).source_leaf_or source
      · cases (hall 0).symm.trans hh
        exact fun n hn => nomatch hn
      · rw [hypergraphWithin_zero ha hs] at hh
        cases hh
  | succ depth ih =>
      obtain ⟨es, -, hall⟩ | ⟨m, s, rfl, ha, hs⟩ := (ofDeclarations ds).source_leaf_or source
      · cases (hall (depth + 1)).symm.trans hh
        exact fun n hn => nomatch hn
      · rw [hypergraphWithin_succ ha hs, Option.map_eq_some_iff] at hh
        obtain ⟨base, hbase, rfl⟩ := hh
        intro n hn
        rcases List.mem_append.mp hn with hn | hn
        · exact ih hbase n hn
        · exact count_mem_counts (state_mem_of_state? hs).2 hn

theorem counts_compileState {s : StateDecl} (hs : .state s ∈ ds) :
    ∀ n ∈ ((ofDeclarations ds).compileState s).counts, ∃ m ∈ ds.flatMap Declaration.counts, n = Int.ofNat m := by
  intro n hn
  rcases List.mem_append.mp hn with hn | hn
  · cases hh : (ofDeclarations ds).hypergraphWithin (ofDeclarations ds).stateIndex.size s.source with
    | none =>
        rw [compileState, compileSource, hh] at hn
        cases hn
    | some h =>
        rw [compileState, compileSource, hh] at hn
        exact counts_hypergraphWithin hh n hn
  · exact count_mem_counts hs hn

theorem hasShortCounts_compileState (h : ShortCounts ds) {s : StateDecl} (hs : .state s ∈ ds) :
    ((ofDeclarations ds).compileState s).HasShortCounts := by
  intro n hn
  obtain ⟨m, hm, rfl⟩ := counts_compileState hs n hn
  exact h m hm

/-- A state with its artifact and the text of its preview. -/
def compiled (t : Symbols) (s : StateDecl) : CompiledState :=
  ⟨s.name, t.compileState s, (t.compileState s).preview⟩

end Symbols

/-- The states are compiled exactly if no count is too long: those of the levels below a state are counts of
other states. -/
theorem compileStates_eq_some_iff {ds : List Declaration} {states : List CompiledState} :
    compileStates (ofDeclarations ds) = some states ↔
      ShortCounts ds ∧ states = (stateDecls ds).map (ofDeclarations ds).compiled := by
  have hshort : ShortCounts ds →
      compileStates (ofDeclarations ds) = some ((stateDecls ds).map (ofDeclarations ds).compiled) := by
    intro h
    rw [compileStates, states_ofDeclarations]
    refine mapM_eq_pure_map fun s hs => ?_
    have hpreview := Artifact.preview?_eq_some_iff.mpr ⟨hasShortCounts_compileState h (mem_stateDecls.mp hs), rfl⟩
    simp only [hpreview, Option.map_some]
    rfl
  constructor
  · intro h
    have hcounts : ShortCounts ds := by
      intro n hn
      obtain ⟨s, hs, hcount⟩ := mem_counts_iff.mp hn
      rw [compileStates, states_ofDeclarations] at h
      obtain ⟨y, hy⟩ := exists_of_mapM h s (mem_stateDecls.mpr hs)
      obtain ⟨p, hp, -⟩ := Option.map_eq_some_iff.mp hy
      refine (Artifact.preview?_eq_some_iff.mp hp).1 (Int.ofNat n) (List.mem_append_right _ ?_)
      exact Option.mem_toList.mpr (congrArg (Option.map Int.ofNat) hcount)
    exact ⟨hcounts, Option.some.inj (h.symm.trans (hshort hcounts))⟩
  · rintro ⟨h, rfl⟩
    exact hshort h

/-! ## Acceptance -/

theorem compileProgram_eq_ok_iff {ds : List Declaration} {c : Compilation} :
    compileProgram ds = .ok c ↔
      (∀ d ∈ ds, (ofDeclarations ds).DeclarationResolves d) ∧ stateCycle? ds = none ∧
        ruleCycle? ds = none ∧ ShortCounts ds ∧
        c = ⟨(stateDecls ds).map (ofDeclarations ds).compiled, (check ds).warnings⟩ := by
  rw [← unresolvedAmong_eq_nil_iff, compileProgram]
  cases hu : unresolvedAmong ds (ofDeclarations ds).states with
  | cons e es => simp
  | nil =>
      cases hc : cycleErrors ds with
      | cons e es =>
          have hn : ¬ (stateCycle? ds = none ∧ ruleCycle? ds = none) := by
            rw [← cycleErrors_eq_nil_iff, hc]; simp
          simp only [check, hc, reduceCtorEq, true_and, false_iff]
          rintro ⟨hs, hr, -⟩
          exact hn ⟨hs, hr⟩
      | nil =>
          obtain ⟨hs, hr⟩ := cycleErrors_eq_nil_iff.mp hc
          simp only [check, hc, hs, hr, true_and]
          cases hstates : compileStates (ofDeclarations ds) with
          | none =>
              simp only [reduceCtorEq, false_iff]
              rintro ⟨hcounts, -⟩
              rw [compileStates_eq_some_iff.mpr ⟨hcounts, rfl⟩] at hstates
              cases hstates
          | some states =>
              obtain ⟨hcounts, rfl⟩ := compileStates_eq_some_iff.mp hstates
              simp only [hcounts, true_and, Except.ok.injEq]
              exact eq_comm

/-- What is neither compiled nor refused is a program without unresolved names and cycles that has a count
which is too long. -/
theorem compileProgram_eq_longCount_iff {ds : List Declaration} :
    compileProgram ds = .error .longCount ↔
      unresolvedAmong ds (ofDeclarations ds).states = [] ∧ (check ds).errors = [] ∧ ¬ ShortCounts ds := by
  rw [compileProgram]
  cases hu : unresolvedAmong ds (ofDeclarations ds).states with
  | cons e es => simp
  | nil =>
      cases hc : (check ds).errors with
      | cons e es => simp [hc]
      | nil =>
          simp only [hc, true_and]
          cases hstates : compileStates (ofDeclarations ds) with
          | none =>
              simp only [true_iff]
              intro hcounts
              rw [compileStates_eq_some_iff.mpr ⟨hcounts, rfl⟩] at hstates
              cases hstates
          | some states => simp [(compileStates_eq_some_iff.mp hstates).1]

/-- Neither the rules of the program nor its states form a cycle, so that compiling ends. -/
structure Acyclic (ds : List Declaration) : Prop where
  rules : ruleCycle? ds = none
  states : stateCycle? ds = none

theorem acyclic_of_ok {ds : List Declaration} {c : Compilation} (h : compileProgram ds = .ok c) : Acyclic ds :=
  have ⟨_, hstates, hrules, _⟩ := compileProgram_eq_ok_iff.mp h
  ⟨hrules, hstates⟩

theorem shortCounts_of_ok {ds : List Declaration} {c : Compilation} (h : compileProgram ds = .ok c) :
    ShortCounts ds := (compileProgram_eq_ok_iff.mp h).2.2.2.1

theorem states_of_ok {ds : List Declaration} {c : Compilation} (h : compileProgram ds = .ok c) :
    c.states = (stateDecls ds).map (ofDeclarations ds).compiled := by
  obtain ⟨-, -, -, -, rfl⟩ := compileProgram_eq_ok_iff.mp h
  rfl

/-- The preview beside an artifact is its own. -/
theorem preview_of_mem_states {ds : List Declaration} {c : Compilation} (h : compileProgram ds = .ok c)
    {s : CompiledState} (hs : s ∈ c.states) : s.preview = s.artifact.preview := by
  rw [states_of_ok h] at hs
  obtain ⟨d, -, rfl⟩ := List.mem_map.mp hs
  rfl

theorem compileProgram_of_compileText {ε : Type} {parser : Parser ε} {text : Text} {r : CompileReport}
    (h : compileText parser text = .ok r) : ∃ ds, parser text = .ok ds ∧ compileProgram ds = .ok r.compilation := by
  rw [compileText] at h
  split at h
  · cases h
  · cases h
  · rename_i ds hds
    split at h
    · rename_i c hc
      cases h
      exact ⟨ds, hds, hc⟩
    · cases h
    · cases h

theorem exists_compileProgram_eq_ok_iff {ds : List Declaration} :
    (∃ c, compileProgram ds = .ok c) ↔
      (∀ d ∈ ds, (ofDeclarations ds).DeclarationResolves d) ∧ Acyclic ds ∧ ShortCounts ds := by
  constructor
  · rintro ⟨c, h⟩
    exact ⟨(compileProgram_eq_ok_iff.mp h).1, acyclic_of_ok h, shortCounts_of_ok h⟩
  · rintro ⟨hres, ⟨hrules, hstates⟩, hcounts⟩
    exact ⟨_, compileProgram_eq_ok_iff.mpr ⟨hres, hstates, hrules, hcounts, rfl⟩⟩

/-- The artifacts by name are those of the states that the lookups know. -/
theorem artifacts_compiled (ds : List Declaration) (ws : List Warning) :
    (Compilation.mk ((stateDecls ds).map (ofDeclarations ds).compiled) ws).artifacts =
      (ofDeclarations ds).stateIndex.map (ofDeclarations ds).compileState := by
  rw [stateIndex_ofDeclarations, ← Table.ofList_map, Compilation.artifacts, stateDecls, List.map_map,
    List.map_filterMap, List.map_filterMap]
  congr 2
  funext d
  cases d <;> rfl

theorem artifact?_of_ok {ds : List Declaration} {c : Compilation} (h : compileProgram ds = .ok c)
    (n : String) :
    c.artifact? n = ((ofDeclarations ds).state? n).map (ofDeclarations ds).compileState := by
  obtain ⟨-, -, -, -, rfl⟩ := compileProgram_eq_ok_iff.mp h
  rw [Compilation.artifact?, artifacts_compiled, Table.get?_map, state?]

/-- The compiled states stand in the order of their declarations. -/
theorem forall₂_states {ds : List Declaration} {c : Compilation} (h : compileProgram ds = .ok c)
    {R : StateDecl → CompiledState → Prop}
    (hR : ∀ s ∈ stateDecls ds, R s ⟨s.name, (ofDeclarations ds).compileState s,
      ((ofDeclarations ds).compileState s).preview⟩) :
    List.Forall₂ R (stateDecls ds) c.states := by
  rw [states_of_ok h, List.forall₂_map_right_iff, List.forall₂_same]
  exact hR

/-! ## Two programs side by side -/

namespace Symbols

/-- Items unfold alike in two programs if related items either do so at every depth, or name rules whose
items are related in turn. -/
theorem unfoldWithin_eq_of_related {t t' : Symbols} {R : Item → Item → Prop}
    (hR : ∀ i i', R i i' → (∀ d, t'.unfoldWithin d i' = t.unfoldWithin d i) ∨
      ∃ n n' body body', i = .ruleRef n ∧ i' = .ruleRef n' ∧ t.rules.get? n = some body ∧
        t'.rules.get? n' = some body' ∧ List.Forall₂ R body.items body'.items)
    (depth : Nat) {i i' : Item} (h : R i i') : t'.unfoldWithin depth i' = t.unfoldWithin depth i := by
  induction depth generalizing i i' with
  | zero =>
      obtain hleaf | ⟨n, n', body, body', rfl, rfl, hn, hn', -⟩ := hR i i' h
      · exact hleaf 0
      · rw [unfoldWithin_zero hn, unfoldWithin_zero hn']
  | succ depth ih =>
      obtain hleaf | ⟨n, n', body, body', rfl, rfl, hn, hn', hitems⟩ := hR i i' h
      · exact hleaf _
      · have hgroups : body'.items.mapM (t'.unfoldWithin depth) = body.items.mapM (t.unfoldWithin depth) :=
          mapM_eq_of_forall₂ (fun _ _ hi => ih hi) hitems
        rw [unfoldWithin_succ hn, unfoldWithin_succ hn', hgroups]

/-- The same for sources: related ones either compile alike at every depth, or name states of one count
whose sources are related in turn. -/
theorem hypergraphWithin_eq_of_related {t t' : Symbols} {R : Source → Source → Prop}
    (hR : ∀ src src', R src src' → (∀ d, t'.hypergraphWithin d src' = t.hypergraphWithin d src) ∨
      ∃ n n' s s', src = .name n ∧ src' = .name n' ∧ t.arrays.get? n = none ∧ t.state? n = some s ∧
        t'.arrays.get? n' = none ∧ t'.state? n' = some s' ∧ s'.count = s.count ∧ R s.source s'.source)
    (depth : Nat) {src src' : Source} (h : R src src') :
    t'.hypergraphWithin depth src' = t.hypergraphWithin depth src := by
  induction depth generalizing src src' with
  | zero =>
      obtain hleaf | ⟨n, n', s, s', rfl, rfl, ha, hs, ha', hs', -⟩ := hR src src' h
      · exact hleaf 0
      · rw [hypergraphWithin_zero ha hs, hypergraphWithin_zero ha' hs']
  | succ depth ih =>
      obtain hleaf | ⟨n, n', s, s', rfl, rfl, ha, hs, ha', hs', hcount, hsource⟩ := hR src src' h
      · exact hleaf _
      · rw [hypergraphWithin_succ ha hs, hypergraphWithin_succ ha' hs', hcount, ih hsource]

/-! ## Programs with the same lookups -/

/-- Every lookup has the same answer. The entries may stand in another order, and the lists of states
may differ in what is superseded. -/
structure SameLookups (t t' : Symbols) : Prop where
  array : ∀ n, t.arrays.get? n = t'.arrays.get? n
  rule : ∀ n, t.rules.get? n = t'.rules.get? n
  state : ∀ n, t.state? n = t'.state? n

/-- Two programs have the same lookups when they write alike in each kind. -/
theorem sameLookups_of_lastWritten_eq {ds ds' : List Declaration}
    (h : ∀ {α : Type} {kind : Kind} {pair? : Declaration → Option (String × α)}, Declaration.Writes kind pair? →
      ∀ n, Declaration.lastWritten pair? ds n = Declaration.lastWritten pair? ds' n) :
    (ofDeclarations ds).SameLookups (ofDeclarations ds') where
  array n := by rw [get?_arrays, get?_arrays, h Declaration.writes_array]
  rule n := by rw [get?_rules, get?_rules, h Declaration.writes_rule]
  state n := by rw [state?_ofDeclarations, state?_ofDeclarations, h Declaration.writes_state]

namespace SameLookups

variable {t t' : Symbols} (h : t.SameLookups t')
include h

theorem symm : t'.SameLookups t :=
  ⟨fun n => (h.array n).symm, fun n => (h.rule n).symm, fun n => (h.state n).symm⟩

theorem declaresMore : t.DeclaresMore t' where
  arrays n hn := by rwa [← Table.isSome_get?_iff, ← h.array, Table.isSome_get?_iff]
  rules n hn := by rwa [← Table.isSome_get?_iff, ← h.rule, Table.isSome_get?_iff]
  states n hn := by
    have hs := h.state n
    unfold state? at hs
    rwa [← Table.isSome_get?_iff, ← hs, Table.isSome_get?_iff]

theorem declarationResolves_iff {d : Declaration} : t.DeclarationResolves d ↔ t'.DeclarationResolves d :=
  ⟨h.declaresMore.declarationResolves, h.symm.declaresMore.declarationResolves⟩

theorem unfoldWithin_eq (depth : Nat) : t.unfoldWithin depth = t'.unfoldWithin depth := by
  induction depth with
  | zero =>
      funext item
      cases item <;> simp only [unfoldWithin, h.array, h.rule]
  | succ depth ih =>
      funext item
      cases item <;> simp only [unfoldWithin, h.array, h.rule, ih]

theorem hypergraphWithin_eq (depth : Nat) : t.hypergraphWithin depth = t'.hypergraphWithin depth := by
  induction depth with
  | zero =>
      funext source
      cases source <;> simp only [hypergraphWithin, h.array, h.state]
  | succ depth ih =>
      funext source
      cases source <;> simp only [hypergraphWithin, h.array, h.state, ih]

theorem unfold_eq : t.unfold = t'.unfold := by
  funext item
  rw [unfold, unfold, h.unfoldWithin_eq, Table.size_eq_of_get? h.rule]

theorem compileSource_eq : t.compileSource = t'.compileSource := by
  funext source
  rw [compileSource, compileSource, h.hypergraphWithin_eq, Table.size_eq_of_get? h.state]

theorem expand_eq : t.expand = t'.expand := by
  funext item
  cases item <;> simp only [expand, h.rule]

theorem compileState_eq : t.compileState = t'.compileState := by
  funext s
  simp only [compileState, compileRule, ruleParts, unfoldAll, h.unfold_eq, h.compileSource_eq, h.expand_eq]

end SameLookups

end Symbols

/-- Cycles of states and of rules depend on the lookups alone. -/
theorem cycles_of_sameLookups {ds ds' : List Declaration}
    (h : (ofDeclarations ds).SameLookups (ofDeclarations ds')) :
    (stateCycle? ds = none ↔ stateCycle? ds' = none) ∧ (ruleCycle? ds = none ↔ ruleCycle? ds' = none) := by
  constructor
  · rw [stateCycle?_eq_none_iff_ends, stateCycle?_eq_none_iff_ends]
    simp only [SourceEnds, h.hypergraphWithin_eq]
  · rw [ruleCycle?_eq_none_iff_ends, ruleCycle?_eq_none_iff_ends]
    simp only [UnfoldEnds, h.unfoldWithin_eq]

end HyperEvolve
