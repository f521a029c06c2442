import HyperEvolve.Proofs.Acceptance

/-!
# States built on other states

A source that names an array holds the hyperedges of the last array of that name. A source that names a
state embeds the artifact that the program has under this name, without its rule. Both hold of every
state that is compiled, superseded ones included.
-/

namespace HyperEvolve

open Declaration Symbols

/-! ## The last declaration of a name -/

/-- What is written under a name stands in the last declaration of its kind and name. -/
theorem last_of_lastWritten {α : Type} {kind : Kind} {pair? : Declaration → Option (String × α)}
    (h : Writes kind pair?) {ds : List Declaration} {n : String} {v : α} (hv : lastWritten pair? ds n = some v) :
    ∃ before d after, ds = before ++ d :: after ∧ pair? d = some (n, v) ∧ n ∉ declaredNames kind after := by
  induction ds with
  | nil => cases hv
  | cons d ds ih =>
      rw [h.lastWritten_cons] at hv
      cases hl : lastWritten pair? ds n with
      | some w =>
          rw [hl, Option.some_or] at hv
          obtain ⟨before, e, after, rfl, he, hafter⟩ := ih (hl.trans hv)
          exact ⟨d :: before, e, after, rfl, he, hafter⟩
      | none =>
          -- Nothing below writes under the name, so the first declaration does and is the last of its name.
          have hafter : n ∉ declaredNames kind ds := by
            rw [← h.isSome_lastWritten_iff, hl]
            simp
          rw [hl, Option.none_or] at hv
          split at hv
          · rename_i hd
            obtain ⟨p, hp, rfl⟩ := Option.map_eq_some_iff.mp hv
            have hn : p.1 = n := (h.name d p hp).trans hd.2
            exact ⟨[], d, ds, rfl, by rw [hp, ← hn], hafter⟩
          · cases hv

/-- The last array declared under a name has these groups. -/
def LastArray (ds : List Declaration) (n : String) (gs : List Group) : Prop :=
  ∃ before after, ds = before ++ .array n gs :: after ∧ n ∉ declaredNames .array after

theorem lastArray_of_get? {ds : List Declaration} {n : String} {gs : List Group}
    (h : (ofDeclarations ds).arrays.get? n = some gs) : LastArray ds n gs := by
  rw [get?_arrays] at h
  obtain ⟨before, d, after, rfl, hd, hafter⟩ := last_of_lastWritten writes_array h
  cases d with
  | array m gs' => cases hd; exact ⟨before, after, rfl, hafter⟩
  | _ => cases hd

/-! ## Sources that name something -/

/-- The artifact with its rule erased and all else kept. -/
def Artifact.withoutRule (a : Artifact) : Artifact := { a with rule := ∅ }

namespace Symbols

theorem compileSource_array {t : Symbols} {n : String} {gs : List Group} (h : t.arrays.get? n = some gs) :
    t.compileSource (.name n) = .edges (edgesOf gs) := by
  rw [compileSource, hypergraphWithin_array h, Option.getD_some]

theorem compileSource_state {ds : List Declaration} (hcycle : stateCycle? ds = none) {n : String}
    {s : StateDecl} (ha : (ofDeclarations ds).arrays.get? n = none)
    (hs : (ofDeclarations ds).state? n = some s) :
    (ofDeclarations ds).compileSource (.name n) =
      ((ofDeclarations ds).compileState s).withoutRule.evolved := by
  have hwithin : (ofDeclarations ds).hypergraphWithin ((ofDeclarations ds).stateIndex.size + 1) (.name n) =
      some ((ofDeclarations ds).compileState s).withoutRule.evolved := by
    rw [hypergraphWithin_succ ha hs, hypergraphWithin_size hcycle]
    rfl
  exact compileSource_eq_of_hypergraphWithin hcycle hwithin

end Symbols

/-! ## Compiled states -/

/-- What a compiled state may embed when its source is a name. -/
structure EmbedsNamed (ds : List Declaration) (c : Compilation) (n : String) (base : Hypergraph) :
    Prop where
  /-- An array of this name comes first, even when there is a state of the name. -/
  array : n ∈ declaredNames .array ds → ∃ gs, LastArray ds n gs ∧ base = .edges (edgesOf gs)
  /-- Else the name has an artifact, and all of it but its rule is embedded. -/
  state : n ∉ declaredNames .array ds →
    ∃ a, c.artifact? n = some a ∧ base = a.withoutRule.evolved

/-- A state whose source is a name embeds the last array of that name, or the artifact that the program
has under it with the rule erased. -/
theorem hypergraph_of_named_source {ds : List Declaration} {c : Compilation} (h : compileProgram ds = .ok c) :
    List.Forall₂ (fun s compiled => compiled.name = s.name ∧
      ∀ n, s.source = .name n → EmbedsNamed ds c n compiled.artifact.hypergraph) (stateDecls ds) c.states := by
  obtain ⟨hres, hcycle, -, -⟩ := compileProgram_eq_ok_iff.mp h
  refine forall₂_states h fun s hs => ⟨rfl, fun n hn => ?_⟩
  have hsource : ((ofDeclarations ds).compileState s).hypergraph =
      (ofDeclarations ds).compileSource (.name n) := by rw [← hn]; rfl
  rw [hsource]
  constructor
  · intro harray
    rw [mem_declaredNames_array, ← Table.isSome_get?_iff, Option.isSome_iff_exists] at harray
    obtain ⟨gs, hgs⟩ := harray
    exact ⟨gs, lastArray_of_get? hgs, compileSource_array hgs⟩
  · intro harray
    rw [mem_declaredNames_array] at harray
    -- The source resolves, so the name that no array has is that of a state.
    have hr : (ofDeclarations ds).SourceResolves s.source := (hres _ (mem_stateDecls.mp hs)).2
    rw [hn] at hr
    obtain ⟨s', hs'⟩ : ∃ s', (ofDeclarations ds).state? n = some s' := by
      rw [← Option.isSome_iff_exists]
      exact Table.isSome_get?_iff.mpr (hr.resolve_left harray)
    refine ⟨(ofDeclarations ds).compileState s', ?_, ?_⟩
    · rw [artifact?_of_ok h, hs', Option.map_some]
    · exact compileSource_state hcycle (Table.get?_eq_none_iff.mpr harray) hs'

/-- A chain of three states, one of them superseded, and a name that an array and a state share. -/
def chainedProgram : List Declaration :=
  [.array "v" [["x"]],
    .state ⟨"s", .groups [["a"]], .item (.inline ["p"]), some 1⟩,
    .state ⟨"v", .name "s", .item (.inline ["q"]), none⟩,
    .state ⟨"u", .name "s", .items [.inline ["q"], .inline []], some 7⟩,
    .state ⟨"s", .groups [["b", "c"]], .item (.inline ["r"]), some 2⟩,
    .state ⟨"w", .name "u", .item (.arrayRef "v"), none⟩,
    .state ⟨"u", .name "v", .item (.inline []), some 3⟩,
    .array "v" [["y"], []]]

theorem hypergraph_of_named_source_chainedProgram :
    ∃ c, compileProgram chainedProgram = .ok c ∧
      List.Forall₂ (fun s compiled => compiled.name = s.name ∧
          ∀ n, s.source = .name n → EmbedsNamed chainedProgram c n compiled.artifact.hypergraph)
        (stateDecls chainedProgram) c.states :=
  ⟨_, rfl, hypergraph_of_named_source rfl⟩

end HyperEvolve
