import Mathlib.Data.List.Dedup
import HyperEvolve.Compile.Source
import HyperEvolve.Proofs.Nesting
import HyperEvolve.Proofs.Roles

/-!
# The shape of compiled artifacts

Whatever a program text declares, its artifacts have one shape: the roles stand at the outermost level
only, every level is marked clean and has no negative number of steps, there are no more levels below the
outermost one than the program has names of states, and every hyperedge is a group that stands in the
program.
-/

namespace HyperEvolve

open Declaration Symbols

/-! ## Levels and hyperedges -/

namespace Hypergraph

/-- The levels from the outside in. -/
def layers : Hypergraph → List Layer
  | .edges _ => []
  | .evolved base layer => layer :: base.layers

/-- The hyperedges below all levels. -/
def ground : Hypergraph → List Hyperedge
  | .edges es => es
  | .evolved base _ => base.ground

end Hypergraph

/-- The hyperedges of a level over all its roles. -/
def Layer.hyperedges (layer : Layer) : List Hyperedge := layer.rule.entries.flatMap Prod.snd

namespace Artifact

/-- The level of the artifact itself and those of its hypergraph. -/
def layers (a : Artifact) : List Layer := a.toLayer :: a.hypergraph.layers

def hyperedges (a : Artifact) : List Hyperedge := a.layers.flatMap Layer.hyperedges ++ a.hypergraph.ground

end Artifact

/-- The groups of a program that may become hyperedges. An array that is declared again has none. -/
inductive HasGroup (ds : List Declaration) : Group → Prop
  | array {n : String} {gs : List Group} {g : Group} : LastArray ds n gs → g ∈ gs → HasGroup ds g
  | inline {d : Declaration} {g : Group} : d ∈ ds → .inline g ∈ d.items → HasGroup ds g
  | literal {s : StateDecl} {gs : List Group} {g : Group} :
      .state s ∈ ds → s.source = .groups gs → g ∈ gs → HasGroup ds g

/-- The shape of the artifacts of a program. -/
structure WireShaped (ds : List Declaration) (a : Artifact) : Prop where
  roles : a.rule.keys = [Role.left, Role.interface, Role.right] ∨ a.rule.keys = [Role.whole]
  nested : ∀ l ∈ a.hypergraph.layers, l.rule = ∅
  clean : ∀ l ∈ a.layers, l.clean = true
  steps : ∀ l ∈ a.layers, ∀ n, l.steps = some n → 0 ≤ n
  depth : a.hypergraph.layers.length ≤ (declaredNames .state ds).dedup.length
  hyperedges : ∀ e ∈ a.hyperedges, ∃ g, HasGroup ds g ∧ e.vertices = g.map Text.ofString

theorem steps_nonneg {count : Option Nat} {n : Int} (h : count.map Int.ofNat = some n) : 0 ≤ n := by
  obtain ⟨k, -, rfl⟩ := Option.map_eq_some_iff.mp h
  exact Int.natCast_nonneg k

/-! ## Rules -/

variable {ds : List Declaration}

theorem keys_compileRule (t : Symbols) (rule : StateRule) :
    (t.compileRule rule).keys = [Role.left, Role.interface, Role.right] ∨
      (t.compileRule rule).keys = [Role.whole] := by
  by_cases h : (t.ruleParts rule).length = 3
  · obtain ⟨l, i, r, hp⟩ := List.length_eq_three.mp h
    exact .inl (by rw [Table.keys, compileRule_three hp]; rfl)
  · exact .inr (by rw [Table.keys, compileRule_other h]; rfl)

theorem hasGroup_of_get? {n : String} {gs : List Group} (h : (ofDeclarations ds).arrays.get? n = some gs) :
    ∀ g ∈ gs, HasGroup ds g :=
  fun _ hg => .array (lastArray_of_get? h) hg

/-- Unfolding an item of the program gives groups of the program. -/
theorem hasGroup_of_unfold (hcycle : ruleCycle? ds = none) {d : Declaration} (hd : d ∈ ds) {item : Item}
    (hi : item ∈ d.items) : ∀ g ∈ (ofDeclarations ds).unfold item, HasGroup ds g := by
  induction item using (ruleCycle?_eq_none_iff_wellFounded.mp hcycle).induction generalizing d with
  | _ item ih =>
    intro g hg
    cases item with
    | inline g' =>
        rw [unfold, unfoldWithin_inline, Option.getD_some, List.mem_singleton] at hg
        exact .inline hd (hg ▸ hi)
    | arrayRef n =>
        rw [unfold, unfoldWithin_arrayRef, Option.getD_some] at hg
        cases hn : (ofDeclarations ds).arrays.get? n with
        | none => simp [hn] at hg
        | some gs => exact hasGroup_of_get? hn g (by simpa [hn] using hg)
    | ruleRef n =>
        cases hn : (ofDeclarations ds).rules.get? n with
        | none => simp [unfold, unfoldWithin_undeclared hn] at hg
        | some body =>
            -- The items below stand in the declaration of the rule.
            rw [unfold_ruleRef hcycle hn, unfoldAll, List.mem_flatMap] at hg
            obtain ⟨i, hi', hg⟩ := hg
            exact ih i ⟨n, body, rfl, hn, hi'⟩ (rule_mem_of_get? hn) hi' g hg

theorem hasGroup_of_compileRule (hcycle : ruleCycle? ds = none) {s : StateDecl} (hs : .state s ∈ ds) :
    ∀ e ∈ ((ofDeclarations ds).compileRule s.rule).entries.flatMap Prod.snd,
      ∃ g, HasGroup ds g ∧ e.vertices = g.map Text.ofString := by
  intro e he
  rw [flatMap_compileRule, unfoldAll_ruleParts hcycle] at he
  obtain ⟨g, hg, rfl⟩ := List.mem_map.mp he
  obtain ⟨item, hi, hg⟩ := List.mem_flatMap.mp hg
  exact ⟨g, hasGroup_of_unfold hcycle hs hi g hg, Hyperedge.vertices_ofGroup g⟩

/-! ## Hypergraphs -/

/-- What the program makes of a source when at most `depth` states are entered. -/
structure Grown (ds : List Declaration) (depth : Nat) (h : Hypergraph) : Prop where
  depth : h.layers.length ≤ depth
  layers : ∀ l ∈ h.layers, ∃ s : StateDecl, .state s ∈ ds ∧ l = ⟨∅, s.count.map Int.ofNat, true⟩
  ground : ∀ e ∈ h.ground, ∃ g, HasGroup ds g ∧ e.vertices = g.map Text.ofString

theorem Grown.edges {gs : List Group} (h : ∀ g ∈ gs, HasGroup ds g) (depth : Nat) :
    Grown ds depth (.edges (edgesOf gs)) where
  depth := Nat.zero_le depth
  layers l hl := by cases hl
  ground e he := by
    obtain ⟨g, hg, rfl⟩ := List.mem_map.mp he
    exact ⟨g, h g hg, Hyperedge.vertices_ofGroup g⟩

theorem Grown.evolved {depth : Nat} {h : Hypergraph} (hh : Grown ds depth h) {s : StateDecl} (hs : .state s ∈ ds) :
    Grown ds (depth + 1) (.evolved h ⟨∅, s.count.map Int.ofNat, true⟩) where
  depth := Nat.succ_le_succ hh.depth
  layers l hl := by
    rcases List.mem_cons.mp hl with rfl | hl
    · exact ⟨s, hs, rfl⟩
    · exact hh.layers l hl
  ground := hh.ground

/-- Each state that is entered spends one of the depth and adds one level. -/
theorem grown_hypergraphWithin {depth : Nat} {s : StateDecl} (hs : .state s ∈ ds) {h : Hypergraph}
    (hh : (ofDeclarations ds).hypergraphWithin depth s.source = some h) : Grown ds depth h := by
  induction depth using Nat.strong_induction_on generalizing s h with
  | _ depth ih =>
    cases hsource : s.source with
    | groups gs =>
        rw [hsource, hypergraphWithin_groups] at hh
        cases hh
        exact .edges (fun g hg => .literal hs hsource hg) depth
    | name n =>
        rw [hsource] at hh
        cases ha : (ofDeclarations ds).arrays.get? n with
        | some gs =>
            rw [hypergraphWithin_array ha] at hh
            cases hh
            exact .edges (hasGroup_of_get? ha) depth
        | none =>
            cases hn : (ofDeclarations ds).state? n with
            | none =>
                rw [hypergraphWithin_undeclared ha hn] at hh
                cases hh
                have hnone : ∀ g ∈ ([] : List Group), HasGroup ds g := fun g hg => absurd hg List.not_mem_nil
                exact .edges hnone depth
            | some s' =>
                cases depth with
                | zero =>
                    rw [hypergraphWithin_zero ha hn] at hh
                    cases hh
                | succ depth =>
                    rw [hypergraphWithin_succ ha hn, Option.map_eq_some_iff] at hh
                    obtain ⟨base, hbase, rfl⟩ := hh
                    have hs' := (state_mem_of_state? hn).2
                    exact (ih depth depth.lt_succ_self hs' hbase).evolved hs'

/-- The states that the lookups know are as many as there are names of states. -/
theorem size_stateIndex (ds : List Declaration) :
    (ofDeclarations ds).stateIndex.size = (declaredNames .state ds).dedup.length := by
  rw [stateIndex_ofDeclarations, Table.size_ofList, writes_state.declaredNames_eq]

/-! ## Artifacts -/

theorem wireShaped_compileState (hds : Acyclic ds) {s : StateDecl} (hs : .state s ∈ ds) :
    WireShaped ds ((ofDeclarations ds).compileState s) := by
  have hgrown : Grown ds _ ((ofDeclarations ds).compileSource s.source) :=
    grown_hypergraphWithin hs (hypergraphWithin_size hds.states s.source)
  constructor
  case roles => exact keys_compileRule _ s.rule
  case nested =>
    intro l hl
    obtain ⟨s', -, rfl⟩ := hgrown.layers l hl
    rfl
  case clean =>
    intro l hl
    rcases List.mem_cons.mp hl with rfl | hl
    · rfl
    · obtain ⟨s', -, rfl⟩ := hgrown.layers l hl
      rfl
  case steps =>
    intro l hl n hn
    rcases List.mem_cons.mp hl with rfl | hl
    · exact steps_nonneg hn
    · obtain ⟨s', -, rfl⟩ := hgrown.layers l hl
      exact steps_nonneg hn
  case depth => exact size_stateIndex ds ▸ hgrown.depth
  case hyperedges =>
    intro e he
    rcases List.mem_append.mp he with he | he
    · obtain ⟨l, hl, he⟩ := List.mem_flatMap.mp he
      rcases List.mem_cons.mp hl with rfl | hl
      · exact hasGroup_of_compileRule hds.rules hs e he
      · -- The levels below have no roles.
        obtain ⟨s', -, rfl⟩ := hgrown.layers l hl
        cases he
    · exact hgrown.ground e he

/-- Every state that is compiled from an accepted text has an artifact of this shape, for the declarations
that the text stands for. -/
theorem compileText_wireShaped {text : Text} {report : CompileReport} (h : compileText treeParser text = .ok report) :
    ∃ ds, parseDeclarations text = .ok ds ∧
      ∀ compiled ∈ report.compilation.states, WireShaped ds compiled.artifact := by
  obtain ⟨ds, hds, hc⟩ := compileProgram_of_compileText h
  refine ⟨ds, treeParser_eq_ok_iff.mp hds, fun compiled hmem => ?_⟩
  rw [states_of_ok hc] at hmem
  obtain ⟨s, hs, rfl⟩ := List.mem_map.mp hmem
  exact wireShaped_compileState (acyclic_of_ok hc) (mem_stateDecls.mp hs)

/-- Three states on top of each other, the lowest of them superseded, a rule that leads to another one and
an array that is declared again. -/
def stackedProgram : List Declaration :=
  [.array "v" [["x"]],
    .rule "p" (.sequence [.arrayRef "v", .inline []]),
    .rule "r" (.triple (.ruleRef "p") (.inline ["a", "b"]) (.arrayRef "v")),
    .state ⟨"s", .groups [["c"]], .item (.ruleRef "p"), some 1⟩,
    .state ⟨"s", .name "v", .item (.ruleRef "r"), some 2⟩,
    .state ⟨"u", .name "s", .items [.arrayRef "v", .inline ["d"]], none⟩,
    .state ⟨"w", .name "u", .body (.triple (.inline ["e"]) (.inline []) (.arrayRef "v")), some 0⟩,
    .array "v" [["y", "z"], ["y"]]]

def stackedText : Text := .ofChars (programTree stackedProgram).write

theorem compileText_wireShaped_stackedText :
    ∃ report, compileText treeParser stackedText = .ok report ∧
      report.compilation.stateNames = ["s", "s", "u", "w"] ∧
      ∃ ds, parseDeclarations stackedText = .ok ds ∧
        ∀ compiled ∈ report.compilation.states, WireShaped ds compiled.artifact := by
  have hparse : parseDeclarations stackedText = .ok stackedProgram := by decide +kernel
  have hok : compileText treeParser stackedText =
      .ok ⟨⟨(stateDecls stackedProgram).map (ofDeclarations stackedProgram).compiled,
        (check stackedProgram).warnings⟩, 8⟩ := by
    rw [compileText, treeParser, hparse]
    rfl
  exact ⟨_, hok, rfl, compileText_wireShaped hok⟩

end HyperEvolve
