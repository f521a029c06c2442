import HyperEvolve.Proofs.Resolution
import HyperEvolve.Proofs.Termination

/-!
# Accepted programs resolve every name

An undeclared name stands for nothing when an item is unfolded or a source is compiled. The strict
stages fail there instead. In a program whose references all resolve, what a reference leads to
resolves again, at any depth, so the strict stages give the same artifacts.
-/

namespace HyperEvolve

namespace Symbols

/-! ## Strict stages -/

/-- The groups of an item when every name on the way down is declared and at most `depth` rules are
entered. -/
def strictUnfoldWithin (t : Symbols) : Nat → Item → Option (List Group)
  | _, .inline g => some [g]
  | _, .arrayRef n => t.arrays.get? n
  | depth, .ruleRef n =>
    match t.rules.get? n with
    | none => none
    | some body =>
      match depth with
      | 0 => none
      | depth + 1 => (body.items.mapM (t.strictUnfoldWithin depth)).map List.flatten

/-- Replaces a reference to a rule, which must be declared, by the items of that rule. -/
def strictExpand (t : Symbols) : Item → Option (List Item)
  | .ruleRef n => (t.rules.get? n).map RuleBody.items
  | item => some [item]

/-- The hypergraph of a source when every name on the way down is declared and at most `depth` states
are entered. -/
def strictHypergraphWithin (t : Symbols) : Nat → Source → Option Hypergraph
  | _, .groups gs => some (.edges (edgesOf gs))
  | depth, .name n =>
    match t.arrays.get? n, t.state? n with
    | some gs, _ => some (.edges (edgesOf gs))
    | none, none => none
    | none, some s =>
      match depth with
      | 0 => none
      | depth + 1 =>
        (t.strictHypergraphWithin depth s.source).map
          (.evolved · ⟨∅, s.count.map Int.ofNat, true⟩)

def strictStages (t : Symbols) : Stages :=
  ⟨t.strictExpand, t.strictUnfoldWithin t.rules.size, t.strictHypergraphWithin t.stateIndex.size⟩

/-- The artifact of a state, none when a name on the way is not declared. -/
def strictState (t : Symbols) (s : StateDecl) : Option Artifact := t.strictStages.state s

/-! ## What a lookup leads to -/

variable {t : Symbols}

/-- Whatever a lookup leads to resolves. -/
structure Closed (t : Symbols) : Prop where
  rule : ∀ n body, t.rules.get? n = some body → ∀ i ∈ body.items, t.Resolves i
  state : ∀ n s, t.state? n = some s → t.SourceResolves s.source

theorem closed_ofDeclarations {ds : List Declaration}
    (h : ∀ d ∈ ds, (ofDeclarations ds).DeclarationResolves d) : (ofDeclarations ds).Closed where
  rule _ _ hb := h _ (rule_mem_of_get? hb)
  state _ _ hs := (h _ (state_mem_of_state? hs).2).2

/-! ## The strict stages agree -/

/-- An item that needs no depth and resolves is a group of its own or names a declared array. -/
theorem strictUnfoldWithin_leaf {item : Item} {gs : List Group} (hi : t.Resolves item)
    (hall : ∀ d, t.unfoldWithin d item = some gs) (depth : Nat) :
    t.strictUnfoldWithin depth item = some gs := by
  have h₀ := hall 0
  cases item with
  | inline g => cases depth <;> exact h₀
  | arrayRef n =>
      obtain ⟨gs', hgs⟩ := Option.isSome_iff_exists.mp (Table.isSome_get?_iff.mpr hi)
      rw [unfoldWithin_arrayRef, hgs, Option.getD_some] at h₀
      cases depth <;> exact hgs.trans h₀
  | ruleRef n =>
      obtain ⟨body, hb⟩ := Option.isSome_iff_exists.mp (Table.isSome_get?_iff.mpr hi)
      rw [unfoldWithin_zero hb] at h₀
      cases h₀

theorem strictUnfoldWithin_eq_some (hc : t.Closed) {depth : Nat} {item : Item} {gs : List Group}
    (hi : t.Resolves item) (h : t.unfoldWithin depth item = some gs) :
    t.strictUnfoldWithin depth item = some gs := by
  induction depth generalizing item gs with
  | zero =>
      obtain ⟨-, hall⟩ | ⟨_, _, _, _, _, _, he, _⟩ := unfoldWithin_eq_some h
      · exact strictUnfoldWithin_leaf hi hall 0
      · cases he
  | succ depth ih =>
      obtain ⟨-, hall⟩ | ⟨n, body, d, gss, rfl, hn, he, hm, hg⟩ := unfoldWithin_eq_some h
      · exact strictUnfoldWithin_leaf hi hall _
      · cases he
        -- The items of a declared rule resolve in turn, which carries the induction down.
        have hm' := mapM_mono (fun i hi _ h => ih (hc.rule n body hn i hi) h) hm
        simp only [strictUnfoldWithin, hn, hm', Option.map_some, hg]

/-- A source that needs no depth and resolves holds groups or names a declared array. -/
theorem strictHypergraphWithin_leaf {source : Source} {h : Hypergraph} (hr : t.SourceResolves source)
    (hall : ∀ d, t.hypergraphWithin d source = some h) (depth : Nat) :
    t.strictHypergraphWithin depth source = some h := by
  have h₀ := hall 0
  cases source with
  | groups gs => cases depth <;> exact h₀
  | name n =>
      cases ha : t.arrays.get? n with
      | some gs =>
          rw [hypergraphWithin_array ha] at h₀
          cases depth <;> simpa [strictHypergraphWithin, ha] using h₀
      | none =>
          have hk : n ∈ t.stateIndex.keys := hr.resolve_left (Table.get?_eq_none_iff.mp ha)
          obtain ⟨s, hs⟩ := Option.isSome_iff_exists.mp (Table.isSome_get?_iff.mpr hk)
          rw [hypergraphWithin_zero ha hs] at h₀
          cases h₀

theorem strictHypergraphWithin_eq_some (hc : t.Closed) {depth : Nat} {source : Source} {h : Hypergraph}
    (hr : t.SourceResolves source) (hh : t.hypergraphWithin depth source = some h) :
    t.strictHypergraphWithin depth source = some h := by
  induction depth generalizing source h with
  | zero =>
      obtain ⟨-, hall⟩ | ⟨_, _, _, _, _, _, _, he, _⟩ := hypergraphWithin_eq_some hh
      · exact strictHypergraphWithin_leaf hr hall 0
      · cases he
  | succ depth ih =>
      obtain ⟨-, hall⟩ | ⟨n, s, d, base, rfl, ha, hs, he, hb, hg⟩ := hypergraphWithin_eq_some hh
      · exact strictHypergraphWithin_leaf hr hall _
      · cases he
        simp only [strictHypergraphWithin, ha, hs, ih (hc.state n s hs) hb, Option.map_some, hg]

theorem strictExpand_eq_some {item : Item} (hi : t.Resolves item) :
    t.strictExpand item = some (t.expand item) := by
  cases item with
  | inline g => rfl
  | arrayRef n => rfl
  | ruleRef n =>
      obtain ⟨body, hb⟩ := Option.isSome_iff_exists.mp (Table.isSome_get?_iff.mpr hi)
      simp only [strictExpand, expand, hb, Option.map_some]

/-- Expanding the items of a rule leaves items that resolve. -/
theorem resolves_of_expand (hc : t.Closed) {item i : Item} (hi : t.Resolves item) (h : i ∈ t.expand item) :
    t.Resolves i := by
  cases item with
  | inline g => rw [List.mem_singleton.mp h]; exact hi
  | arrayRef n => rw [List.mem_singleton.mp h]; exact hi
  | ruleRef n =>
      cases hb : t.rules.get? n with
      | none =>
          simp only [expand, hb, List.mem_singleton] at h
          rw [h]; exact hi
      | some body =>
          simp only [expand, hb] at h
          exact hc.rule n body hb i h

/-- In a program whose references resolve and form no cycle, every state compiles strictly, and to the
same artifact. -/
theorem strictState_eq_compileState {ds : List Declaration}
    (hres : unresolvedAmong ds (ofDeclarations ds).states = []) (hcheck : (check ds).errors = [])
    {s : StateDecl} (hs : .state s ∈ ds) :
    (ofDeclarations ds).strictState s = some ((ofDeclarations ds).compileState s) := by
  obtain ⟨hstates, hrules⟩ := cycleErrors_eq_nil_iff.mp hcheck
  have hall := unresolvedAmong_eq_nil_iff.mp hres
  have hc := closed_ofDeclarations hall
  obtain ⟨hparts, hsource⟩ := hall _ hs
  refine Stages.state_eq_some (fun i hi => strictExpand_eq_some (hparts i hi)) ?_ ?_
  · intro i hi
    obtain ⟨item, hitem, hexp⟩ := List.mem_flatMap.mp hi
    exact strictUnfoldWithin_eq_some hc (resolves_of_expand hc (hparts item hitem) hexp)
      (unfoldWithin_size hrules i)
  · exact strictHypergraphWithin_eq_some hc hsource (hypergraphWithin_size hstates s.source)

end Symbols

/-- A program with a chain of states, rules below rules and a state declared twice. -/
def layeredProgram : List Declaration :=
  [.array "v" [["a", "b"]],
    .rule "r" (.sequence [.arrayRef "v", .inline ["c"]]),
    .rule "q" (.triple (.ruleRef "r") (.inline ["d"]) (.arrayRef "v")),
    .state ⟨"s", .groups [["e"]], .item (.ruleRef "r"), none⟩,
    .state ⟨"s", .name "v", .item (.ruleRef "q"), some 2⟩,
    .state ⟨"u", .name "s", .items [.ruleRef "r", .ruleRef "q"], none⟩]

theorem strictState_layeredProgram :
    unresolvedAmong layeredProgram (Symbols.ofDeclarations layeredProgram).states = [] ∧
    (check layeredProgram).errors = [] ∧
    (Symbols.ofDeclarations layeredProgram).strictState
        ⟨"u", .name "s", .items [.ruleRef "r", .ruleRef "q"], none⟩ =
      some ((Symbols.ofDeclarations layeredProgram).compileState
        ⟨"u", .name "s", .items [.ruleRef "r", .ruleRef "q"], none⟩) :=
  ⟨by decide, by decide, Symbols.strictState_eq_compileState (by decide) (by decide) (by decide)⟩

end HyperEvolve
