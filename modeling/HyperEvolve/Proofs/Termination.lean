import HyperEvolve.Compile.Program
import HyperEvolve.Proofs.Cycle
import HyperEvolve.Proofs.Stages
import HyperEvolve.Proofs.Symbols

/-!
# The cycle checks and the end of compilation

Unfolding an item and compiling a source follow references, and each ends exactly when its own chain of
references does. The cycle checks look at the same references, so they refuse exactly the programs on
which one of the two would not end. A program that passes needs no more depth than it declares names.
-/

namespace HyperEvolve

namespace Symbols

variable {t : Symbols}

/-! ## Depth -/

/-- Unfolding the item ends: some depth suffices. -/
def UnfoldEnds (t : Symbols) (item : Item) : Prop := ∃ depth gs, t.unfoldWithin depth item = some gs

/-- Compiling the source ends: some depth suffices. -/
def SourceEnds (t : Symbols) (source : Source) : Prop := ∃ depth h, t.hypergraphWithin depth source = some h

/-- Unfolding the second item calls for the first. -/
def ItemCall (t : Symbols) (child parent : Item) : Prop :=
  ∃ n body, parent = .ruleRef n ∧ t.rules.get? n = some body ∧ child ∈ body.items

/-- Compiling the second source calls for the first. -/
def SourceCall (t : Symbols) (child parent : Source) : Prop :=
  ∃ n s, parent = .name n ∧ t.arrays.get? n = none ∧ t.state? n = some s ∧ child = s.source

theorem unfoldWithin_inline (t : Symbols) (depth : Nat) (g : Group) :
    t.unfoldWithin depth (.inline g) = some [g] := by cases depth <;> rfl

theorem unfoldWithin_arrayRef (t : Symbols) (depth : Nat) (n : String) :
    t.unfoldWithin depth (.arrayRef n) = some ((t.arrays.get? n).getD []) := by cases depth <;> rfl

theorem unfoldWithin_undeclared {n : String} (h : t.rules.get? n = none) (depth : Nat) :
    t.unfoldWithin depth (.ruleRef n) = some [] := by cases depth <;> simp [unfoldWithin, h]

theorem unfoldWithin_zero {n : String} {body : RuleBody} (h : t.rules.get? n = some body) :
    t.unfoldWithin 0 (.ruleRef n) = none := by simp [unfoldWithin, h]

theorem unfoldWithin_succ {n : String} {body : RuleBody} (h : t.rules.get? n = some body) (depth : Nat) :
    t.unfoldWithin (depth + 1) (.ruleRef n) =
      (body.items.mapM (t.unfoldWithin depth)).map List.flatten := by simp [unfoldWithin, h]

theorem hypergraphWithin_groups (t : Symbols) (depth : Nat) (gs : List Group) :
    t.hypergraphWithin depth (.groups gs) = some (.edges (edgesOf gs)) := by cases depth <;> rfl

theorem hypergraphWithin_array {n : String} {gs : List Group} (h : t.arrays.get? n = some gs)
    (depth : Nat) : t.hypergraphWithin depth (.name n) = some (.edges (edgesOf gs)) := by
  cases depth <;> simp [hypergraphWithin, h]

theorem hypergraphWithin_undeclared {n : String} (ha : t.arrays.get? n = none) (hs : t.state? n = none)
    (depth : Nat) : t.hypergraphWithin depth (.name n) = some (.edges []) := by
  cases depth <;> simp [hypergraphWithin, ha, hs]

theorem hypergraphWithin_zero {n : String} {s : StateDecl} (ha : t.arrays.get? n = none)
    (hs : t.state? n = some s) : t.hypergraphWithin 0 (.name n) = none := by
  simp [hypergraphWithin, ha, hs]

theorem hypergraphWithin_succ {n : String} {s : StateDecl} (ha : t.arrays.get? n = none)
    (hs : t.state? n = some s) (depth : Nat) :
    t.hypergraphWithin (depth + 1) (.name n) =
      (t.hypergraphWithin depth s.source).map (.evolved · ⟨∅, s.count.map Int.ofNat, true⟩) := by
  simp [hypergraphWithin, ha, hs]

/-- An item calls for nothing and needs no depth, or it refers to a declared rule. -/
theorem unfold_leaf_or (t : Symbols) (item : Item) :
    (∃ gs, (∀ i, ¬ t.ItemCall i item) ∧ ∀ d, t.unfoldWithin d item = some gs) ∨
      ∃ n body, item = .ruleRef n ∧ t.rules.get? n = some body := by
  cases item with
  | inline g =>
      refine Or.inl ⟨[g], ?_, fun d => unfoldWithin_inline t d g⟩
      rintro i ⟨_, _, he, _⟩
      cases he
  | arrayRef n =>
      refine Or.inl ⟨_, ?_, fun d => unfoldWithin_arrayRef t d n⟩
      rintro i ⟨_, _, he, _⟩
      cases he
  | ruleRef n =>
      cases hn : t.rules.get? n with
      | none =>
          refine Or.inl ⟨[], ?_, unfoldWithin_undeclared hn⟩
          rintro i ⟨m, body, he, hb, -⟩
          cases he
          rw [hn] at hb; cases hb
      | some body => exact Or.inr ⟨n, body, rfl, hn⟩

/-- A source calls for nothing and gives hyperedges at any depth, or it names a state that no array shadows. -/
theorem source_leaf_or (t : Symbols) (source : Source) :
    (∃ es, (∀ src, ¬ t.SourceCall src source) ∧ ∀ d, t.hypergraphWithin d source = some (.edges es)) ∨
      ∃ n s, source = .name n ∧ t.arrays.get? n = none ∧ t.state? n = some s := by
  cases source with
  | groups gs =>
      refine Or.inl ⟨_, ?_, fun d => hypergraphWithin_groups t d gs⟩
      rintro i ⟨_, _, he, _⟩
      cases he
  | name n =>
      cases ha : t.arrays.get? n with
      | some gs =>
          refine Or.inl ⟨_, ?_, hypergraphWithin_array ha⟩
          rintro i ⟨m, s, he, hb, -⟩
          cases he
          rw [ha] at hb; cases hb
      | none =>
          cases hs : t.state? n with
          | none =>
              refine Or.inl ⟨_, ?_, hypergraphWithin_undeclared ha hs⟩
              rintro i ⟨m, s, he, -, hb, -⟩
              cases he
              rw [hs] at hb; cases hb
          | some s => exact Or.inr ⟨n, s, rfl, ha, hs⟩

/-- What unfolding within a depth can do: an item that calls for nothing needs no depth, and a declared
rule spends one of it. -/
theorem unfoldWithin_eq_some {depth : Nat} {item : Item} {gs : List Group}
    (h : t.unfoldWithin depth item = some gs) :
    ((∀ i, ¬ t.ItemCall i item) ∧ ∀ d, t.unfoldWithin d item = some gs) ∨
      ∃ n body d gss, item = .ruleRef n ∧ t.rules.get? n = some body ∧ depth = d + 1 ∧
        body.items.mapM (t.unfoldWithin d) = some gss ∧ gss.flatten = gs := by
  obtain ⟨gs', hno, hall⟩ | ⟨n, body, rfl, hn⟩ := t.unfold_leaf_or item
  · refine Or.inl ⟨hno, fun d => ?_⟩
    rw [hall d, ← hall depth, h]
  · cases depth with
    | zero => rw [unfoldWithin_zero hn] at h; cases h
    | succ d =>
        rw [unfoldWithin_succ hn, Option.map_eq_some_iff] at h
        obtain ⟨gss, hm, he⟩ := h
        exact Or.inr ⟨n, body, d, gss, rfl, hn, rfl, hm, he⟩

/-- What compiling a source within a depth can do: a source that calls for nothing needs no depth, and
a state spends one of it. -/
theorem hypergraphWithin_eq_some {depth : Nat} {source : Source} {h : Hypergraph}
    (hh : t.hypergraphWithin depth source = some h) :
    ((∀ src, ¬ t.SourceCall src source) ∧ ∀ d, t.hypergraphWithin d source = some h) ∨
      ∃ n s d base, source = .name n ∧ t.arrays.get? n = none ∧ t.state? n = some s ∧ depth = d + 1 ∧
        t.hypergraphWithin d s.source = some base ∧
        Hypergraph.evolved base ⟨∅, s.count.map Int.ofNat, true⟩ = h := by
  obtain ⟨es, hno, hall⟩ | ⟨n, s, rfl, ha, hs⟩ := t.source_leaf_or source
  · refine Or.inl ⟨hno, fun d => ?_⟩
    rw [hall d, ← hall depth, hh]
  · cases depth with
    | zero => rw [hypergraphWithin_zero ha hs] at hh; cases hh
    | succ d =>
        rw [hypergraphWithin_succ ha hs, Option.map_eq_some_iff] at hh
        obtain ⟨base, hb, he⟩ := hh
        exact Or.inr ⟨n, s, d, base, rfl, ha, hs, rfl, hb, he⟩

/-- More depth keeps the groups of an item. -/
theorem unfoldWithin_mono {depth depth' : Nat} {item : Item} {gs : List Group} (hd : depth ≤ depth')
    (h : t.unfoldWithin depth item = some gs) : t.unfoldWithin depth' item = some gs := by
  induction depth generalizing depth' item gs with
  | zero =>
      obtain ⟨-, hall⟩ | ⟨_, _, _, _, _, _, he, _⟩ := unfoldWithin_eq_some h
      · exact hall depth'
      · cases he
  | succ depth ih =>
      obtain ⟨-, hall⟩ | ⟨n, body, d, gss, rfl, hn, he, hm, hg⟩ := unfoldWithin_eq_some h
      · exact hall depth'
      · cases he
        obtain ⟨d', rfl⟩ : ∃ d', depth' = d' + 1 := ⟨depth' - 1, by omega⟩
        rw [unfoldWithin_succ hn, mapM_mono (fun i _ gs' hi => ih (by omega) hi) hm, Option.map_some, hg]

/-- More depth keeps the hypergraph of a source. -/
theorem hypergraphWithin_mono {depth depth' : Nat} {source : Source} {h : Hypergraph} (hd : depth ≤ depth')
    (hh : t.hypergraphWithin depth source = some h) : t.hypergraphWithin depth' source = some h := by
  induction depth generalizing depth' source h with
  | zero =>
      obtain ⟨-, hall⟩ | ⟨_, _, _, _, _, _, _, he, _⟩ := hypergraphWithin_eq_some hh
      · exact hall depth'
      · cases he
  | succ depth ih =>
      obtain ⟨-, hall⟩ | ⟨n, s, d, base, rfl, ha, hs, he, hb, hg⟩ := hypergraphWithin_eq_some hh
      · exact hall depth'
      · cases he
        obtain ⟨d', rfl⟩ : ∃ d', depth' = d' + 1 := ⟨depth' - 1, by omega⟩
        rw [hypergraphWithin_succ ha hs, ih (by omega) hb, Option.map_some, hg]

/-! ## An end means that the calls are well-founded -/

theorem acc_of_unfoldWithin {depth : Nat} {item : Item} {gs : List Group}
    (h : t.unfoldWithin depth item = some gs) : Acc t.ItemCall item := by
  induction depth generalizing item gs with
  | zero =>
      obtain ⟨hno, -⟩ | ⟨_, _, _, _, _, _, he, _⟩ := unfoldWithin_eq_some h
      · exact .intro item fun i hi => absurd hi (hno i)
      · cases he
  | succ depth ih =>
      obtain ⟨hno, -⟩ | ⟨n, body, d, gss, rfl, hn, he, hm, -⟩ := unfoldWithin_eq_some h
      · exact .intro item fun i hi => absurd hi (hno i)
      · cases he
        refine .intro _ ?_
        rintro i ⟨m, body', hr, hb, hi⟩
        cases hr
        rw [hn] at hb; cases hb
        obtain ⟨gs', hgs⟩ := exists_of_mapM hm i hi
        exact ih hgs

theorem acc_of_hypergraphWithin {depth : Nat} {source : Source} {h : Hypergraph}
    (hh : t.hypergraphWithin depth source = some h) : Acc t.SourceCall source := by
  induction depth generalizing source h with
  | zero =>
      obtain ⟨hno, -⟩ | ⟨_, _, _, _, _, _, _, he, _⟩ := hypergraphWithin_eq_some hh
      · exact .intro source fun src hs => absurd hs (hno src)
      · cases he
  | succ depth ih =>
      obtain ⟨hno, -⟩ | ⟨n, s, d, base, rfl, ha, hs, he, hb, -⟩ := hypergraphWithin_eq_some hh
      · exact .intro source fun src hs => absurd hs (hno src)
      · cases he
        refine .intro _ ?_
        rintro src ⟨m, s', hr, -, hs', rfl⟩
        cases hr
        rw [hs] at hs'; cases hs'
        exact ih hb

/-! ## The checks look at the same calls -/

theorem targets_ruleReferences {ds : List Declaration} {n : String} {body : RuleBody}
    (h : (ofDeclarations ds).rules.get? n = some body) :
    (ruleReferences ds).targets n = ruleTargets body.items := by
  rw [References.targets, ruleReferences_eq, Table.get?_map, h]
  rfl

theorem targets_stateReferences {ds : List Declaration} {n : String} {s : StateDecl}
    (h : (ofDeclarations ds).state? n = some s) :
    (stateReferences ds).targets n = sourceTargets (declaredNames .array ds) s.source := by
  rw [state?] at h
  rw [References.targets, stateReferences_eq, Table.get?_map, h]
  rfl

theorem refers_rule_iff {ds : List Declaration} {n m : String} :
    (ruleReferences ds).Refers n m ↔
      ∃ body, (ofDeclarations ds).rules.get? n = some body ∧ .ruleRef m ∈ body.items := by
  constructor
  · intro h
    have hn := h.mem_keys
    rw [ruleReferences_eq, Table.keys_map, ← Table.isSome_get?_iff, Option.isSome_iff_exists] at hn
    obtain ⟨body, hb⟩ := hn
    rw [References.Refers, targets_ruleReferences hb, mem_ruleTargets] at h
    exact ⟨body, hb, h⟩
  · rintro ⟨body, hb, hm⟩
    rw [References.Refers, targets_ruleReferences hb, mem_ruleTargets]
    exact hm

theorem mem_sourceTargets {arrays : List String} {source : Source} {m : String} :
    m ∈ sourceTargets arrays source ↔ source = .name m ∧ m ∉ arrays := by
  cases source with
  | groups gs => simp [sourceTargets]
  | name n =>
      by_cases hn : n ∈ arrays
      · simp only [sourceTargets, hn, ↓reduceIte, List.not_mem_nil, Source.name.injEq, false_iff, not_and,
          not_not]
        rintro rfl
        exact hn
      · simp only [sourceTargets, hn, ↓reduceIte, List.mem_singleton, Source.name.injEq]
        constructor
        · rintro rfl; exact ⟨rfl, hn⟩
        · rintro ⟨rfl, -⟩; rfl

theorem refers_state_iff {ds : List Declaration} {n m : String} :
    (stateReferences ds).Refers n m ↔
      ∃ s, (ofDeclarations ds).state? n = some s ∧ s.source = .name m ∧
        (ofDeclarations ds).arrays.get? m = none := by
  constructor
  · intro h
    have hn := h.mem_keys
    rw [stateReferences_eq, Table.keys_map, ← Table.isSome_get?_iff, Option.isSome_iff_exists] at hn
    obtain ⟨s, hs⟩ := hn
    rw [References.Refers, targets_stateReferences hs, mem_sourceTargets, mem_declaredNames_array] at h
    exact ⟨s, hs, h.1, Table.get?_eq_none_iff.mpr h.2⟩
  · rintro ⟨s, hs, he, ha⟩
    rw [References.Refers, targets_stateReferences hs, mem_sourceTargets, mem_declaredNames_array]
    exact ⟨he, Table.get?_eq_none_iff.mp ha⟩

/-! ## Grounded references give an end -/

theorem rank_rule_pos {ds : List Declaration} {n : String} {body : RuleBody}
    (h : (ofDeclarations ds).rules.get? n = some body) : 0 < (ruleReferences ds).rank n := by
  apply References.rank_pos
  rw [ruleReferences_eq, Table.keys_map]
  exact Table.mem_keys_of_get? h

theorem rank_state_pos {ds : List Declaration} {n : String} {s : StateDecl}
    (h : (ofDeclarations ds).state? n = some s) : 0 < (stateReferences ds).rank n := by
  apply References.rank_pos
  rw [stateReferences_eq, Table.keys_map]
  exact Table.mem_keys_of_get? h

/-- A rule spends one of the depth, and what it refers to has a smaller rank. -/
theorem exists_unfoldWithin {ds : List Declaration} (hg : ∀ n, (ruleReferences ds).Grounded n) {depth : Nat}
    {item : Item} (hd : ∀ n, item = .ruleRef n → (ruleReferences ds).rank n ≤ depth) :
    ∃ gs, (ofDeclarations ds).unfoldWithin depth item = some gs := by
  induction depth generalizing item with
  | zero =>
      obtain ⟨gs, -, hall⟩ | ⟨n, body, rfl, hn⟩ := (ofDeclarations ds).unfold_leaf_or item
      · exact ⟨gs, hall 0⟩
      · have hr := hd n rfl
        have hpos := rank_rule_pos hn
        omega
  | succ depth ih =>
      obtain ⟨gs, -, hall⟩ | ⟨n, body, rfl, hn⟩ := (ofDeclarations ds).unfold_leaf_or item
      · exact ⟨gs, hall _⟩
      · have hitems : ∀ i ∈ body.items, ∃ gs, (ofDeclarations ds).unfoldWithin depth i = some gs := by
          intro i hi
          refine ih ?_
          rintro m rfl
          have hlt := (refers_rule_iff.mpr ⟨body, hn, hi⟩).rank_lt (hg n)
          have hr := hd n rfl
          omega
        choose! f hf using hitems
        have hm : body.items.mapM ((ofDeclarations ds).unfoldWithin depth) = some (body.items.map f) :=
          mapM_eq_pure_map hf
        exact ⟨_, by rw [unfoldWithin_succ hn, hm, Option.map_some]⟩

/-- A state spends one of the depth, and the state it starts from has a smaller rank. -/
theorem exists_hypergraphWithin {ds : List Declaration} (hg : ∀ n, (stateReferences ds).Grounded n)
    {depth : Nat} {source : Source}
    (hd : ∀ n, source = .name n → (ofDeclarations ds).arrays.get? n = none →
      (stateReferences ds).rank n ≤ depth) :
    ∃ h, (ofDeclarations ds).hypergraphWithin depth source = some h := by
  induction depth generalizing source with
  | zero =>
      obtain ⟨es, -, hall⟩ | ⟨n, s, rfl, ha, hs⟩ := (ofDeclarations ds).source_leaf_or source
      · exact ⟨_, hall 0⟩
      · have hr := hd n rfl ha
        have hpos := rank_state_pos hs
        omega
  | succ depth ih =>
      obtain ⟨es, -, hall⟩ | ⟨n, s, rfl, ha, hs⟩ := (ofDeclarations ds).source_leaf_or source
      · exact ⟨_, hall _⟩
      · obtain ⟨base, hb⟩ : ∃ h, (ofDeclarations ds).hypergraphWithin depth s.source = some h := by
          refine ih ?_
          intro m hm ham
          have hlt := (refers_state_iff.mpr ⟨s, hs, hm, ham⟩).rank_lt (hg n)
          have hr := hd n rfl ha
          omega
        exact ⟨_, by rw [hypergraphWithin_succ ha hs, hb, Option.map_some]⟩

/-- Without a cycle of rules the depth at which items are unfolded suffices. -/
theorem unfoldWithin_size {ds : List Declaration} (h : ruleCycle? ds = none) (item : Item) :
    (ofDeclarations ds).unfoldWithin (ofDeclarations ds).rules.size item =
      some ((ofDeclarations ds).unfold item) := by
  have hsize : (ruleReferences ds).size = (ofDeclarations ds).rules.size := by
    rw [ruleReferences_eq, Table.size_map]
  obtain ⟨gs, hgs⟩ : ∃ gs, (ofDeclarations ds).unfoldWithin (ofDeclarations ds).rules.size item = some gs := by
    refine exists_unfoldWithin (References.cycle?_eq_none_iff.mp h) ?_
    intro n _
    exact hsize ▸ References.rank_le_size _ n
  rw [unfold, hgs, Option.getD_some]

/-- Without a cycle of states the depth at which sources are compiled suffices. -/
theorem hypergraphWithin_size {ds : List Declaration} (h : stateCycle? ds = none) (source : Source) :
    (ofDeclarations ds).hypergraphWithin (ofDeclarations ds).stateIndex.size source =
      some ((ofDeclarations ds).compileSource source) := by
  have hsize : (stateReferences ds).size = (ofDeclarations ds).stateIndex.size := by
    rw [stateReferences_eq, Table.size_map]
  obtain ⟨hg, hh⟩ :
      ∃ h, (ofDeclarations ds).hypergraphWithin (ofDeclarations ds).stateIndex.size source = some h := by
    refine exists_hypergraphWithin (References.cycle?_eq_none_iff.mp h) ?_
    intro n _ _
    exact hsize ▸ References.rank_le_size _ n
  rw [compileSource, hh, Option.getD_some]

/-- Without a cycle of rules every depth at which unfolding ends gives the groups of the item. -/
theorem unfold_eq_of_unfoldWithin {ds : List Declaration} (h : ruleCycle? ds = none) {depth : Nat} {item : Item}
    {gs : List Group} (hgs : (ofDeclarations ds).unfoldWithin depth item = some gs) :
    (ofDeclarations ds).unfold item = gs := by
  have hleft := unfoldWithin_mono (Nat.le_max_left depth (ofDeclarations ds).rules.size) hgs
  have hright := unfoldWithin_mono (Nat.le_max_right depth (ofDeclarations ds).rules.size)
    (unfoldWithin_size h item)
  exact Option.some.inj (hright.symm.trans hleft)

/-- Without a cycle of states every depth at which compiling ends gives the hypergraph of the source. -/
theorem compileSource_eq_of_hypergraphWithin {ds : List Declaration} (h : stateCycle? ds = none) {depth : Nat}
    {source : Source} {g : Hypergraph} (hg : (ofDeclarations ds).hypergraphWithin depth source = some g) :
    (ofDeclarations ds).compileSource source = g := by
  have hleft := hypergraphWithin_mono (Nat.le_max_left depth (ofDeclarations ds).stateIndex.size) hg
  have hright := hypergraphWithin_mono (Nat.le_max_right depth (ofDeclarations ds).stateIndex.size)
    (hypergraphWithin_size h source)
  exact Option.some.inj (hright.symm.trans hleft)

theorem grounded_rule_of_acc {ds : List Declaration} {item : Item} (h : Acc (ofDeclarations ds).ItemCall item)
    {n : String} (hn : item = .ruleRef n) : (ruleReferences ds).Grounded n := by
  induction h generalizing n with
  | intro item _ ih =>
      subst hn
      refine .intro fun m hm => ?_
      obtain ⟨body, hb, hi⟩ := refers_rule_iff.mp hm
      exact ih (.ruleRef m) ⟨n, body, rfl, hb, hi⟩ rfl

theorem grounded_state_of_acc {ds : List Declaration} {source : Source}
    (h : Acc (ofDeclarations ds).SourceCall source) {n : String} (hn : source = .name n)
    (ha : (ofDeclarations ds).arrays.get? n = none) : (stateReferences ds).Grounded n := by
  induction h generalizing n with
  | intro source _ ih =>
      subst hn
      refine .intro fun m hm => ?_
      obtain ⟨s, hs, he, ham⟩ := refers_state_iff.mp hm
      exact ih (.name m) ⟨n, s, rfl, ha, hs, he.symm⟩ rfl ham

theorem ruleCycle?_eq_none_iff_ends {ds : List Declaration} :
    ruleCycle? ds = none ↔ ∀ item, (ofDeclarations ds).UnfoldEnds item := by
  constructor
  · intro h item
    exact ⟨_, _, unfoldWithin_size h item⟩
  · intro h
    refine References.cycle?_eq_none_iff.mpr fun n => ?_
    obtain ⟨depth, gs, hgs⟩ := h (.ruleRef n)
    exact grounded_rule_of_acc (acc_of_unfoldWithin hgs) rfl

theorem ruleCycle?_eq_none_iff_wellFounded {ds : List Declaration} :
    ruleCycle? ds = none ↔ WellFounded (ofDeclarations ds).ItemCall := by
  constructor
  · intro h
    exact ⟨fun item => acc_of_unfoldWithin (unfoldWithin_size h item)⟩
  · intro h
    exact References.cycle?_eq_none_iff.mpr fun n => grounded_rule_of_acc (h.apply (.ruleRef n)) rfl

theorem stateCycle?_eq_none_iff_ends {ds : List Declaration} :
    stateCycle? ds = none ↔ ∀ source, (ofDeclarations ds).SourceEnds source := by
  constructor
  · intro h source
    exact ⟨_, _, hypergraphWithin_size h source⟩
  · intro h
    -- An array may stand over the first name of a chain, but never over one that is referred to.
    refine References.cycle?_eq_none_iff.mpr fun n => .intro fun m hm => ?_
    obtain ⟨s, -, -, ham⟩ := refers_state_iff.mp hm
    obtain ⟨depth, g, hg⟩ := h (.name m)
    exact grounded_state_of_acc (acc_of_hypergraphWithin hg) rfl ham

/-- The stages of compiling a state within a depth. -/
def stagesWithin (t : Symbols) (depth : Nat) : Stages :=
  ⟨fun item => some (t.expand item), t.unfoldWithin depth, t.hypergraphWithin depth⟩

theorem state_stagesWithin {ds : List Declaration} {depth : Nat} (hr : ruleCycle? ds = none)
    (hs : stateCycle? ds = none) (hrules : (ofDeclarations ds).rules.size ≤ depth)
    (hstates : (ofDeclarations ds).stateIndex.size ≤ depth) (s : StateDecl) :
    ((ofDeclarations ds).stagesWithin depth).state s = some ((ofDeclarations ds).compileState s) :=
  Stages.state_eq_some (fun _ _ => rfl)
    (fun i _ => unfoldWithin_mono hrules (unfoldWithin_size hr i))
    (hypergraphWithin_mono hstates (hypergraphWithin_size hs s.source))

end Symbols

theorem cycleErrors_eq_nil_iff {ds : List Declaration} :
    cycleErrors ds = [] ↔ stateCycle? ds = none ∧ ruleCycle? ds = none := by
  rw [cycleErrors, List.append_eq_nil_iff, Option.toList_eq_nil_iff, Option.toList_eq_nil_iff,
    Option.map_eq_none_iff, Option.map_eq_none_iff]

end HyperEvolve
