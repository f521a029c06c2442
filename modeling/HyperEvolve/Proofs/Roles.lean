import HyperEvolve.Proofs.Acceptance

/-!
# The roles of a compiled rule

Replacing a reference to a rule by the items of that rule keeps the groups of an item, so the hyperedges
of a compiled rule are always those of its parts in order. The roles follow the number of items that are
left: a triple keeps its left, interface and right exactly as each of them stands for one item.
-/

namespace HyperEvolve

namespace Symbols

variable {t : Symbols}

/-! ## Expanding keeps the groups -/

theorem unfold_ruleRef {ds : List Declaration} (hcycle : ruleCycle? ds = none) {n : String} {body : RuleBody}
    (hn : (ofDeclarations ds).rules.get? n = some body) :
    (ofDeclarations ds).unfold (.ruleRef n) = (ofDeclarations ds).unfoldAll body.items := by
  have hitems : body.items.mapM ((ofDeclarations ds).unfoldWithin (ofDeclarations ds).rules.size) =
      some (body.items.map (ofDeclarations ds).unfold) :=
    mapM_eq_pure_map fun i _ => unfoldWithin_size hcycle i
  have hwithin : (ofDeclarations ds).unfoldWithin ((ofDeclarations ds).rules.size + 1) (.ruleRef n) =
      some ((ofDeclarations ds).unfoldAll body.items) := by
    rw [unfoldWithin_succ hn, hitems, Option.map_some, unfoldAll, List.flatMap_def]
  exact unfold_eq_of_unfoldWithin hcycle hwithin

theorem unfoldAll_expand {ds : List Declaration} (hcycle : ruleCycle? ds = none) (item : Item) :
    (ofDeclarations ds).unfoldAll ((ofDeclarations ds).expand item) = (ofDeclarations ds).unfold item := by
  cases item with
  | inline g => exact List.append_nil _
  | arrayRef n => exact List.append_nil _
  | ruleRef n =>
      cases hn : (ofDeclarations ds).rules.get? n with
      | none => simp only [expand, hn]; exact List.append_nil _
      | some body => simp only [expand, hn]; exact (unfold_ruleRef hcycle hn).symm

theorem unfoldAll_ruleParts {ds : List Declaration} (hcycle : ruleCycle? ds = none) (rule : StateRule) :
    (ofDeclarations ds).unfoldAll ((ofDeclarations ds).ruleParts rule) =
      (ofDeclarations ds).unfoldAll rule.parts := by
  rw [ruleParts, unfoldAll, List.flatMap_assoc]
  exact List.flatMap_congr fun item _ => unfoldAll_expand hcycle item

/-! ## Roles by the number of parts -/

def tripleEntries (t : Symbols) (l i r : Item) : List (Text × List Hyperedge) :=
  [(Role.left, edgesOf (t.unfold l)), (Role.interface, edgesOf (t.unfold i)),
    (Role.right, edgesOf (t.unfold r))]

theorem compileRule_three {rule : StateRule} {l i r : Item} (h : t.ruleParts rule = [l, i, r]) :
    (t.compileRule rule).entries = t.tripleEntries l i r := by
  have hroles : [Role.left, Role.interface, Role.right].Nodup := by decide
  rw [compileRule, h]
  exact Table.entries_foldl_insert hroles

theorem compileRule_other {rule : StateRule} (h : (t.ruleParts rule).length ≠ 3) :
    (t.compileRule rule).entries = [(Role.whole, edgesOf (t.unfoldAll (t.ruleParts rule)))] := by
  rw [compileRule]
  split
  · rename_i l i r hp
    rw [hp] at h
    exact absurd rfl h
  · rfl

theorem flatMap_compileRule (rule : StateRule) :
    (t.compileRule rule).entries.flatMap Prod.snd = edgesOf (t.unfoldAll (t.ruleParts rule)) := by
  by_cases h : (t.ruleParts rule).length = 3
  · obtain ⟨l, i, r, hp⟩ := List.length_eq_three.mp h
    rw [compileRule_three hp, hp]
    simp [tripleEntries, unfoldAll, edgesOf]
  · rw [compileRule_other h]
    exact List.append_nil _

/-! ## Triples -/

/-- The item stands for exactly one part: if it names a declared rule, that rule has one item. -/
def IsSingle (t : Symbols) (item : Item) : Prop :=
  ∀ n body, item = .ruleRef n → t.rules.get? n = some body → body.items.length = 1

theorem IsSingle.expand_eq {item : Item} (h : t.IsSingle item) : ∃ i, t.expand item = [i] := by
  cases item with
  | inline g => exact ⟨_, rfl⟩
  | arrayRef n => exact ⟨_, rfl⟩
  | ruleRef n =>
      cases hn : t.rules.get? n with
      | none => exact ⟨.ruleRef n, by simp only [expand, hn]⟩
      | some body =>
          obtain ⟨i, hi⟩ := List.length_eq_one_iff.mp (h n body rfl hn)
          exact ⟨i, by simp only [expand, hn, hi]⟩

/-- What a compiled rule holds that was declared as a triple of these items. -/
structure TripleRoles (t : Symbols) (l i r : Item) (rule : Table Text (List Hyperedge)) : Prop where
  /-- Items that each stand for one part keep their roles. -/
  kept : t.IsSingle l → t.IsSingle i → t.IsSingle r → rule.entries = t.tripleEntries l i r
  /-- Three parts take the roles in order, whichever item they come from. -/
  three : ∀ a b d, t.expand l ++ t.expand i ++ t.expand r = [a, b, d] →
    rule.entries = t.tripleEntries a b d
  /-- Any other number of parts stands under one role. -/
  whole : (t.expand l ++ t.expand i ++ t.expand r).length ≠ 3 →
    rule.entries = [(Role.whole, edgesOf (t.unfold l ++ t.unfold i ++ t.unfold r))]
  /-- No hyperedge is lost or moved before another. -/
  edges : rule.entries.flatMap Prod.snd = edgesOf (t.unfold l ++ t.unfold i ++ t.unfold r)

theorem tripleRoles_compileRule {ds : List Declaration} (hcycle : ruleCycle? ds = none) (l i r : Item) :
    (ofDeclarations ds).TripleRoles l i r ((ofDeclarations ds).compileRule (.body (.triple l i r))) := by
  have hparts : (ofDeclarations ds).ruleParts (.body (.triple l i r)) =
      (ofDeclarations ds).expand l ++ (ofDeclarations ds).expand i ++ (ofDeclarations ds).expand r := by
    simp [ruleParts, StateRule.parts, RuleBody.items]
  have hgroups : (ofDeclarations ds).unfoldAll ((ofDeclarations ds).ruleParts (.body (.triple l i r))) =
      (ofDeclarations ds).unfold l ++ (ofDeclarations ds).unfold i ++ (ofDeclarations ds).unfold r := by
    rw [unfoldAll_ruleParts hcycle]
    simp [unfoldAll, StateRule.parts, RuleBody.items]
  constructor
  case kept =>
    intro hl hi hr
    obtain ⟨a, ha⟩ := hl.expand_eq
    obtain ⟨b, hb⟩ := hi.expand_eq
    obtain ⟨d, hd⟩ := hr.expand_eq
    have hunfold : ∀ {item x : Item}, (ofDeclarations ds).expand item = [x] →
        (ofDeclarations ds).unfold item = (ofDeclarations ds).unfold x := by
      intro item x hx
      rw [← unfoldAll_expand hcycle item, hx]
      exact List.append_nil _
    rw [compileRule_three (by rw [hparts, ha, hb, hd]; rfl), tripleEntries, tripleEntries, hunfold ha,
      hunfold hb, hunfold hd]
  case three =>
    intro a b d h
    exact compileRule_three (hparts.trans h)
  case whole =>
    intro h
    rw [compileRule_other (by rwa [hparts]), hgroups]
  case edges => rw [flatMap_compileRule, hgroups]

end Symbols

/-- A state whose rule is a triple has its rule compiled by the parts that the three items stand for. -/
theorem roles_of_triple {ds : List Declaration} {c : Compilation} (h : compileProgram ds = .ok c) :
    List.Forall₂ (fun s compiled => compiled.name = s.name ∧
      ∀ l i r, s.rule = .body (.triple l i r) →
        (Symbols.ofDeclarations ds).TripleRoles l i r compiled.artifact.rule) (stateDecls ds) c.states := by
  obtain ⟨-, -, hcycle, -⟩ := compileProgram_eq_ok_iff.mp h
  refine forall₂_states h fun s _ => ⟨rfl, fun l i r hrule => ?_⟩
  have hcompiled : ((Symbols.ofDeclarations ds).compileState s).rule =
      (Symbols.ofDeclarations ds).compileRule (.body (.triple l i r)) := by rw [← hrule]; rfl
  rw [hcompiled]
  exact Symbols.tripleRoles_compileRule hcycle l i r

/-- One triple becomes four parts, another has its interface spread over left and interface, and a third
stands as it is. -/
def spreadProgram : List Declaration :=
  [.rule "none" (.sequence []),
    .rule "one" (.sequence [.inline ["a"]]),
    .rule "pair" (.sequence [.inline ["a"], .inline ["b"]]),
    .state ⟨"s", .groups [["x"]], .body (.triple (.ruleRef "pair") (.inline ["c"]) (.inline ["d"])), none⟩,
    .state ⟨"u", .groups [["x"]], .body (.triple (.ruleRef "none") (.ruleRef "pair") (.inline ["d"])), none⟩,
    .state ⟨"w", .groups [["x"]], .body (.triple (.ruleRef "one") (.inline ["c"]) (.inline ["d"])), none⟩]

theorem roles_of_triple_spreadProgram :
    ∃ c, compileProgram spreadProgram = .ok c ∧
      List.Forall₂ (fun s compiled => compiled.name = s.name ∧
          ∀ l i r, s.rule = .body (.triple l i r) →
            (Symbols.ofDeclarations spreadProgram).TripleRoles l i r compiled.artifact.rule)
        (stateDecls spreadProgram) c.states :=
  ⟨_, rfl, roles_of_triple rfl⟩

/-- A triple does not always have its three roles: in an accepted program, one whose left names a rule of
two items is compiled under the single role, and one whose left names a rule without items has the first
group of its interface as its left. -/
theorem exists_triple_without_roles :
    ∃ c, compileProgram spreadProgram = .ok c ∧
      (c.artifact? "s").map (fun a => a.rule.keys) = some [Role.whole] ∧
      (c.artifact? "u").map (fun a => a.rule.get? Role.left) = some (some (edgesOf [["a"]])) ∧
      (Symbols.ofDeclarations spreadProgram).unfold (.ruleRef "none") = [] ∧
      ¬ List.Forall₂ (fun s compiled => ∀ l i r, s.rule = .body (.triple l i r) →
          compiled.artifact.rule.entries = (Symbols.ofDeclarations spreadProgram).tripleEntries l i r)
        (stateDecls spreadProgram) c.states := by
  refine ⟨_, rfl, by decide, by decide, by decide, ?_⟩
  intro h
  cases h with
  | cons hs _ => exact absurd (hs _ _ _ rfl) (by decide)

/-! ## Any rule -/

/-- In a program without a cycle of rules every item has its groups, and compiling a rule loses, repeats and
moves none of them: role by role they are the groups of the rule as it is written. Three parts after one
level of references is replaced stand under left, interface and right; any other number under one role. -/
theorem compileRule_keeps_groups {ds : List Declaration}
    (h : ∀ n, ¬ Relation.TransGen (ruleReferences ds).Refers n n) (rule : StateRule) :
    let t := Symbols.ofDeclarations ds
    (∀ item depth, t.rules.size ≤ depth → t.unfoldWithin depth item = some (t.unfold item)) ∧
    (t.compileRule rule).entries.flatMap Prod.snd = edgesOf (t.unfoldAll rule.parts) ∧
    (∀ l i r, t.ruleParts rule = [l, i, r] → (t.compileRule rule).entries = t.tripleEntries l i r) ∧
    ((t.ruleParts rule).length ≠ 3 → (t.compileRule rule).keys = [Role.whole]) := by
  have hcycle : ruleCycle? ds = none := References.cycle?_eq_none_iff_acyclic.mpr h
  refine ⟨?_, ?_, ?_, ?_⟩
  · intro item depth hd
    exact Symbols.unfoldWithin_mono hd (Symbols.unfoldWithin_size hcycle item)
  · rw [Symbols.flatMap_compileRule, Symbols.unfoldAll_ruleParts hcycle]
  · intro l i r hparts
    exact Symbols.compileRule_three hparts
  · intro hlength
    rw [Table.keys, Symbols.compileRule_other hlength]
    rfl

/-- Of four items, two name rules that hold no single part and one names a rule that is not declared. -/
def scatteredRule : StateRule := .items [.ruleRef "none", .ruleRef "pair", .ruleRef "lost", .ruleRef "none"]

theorem compileRule_keeps_groups_scatteredRule :
    (∀ n, ¬ Relation.TransGen (ruleReferences spreadProgram).Refers n n) ∧
    let t := Symbols.ofDeclarations spreadProgram
    (t.compileRule scatteredRule).entries.flatMap Prod.snd = edgesOf (t.unfoldAll scatteredRule.parts) ∧
    t.ruleParts scatteredRule = [.inline ["a"], .inline ["b"], .ruleRef "lost"] ∧
    (t.compileRule scatteredRule).entries = t.tripleEntries (.inline ["a"]) (.inline ["b"]) (.ruleRef "lost") := by
  have hacyclic : ∀ n, ¬ Relation.TransGen (ruleReferences spreadProgram).Refers n n :=
    References.cycle?_eq_none_iff_acyclic.mp (show ruleCycle? spreadProgram = none by decide)
  obtain ⟨-, hgroups, hthree, -⟩ := compileRule_keeps_groups hacyclic scatteredRule
  exact ⟨hacyclic, hgroups, by decide, hthree _ _ _ (by decide)⟩

end HyperEvolve
