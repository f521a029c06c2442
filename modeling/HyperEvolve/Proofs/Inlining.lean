import HyperEvolve.Proofs.Footprint
import HyperEvolve.Proofs.Nesting
import HyperEvolve.Proofs.Roles

/-!
# Inlining a reference to a rule

A reference in a sequence may be replaced by the items of the rule that it names. The new sequence unfolds
to the same groups, and no item needs more depth than before, so the program stays without cycles and is
accepted. Every state keeps its hypergraph and its steps; the number of parts of a rule may change, so its
hyperedges stay in order but may be split into other roles.
-/

namespace HyperEvolve

open Declaration Symbols

/-- The last rule declared under a name has this body. -/
def LastRule (ds : List Declaration) (n : String) (body : RuleBody) : Prop :=
  ∃ before after, ds = before ++ .rule n body :: after ∧ n ∉ declaredNames .rule after

theorem lastRule_of_get? {ds : List Declaration} {n : String} {body : RuleBody}
    (h : (ofDeclarations ds).rules.get? n = some body) : LastRule ds n body := by
  rw [get?_rules] at h
  obtain ⟨before, d, after, rfl, hd, hafter⟩ := last_of_lastWritten writes_rule h
  cases d with
  | rule m body' => cases hd; exact ⟨before, after, rfl, hafter⟩
  | _ => cases hd

/-- A place among the items of a rule that a program declares as a sequence. -/
structure Occurrence where
  before : List Declaration
  rule : String
  front : List Item
  back : List Item
  after : List Declaration

/-- The items of a rule need no more depth than a reference to it. -/
theorem Symbols.exists_unfoldWithin_of_mem {t : Symbols} {n : String} {body : RuleBody}
    (hn : t.rules.get? n = some body) {depth : Nat} {gs : List Group}
    (h : t.unfoldWithin depth (.ruleRef n) = some gs) {item : Item} (hi : item ∈ body.items) :
    ∃ gs', t.unfoldWithin depth item = some gs' := by
  cases depth with
  | zero => rw [unfoldWithin_zero hn] at h; cases h
  | succ depth =>
      rw [unfoldWithin_succ hn, Option.map_eq_some_iff] at h
      obtain ⟨gss, hgss, -⟩ := h
      obtain ⟨gs', hgs'⟩ := exists_of_mapM hgss item hi
      exact ⟨gs', unfoldWithin_mono (Nat.le_succ depth) hgs'⟩

namespace Occurrence

/-- The rule with the given items at the place. -/
def body (o : Occurrence) (items : List Item) : RuleBody := .sequence (o.front ++ items ++ o.back)

/-- The program with the given items at the place. -/
def fill (o : Occurrence) (items : List Item) : List Declaration :=
  o.before ++ .rule o.rule (o.body items) :: o.after

variable (o : Occurrence) (items items' : List Item)

/-! ## What the items at the place decide -/

theorem declaredNames_fill (kind : Kind) :
    declaredNames kind (o.fill items') = declaredNames kind (o.fill items) := by
  cases kind <;> simp [declaredNames, fill, Declaration.kind, Declaration.name]

theorem arrays_fill : (ofDeclarations (o.fill items')).arrays = (ofDeclarations (o.fill items)).arrays := by
  simp only [arrays_ofDeclarations, fill, List.filterMap_append, List.filterMap_cons, arrayPair?]

theorem stateIndex_fill :
    (ofDeclarations (o.fill items')).stateIndex = (ofDeclarations (o.fill items)).stateIndex := by
  simp only [stateIndex_ofDeclarations, fill, List.filterMap_append, List.filterMap_cons, statePair?]

theorem stateDecls_fill : stateDecls (o.fill items') = stateDecls (o.fill items) := by
  simp only [stateDecls, fill, List.filterMap_append, List.filterMap_cons]

theorem stateCycle?_fill : stateCycle? (o.fill items') = stateCycle? (o.fill items) := by
  rw [stateCycle?, stateCycle?, stateReferences_eq, stateReferences_eq, o.stateIndex_fill items items',
    o.declaredNames_fill items items']

/-- Only the rule of the place may change, and it does unless it is superseded. -/
theorem get?_rules_fill (n : String) :
    (ofDeclarations (o.fill items')).rules.get? n = (ofDeclarations (o.fill items)).rules.get? n ∨
      (ofDeclarations (o.fill items)).rules.get? n = some (o.body items) ∧
        (ofDeclarations (o.fill items')).rules.get? n = some (o.body items') := by
  simp only [get?_rules, fill]
  induction o.before with
  | nil =>
      simp only [List.nil_append, writes_rule.lastWritten_cons]
      cases lastWritten rulePair? o.after n with
      | some body => exact .inl rfl
      | none =>
          by_cases hn : o.rule = n
          · exact .inr (by simp [hn, Declaration.kind, Declaration.name, rulePair?])
          · exact .inl (by simp [hn, Declaration.name])
  | cons d ds ih =>
      simp only [List.cons_append, writes_rule.lastWritten_cons]
      obtain he | ⟨he, he'⟩ := ih
      · exact .inl (by rw [he])
      · exact .inr (by rw [he, he']; exact ⟨rfl, rfl⟩)

theorem declaresMore_fill :
    (ofDeclarations (o.fill items)).DeclaresMore (ofDeclarations (o.fill items')) where
  arrays n hn := by rwa [o.arrays_fill items items']
  rules n hn := by rwa [← mem_declaredNames_rule, o.declaredNames_fill items items', mem_declaredNames_rule]
  states n hn := by rwa [o.stateIndex_fill items items']

/-! ## Unfolding -/

/-- An item unfolds as before at every depth, or it names a rule, and the items at the place are all that
may differ in it. -/
theorem unfold_fill_or (item : Item) :
    (∀ d, (ofDeclarations (o.fill items')).unfoldWithin d item = (ofDeclarations (o.fill items)).unfoldWithin d item) ∨
      ∃ n b b', item = .ruleRef n ∧ (ofDeclarations (o.fill items)).rules.get? n = some b ∧
        (ofDeclarations (o.fill items')).rules.get? n = some b' ∧
        (b' = b ∨ b = o.body items ∧ b' = o.body items') := by
  cases item with
  | inline g => exact .inl fun d => by rw [unfoldWithin_inline, unfoldWithin_inline]
  | arrayRef n =>
      exact .inl fun d => by rw [unfoldWithin_arrayRef, unfoldWithin_arrayRef, o.arrays_fill items items']
  | ruleRef n =>
      obtain he | ⟨hn, hn'⟩ := o.get?_rules_fill items items' n
      · cases hn : (ofDeclarations (o.fill items)).rules.get? n with
        | none => exact .inl fun d => by rw [unfoldWithin_undeclared hn, unfoldWithin_undeclared (he.trans hn)]
        | some b => exact .inr ⟨n, b, b, rfl, hn, he.trans hn, .inl rfl⟩
      · exact .inr ⟨n, _, _, rfl, hn, hn', .inr ⟨rfl, rfl⟩⟩

section

variable {o} {q : String} {body : RuleBody} (hcycle : ruleCycle? (o.fill [.ruleRef q]) = none)
  (hq : (ofDeclarations (o.fill [.ruleRef q])).rules.get? q = some body)
include hcycle hq

/-- The sequence with the items of the rule stands for the same groups. -/
theorem unfoldAll_body :
    (ofDeclarations (o.fill [.ruleRef q])).unfoldAll (o.body body.items).items =
      (ofDeclarations (o.fill [.ruleRef q])).unfoldAll (o.body [.ruleRef q]).items := by
  have hitems := unfold_ruleRef hcycle hq
  simp only [Occurrence.body, RuleBody.items, unfoldAll, List.flatMap_append, List.flatMap_singleton] at hitems ⊢
  rw [hitems]

/-- An item needs no more depth than before: the items of the rule were reached through the reference. -/
theorem unfoldWithin_inlined {depth : Nat} {item : Item} {gs : List Group}
    (h : (ofDeclarations (o.fill [.ruleRef q])).unfoldWithin depth item = some gs) :
    (ofDeclarations (o.fill body.items)).unfoldWithin depth item =
      some ((ofDeclarations (o.fill [.ruleRef q])).unfold item) := by
  have hgs := unfold_eq_of_unfoldWithin hcycle h
  induction depth generalizing item gs with
  | zero =>
      obtain hsame | ⟨n, b, b', rfl, hb, -⟩ := o.unfold_fill_or [.ruleRef q] body.items item
      · rw [hsame, h, hgs]
      · rw [unfoldWithin_zero hb] at h
        cases h
  | succ depth ih =>
      obtain hsame | ⟨n, b, b', rfl, hb, hb', hbody⟩ := o.unfold_fill_or [.ruleRef q] body.items item
      · rw [hsame, h, hgs]
      · rw [unfoldWithin_succ hb, Option.map_eq_some_iff] at h
        obtain ⟨gss, hgss, -⟩ := h
        have hold : ∀ i ∈ b.items, ∃ gs, (ofDeclarations (o.fill [.ruleRef q])).unfoldWithin depth i = some gs :=
          exists_of_mapM hgss
        have hnew : ∀ i ∈ b'.items, (ofDeclarations (o.fill body.items)).unfoldWithin depth i =
            some ((ofDeclarations (o.fill [.ruleRef q])).unfold i) := by
          intro i hi
          obtain ⟨gs', hi⟩ : ∃ gs, (ofDeclarations (o.fill [.ruleRef q])).unfoldWithin depth i = some gs := by
            obtain rfl | ⟨rfl, rfl⟩ := hbody
            · exact hold i hi
            · simp only [Occurrence.body, RuleBody.items, List.mem_append] at hi hold
              obtain (hfront | hinner) | hback := hi
              · exact hold i (.inl (.inl hfront))
              · -- The depth that the reference spends is left over.
                obtain ⟨gs', hgs'⟩ := hold (.ruleRef q) (.inl (.inr List.mem_cons_self))
                exact exists_unfoldWithin_of_mem hq hgs' hinner
              · exact hold i (.inr hback)
          exact ih hi (unfold_eq_of_unfoldWithin hcycle hi)
        have hall : (ofDeclarations (o.fill [.ruleRef q])).unfoldAll b'.items =
            (ofDeclarations (o.fill [.ruleRef q])).unfold (.ruleRef n) := by
          rw [unfold_ruleRef hcycle hb]
          obtain rfl | ⟨rfl, rfl⟩ := hbody
          · rfl
          · exact unfoldAll_body hcycle hq
        rw [unfoldWithin_succ hb', mapM_eq_pure_map hnew, ← hall, unfoldAll, List.flatMap_def]
        rfl

/-- Every chain of references still ends. -/
theorem ruleCycle?_inlined : ruleCycle? (o.fill body.items) = none := by
  refine ruleCycle?_eq_none_iff_ends.mpr fun item => ?_
  exact ⟨_, _, unfoldWithin_inlined hcycle hq (unfoldWithin_size hcycle item)⟩

theorem unfold_inlined (item : Item) :
    (ofDeclarations (o.fill body.items)).unfold item = (ofDeclarations (o.fill [.ruleRef q])).unfold item :=
  unfold_eq_of_unfoldWithin (ruleCycle?_inlined hcycle hq)
    (unfoldWithin_inlined hcycle hq (unfoldWithin_size hcycle item))

end

/-! ## Compiled states -/

/-- Sources are compiled without a look at the rules. -/
theorem hypergraphWithin_fill (depth : Nat) :
    (ofDeclarations (o.fill items')).hypergraphWithin depth =
      (ofDeclarations (o.fill items)).hypergraphWithin depth := by
  induction depth with
  | zero =>
      funext source
      cases source <;>
        simp only [hypergraphWithin, state?, o.arrays_fill items items', o.stateIndex_fill items items']
  | succ depth ih =>
      funext source
      cases source <;>
        simp only [hypergraphWithin, state?, o.arrays_fill items items', o.stateIndex_fill items items', ih]

theorem compileSource_fill :
    (ofDeclarations (o.fill items')).compileSource = (ofDeclarations (o.fill items)).compileSource := by
  funext source
  rw [compileSource, compileSource, hypergraphWithin_fill, o.stateIndex_fill items items']

theorem declarationResolves_inlined {q : String} {body : RuleBody}
    (hq : (ofDeclarations (o.fill [.ruleRef q])).rules.get? q = some body)
    (h : ∀ d ∈ o.fill [.ruleRef q], (ofDeclarations (o.fill [.ruleRef q])).DeclarationResolves d) :
    ∀ d ∈ o.fill body.items, (ofDeclarations (o.fill body.items)).DeclarationResolves d := by
  intro d hd
  refine (o.declaresMore_fill [.ruleRef q] body.items).declarationResolves ?_
  simp only [fill, List.mem_append, List.mem_cons] at hd
  obtain hbefore | rfl | hafter := hd
  · exact h d (List.mem_append_left _ hbefore)
  · -- An item of the new sequence stands in the old one or in the rule that is inlined.
    have hsequence := h (.rule o.rule (o.body [.ruleRef q])) (List.mem_append_right _ List.mem_cons_self)
    have hrule := h (.rule q body) (rule_mem_of_get? hq)
    intro i hi
    simp only [DeclarationResolves, Occurrence.body, RuleBody.items, List.mem_append] at hsequence hi
    obtain (hfront | hinner) | hback := hi
    · exact hsequence i (.inl (.inl hfront))
    · exact hrule i hinner
    · exact hsequence i (.inr hback)
  · exact h d (List.mem_append_right _ (List.mem_cons_of_mem _ hafter))

end Occurrence

/-- Two compiled states that differ at most in the roles of their rules. -/
structure CompiledState.SameButRoles (s s' : CompiledState) : Prop where
  name : s'.name = s.name
  hypergraph : s'.artifact.hypergraph = s.artifact.hypergraph
  steps : s'.artifact.steps = s.artifact.steps
  clean : s'.artifact.clean = s.artifact.clean
  edges : s'.artifact.rule.entries.flatMap Prod.snd = s.artifact.rule.entries.flatMap Prod.snd

/-- In an accepted program a reference in a sequence may be replaced by the items of the last rule of its
name: the program stays accepted, every item unfolds to the same groups, and every compiled state keeps all
but the roles of its rule, whose hyperedges stay in order. -/
theorem compileProgram_inlined (o : Occurrence) {q : String} {c : Compilation}
    (h : compileProgram (o.fill [.ruleRef q]) = .ok c) :
    ∃ body, LastRule (o.fill [.ruleRef q]) q body ∧
      (∀ item, (ofDeclarations (o.fill body.items)).unfold item =
        (ofDeclarations (o.fill [.ruleRef q])).unfold item) ∧
      ∃ c', compileProgram (o.fill body.items) = .ok c' ∧
        List.Forall₂ CompiledState.SameButRoles c.states c'.states := by
  obtain ⟨hres, hstates, hrules, hcounts, -⟩ := compileProgram_eq_ok_iff.mp h
  -- The reference resolves, so there is a rule to inline.
  have hsite : (ofDeclarations (o.fill [.ruleRef q])).DeclarationResolves (.rule o.rule (o.body [.ruleRef q])) :=
    hres _ (List.mem_append_right _ List.mem_cons_self)
  have hkey : q ∈ (ofDeclarations (o.fill [.ruleRef q])).rules.keys :=
    hsite (.ruleRef q) (by simp [Occurrence.body, RuleBody.items])
  obtain ⟨body, hq⟩ := Option.isSome_iff_exists.mp (Table.isSome_get?_iff.mpr hkey)
  have hrules' := Occurrence.ruleCycle?_inlined hrules hq
  have hunfold := Occurrence.unfold_inlined hrules hq
  obtain ⟨c', hc'⟩ : ∃ c', compileProgram (o.fill body.items) = .ok c' := by
    refine exists_compileProgram_eq_ok_iff.mpr ⟨o.declarationResolves_inlined hq hres, ⟨hrules', ?_⟩, ?_⟩
    · rw [o.stateCycle?_fill [.ruleRef q] body.items, hstates]
    · refine hcounts.of_subset fun s hs => ?_
      rwa [← mem_stateDecls, ← o.stateDecls_fill [.ruleRef q] body.items, mem_stateDecls]
  refine ⟨body, lastRule_of_get? hq, hunfold, c', hc', ?_⟩
  have hedges : ∀ rule, ((ofDeclarations (o.fill body.items)).compileRule rule).entries.flatMap Prod.snd =
      ((ofDeclarations (o.fill [.ruleRef q])).compileRule rule).entries.flatMap Prod.snd := by
    intro rule
    rw [flatMap_compileRule, flatMap_compileRule, unfoldAll_ruleParts hrules', unfoldAll_ruleParts hrules,
      unfoldAll, unfoldAll, funext hunfold]
  rw [states_of_ok h, states_of_ok hc',
    o.stateDecls_fill [.ruleRef q] body.items, List.forall₂_map_left_iff, List.forall₂_map_right_iff,
    List.forall₂_same]
  intro s _
  exact ⟨rfl, congrFun (o.compileSource_fill [.ruleRef q] body.items) s.source, rfl, rfl, hedges s.rule⟩

/-- The place stands between two references to rules. The rule `q` that it names is declared twice and is
referred to beside the place and in another rule as well. -/
def sharedOccurrence : Occurrence where
  before := [.array "v" [["x"], []], .rule "q" (.sequence [.ruleRef "r"]),
    .rule "q" (.sequence [.ruleRef "r", .inline ["a"]]), .rule "r" (.sequence [.arrayRef "v"])]
  rule := "p"
  front := [.ruleRef "r"]
  back := [.ruleRef "q"]
  after := [.rule "s" (.triple (.ruleRef "p") (.inline ["b"]) (.ruleRef "q")),
    .state ⟨"s", .groups [["c"]], .item (.ruleRef "p"), some 2⟩,
    .state ⟨"u", .name "s", .body (.triple (.ruleRef "s") (.inline []) (.ruleRef "p")), none⟩]

theorem compileProgram_inlined_sharedOccurrence :
    ∃ c, compileProgram (sharedOccurrence.fill [.ruleRef "q"]) = .ok c ∧
      ∃ body, LastRule (sharedOccurrence.fill [.ruleRef "q"]) "q" body ∧
        (∀ item, (ofDeclarations (sharedOccurrence.fill body.items)).unfold item =
          (ofDeclarations (sharedOccurrence.fill [.ruleRef "q"])).unfold item) ∧
        ∃ c', compileProgram (sharedOccurrence.fill body.items) = .ok c' ∧
          List.Forall₂ CompiledState.SameButRoles c.states c'.states :=
  ⟨_, rfl, compileProgram_inlined sharedOccurrence rfl⟩

end HyperEvolve
