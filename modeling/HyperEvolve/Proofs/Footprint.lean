import HyperEvolve.Proofs.Acceptance

/-!
# What the artifact of a state depends on

Compiling a state asks the lookups of a program only under the names that its rule and its source lead
to, its footprint. Two programs without cycles that answer these lookups alike give the state the same
artifact, whatever else they declare. That a name is not declared is an answer too: an array put over the
source of a state changes the artifact, and its name is in the footprint.
-/

namespace HyperEvolve

open Declaration Symbols

/-! ## Footprints -/

/-- The lookup that an item asks by itself. -/
def Item.lookup? : Item → Option (Kind × String)
  | .inline _ => none
  | .arrayRef n => some (.array, n)
  | .ruleRef n => some (.rule, n)

/-- The part of a state that a state built on it takes over. -/
def StateDecl.start (s : StateDecl) : Source × Option Nat := (s.source, s.count)

namespace Symbols

/-- The lookups that unfolding an item asks: its own, and below a declared rule those of its items. -/
inductive ItemReads (t : Symbols) : Item → Kind → String → Prop
  | own {item : Item} {kind : Kind} {n : String} : item.lookup? = some (kind, n) → ItemReads t item kind n
  | entered {m : String} {body : RuleBody} {i : Item} {kind : Kind} {n : String} :
      t.rules.get? m = some body → i ∈ body.items → ItemReads t i kind n → ItemReads t (.ruleRef m) kind n

/-- The lookups that compiling a source asks: the array of its name, without one the state of its name,
and below a declared state those of its source. The rule of that state is not looked at. -/
inductive SourceReads (t : Symbols) : Source → Kind → String → Prop
  | array {m : String} : SourceReads t (.name m) .array m
  | state {m : String} : t.arrays.get? m = none → SourceReads t (.name m) .state m
  | entered {m : String} {s : StateDecl} {kind : Kind} {n : String} :
      t.arrays.get? m = none → t.state? m = some s → SourceReads t s.source kind n →
      SourceReads t (.name m) kind n

/-- The lookups that the artifact of a state depends on. -/
def Footprint (t : Symbols) (s : StateDecl) (kind : Kind) (n : String) : Prop :=
  (∃ i ∈ s.rule.parts, t.ItemReads i kind n) ∨ t.SourceReads s.source kind n

/-- Both answer a lookup alike. States may differ in their rules. -/
def Alike (t t' : Symbols) : Kind → String → Prop
  | .array, n => t.arrays.get? n = t'.arrays.get? n
  | .rule, n => t.rules.get? n = t'.rules.get? n
  | .state, n => (t.state? n).map StateDecl.start = (t'.state? n).map StateDecl.start

variable {t t' : Symbols}

/-! ## Depth by depth -/

theorem unfoldWithin_alike (depth : Nat) {item : Item} (h : ∀ kind n, t.ItemReads item kind n → t.Alike t' kind n) :
    t'.unfoldWithin depth item = t.unfoldWithin depth item := by
  refine unfoldWithin_eq_of_related
    (R := fun i i' => i = i' ∧ ∀ kind n, t.ItemReads i kind n → t.Alike t' kind n) ?_ depth ⟨rfl, h⟩
  rintro i _ ⟨rfl, h⟩
  cases i with
  | inline g => exact .inl fun d => by rw [unfoldWithin_inline, unfoldWithin_inline]
  | arrayRef n =>
      have hn : t.arrays.get? n = t'.arrays.get? n := h .array n (.own rfl)
      exact .inl fun d => by rw [unfoldWithin_arrayRef, unfoldWithin_arrayRef, hn]
  | ruleRef n =>
      have hn : t.rules.get? n = t'.rules.get? n := h .rule n (.own rfl)
      cases hb : t.rules.get? n with
      | none => exact .inl fun d => by rw [unfoldWithin_undeclared hb, unfoldWithin_undeclared (hn ▸ hb)]
      | some body =>
          have hitems : ∀ i ∈ body.items, i = i ∧ ∀ kind m, t.ItemReads i kind m → t.Alike t' kind m :=
            fun i hi => ⟨rfl, fun kind m hr => h kind m (.entered hb hi hr)⟩
          exact .inr ⟨n, n, body, body, rfl, rfl, hb, hn ▸ hb, List.forall₂_same.mpr hitems⟩

theorem hypergraphWithin_alike (depth : Nat) {source : Source}
    (h : ∀ kind n, t.SourceReads source kind n → t.Alike t' kind n) :
    t'.hypergraphWithin depth source = t.hypergraphWithin depth source := by
  refine hypergraphWithin_eq_of_related
    (R := fun src src' => src = src' ∧ ∀ kind n, t.SourceReads src kind n → t.Alike t' kind n) ?_ depth ⟨rfl, h⟩
  rintro src _ ⟨rfl, h⟩
  cases src with
  | groups gs => exact .inl fun d => by rw [hypergraphWithin_groups, hypergraphWithin_groups]
  | name n =>
      have ha : t.arrays.get? n = t'.arrays.get? n := h .array n .array
      cases hgs : t.arrays.get? n with
      | some gs => exact .inl fun d => by rw [hypergraphWithin_array hgs, hypergraphWithin_array (ha ▸ hgs)]
      | none =>
          have hs : (t.state? n).map StateDecl.start = (t'.state? n).map StateDecl.start :=
            h .state n (.state hgs)
          cases hst : t.state? n with
          | none =>
              rw [hst, Option.map_none, eq_comm, Option.map_eq_none_iff] at hs
              exact .inl fun d => by rw [hypergraphWithin_undeclared hgs hst, hypergraphWithin_undeclared (ha ▸ hgs) hs]
          | some s =>
              rw [hst, Option.map_some, eq_comm, Option.map_eq_some_iff] at hs
              obtain ⟨s', hs', hstart⟩ := hs
              obtain ⟨hsource, hcount⟩ := Prod.mk.inj hstart
              exact .inr ⟨n, n, s, s', rfl, rfl, hgs, hst, ha ▸ hgs, hs', hcount, hsource.symm,
                fun kind m hr => h kind m (.entered hgs hst hr)⟩

/-! ## Stage by stage -/

theorem expand_alike {item : Item} (h : ∀ kind n, t.ItemReads item kind n → t.Alike t' kind n) :
    t'.expand item = t.expand item := by
  cases item with
  | inline g => rfl
  | arrayRef n => rfl
  | ruleRef n =>
      have hn : t.rules.get? n = t'.rules.get? n := h .rule n (.own rfl)
      simp only [expand, hn]

/-- What an expanded item asks, the item asks. -/
theorem ItemReads.of_expand {item i : Item} {kind : Kind} {n : String} (hi : i ∈ t.expand item)
    (h : t.ItemReads i kind n) : t.ItemReads item kind n := by
  cases item with
  | inline g => rwa [List.mem_singleton.mp hi] at h
  | arrayRef m => rwa [List.mem_singleton.mp hi] at h
  | ruleRef m =>
      cases hb : t.rules.get? m with
      | none =>
          simp only [expand, hb, List.mem_singleton] at hi
          rwa [hi] at h
      | some body =>
          simp only [expand, hb] at hi
          exact .entered hb hi h

theorem unfold_alike {ds ds' : List Declaration} (hcycle : ruleCycle? ds = none) (hcycle' : ruleCycle? ds' = none)
    {item : Item}
    (h : ∀ kind n, (ofDeclarations ds).ItemReads item kind n →
      (ofDeclarations ds).Alike (ofDeclarations ds') kind n) :
    (ofDeclarations ds').unfold item = (ofDeclarations ds).unfold item := by
  have hwithin : (ofDeclarations ds').unfoldWithin (ofDeclarations ds).rules.size item =
      some ((ofDeclarations ds).unfold item) := by
    rw [unfoldWithin_alike _ h, unfoldWithin_size hcycle]
  exact unfold_eq_of_unfoldWithin hcycle' hwithin

theorem compileSource_alike {ds ds' : List Declaration} (hcycle : stateCycle? ds = none)
    (hcycle' : stateCycle? ds' = none) {source : Source}
    (h : ∀ kind n, (ofDeclarations ds).SourceReads source kind n →
      (ofDeclarations ds).Alike (ofDeclarations ds') kind n) :
    (ofDeclarations ds').compileSource source = (ofDeclarations ds).compileSource source := by
  have hwithin : (ofDeclarations ds').hypergraphWithin (ofDeclarations ds).stateIndex.size source =
      some ((ofDeclarations ds).compileSource source) := by
    rw [hypergraphWithin_alike _ h, hypergraphWithin_size hcycle]
  exact compileSource_eq_of_hypergraphWithin hcycle' hwithin

end Symbols

theorem compileState_alike {ds ds' : List Declaration} (hds : Acyclic ds) (hds' : Acyclic ds') {s : StateDecl}
    (h : ∀ kind n, (ofDeclarations ds).Footprint s kind n → (ofDeclarations ds).Alike (ofDeclarations ds') kind n) :
    (ofDeclarations ds').compileState s = (ofDeclarations ds).compileState s := by
  have hitem : ∀ item ∈ s.rule.parts, ∀ kind n, (ofDeclarations ds).ItemReads item kind n →
      (ofDeclarations ds).Alike (ofDeclarations ds') kind n :=
    fun item hi kind n hr => h kind n (.inl ⟨item, hi, hr⟩)
  refine compileState_congr (fun item hi => expand_alike (hitem item hi)) ?_ ?_
  · intro i hi
    obtain ⟨item, hmem, hexp⟩ := List.mem_flatMap.mp hi
    exact unfold_alike hds.rules hds'.rules fun kind n hr => hitem item hmem kind n (hr.of_expand hexp)
  · exact compileSource_alike hds.states hds'.states fun kind n hr => h kind n (.inr hr)

/-! ## Edits outside a footprint -/

/-- The second program comes from the first by adding and deleting declarations of the given kind; a
declaration is edited by deleting it and adding another in its place. -/
inductive Edited (touched : Declaration → Prop) : List Declaration → List Declaration → Prop
  | done : Edited touched [] []
  | keep (d : Declaration) {ds ds' : List Declaration} :
      Edited touched ds ds' → Edited touched (d :: ds) (d :: ds')
  | add {d : Declaration} {ds ds' : List Declaration} :
      touched d → Edited touched ds ds' → Edited touched ds (d :: ds')
  | delete {d : Declaration} {ds ds' : List Declaration} :
      touched d → Edited touched ds ds' → Edited touched (d :: ds) ds'

/-- An edit that touches no declaration of a kind and name leaves what is written there. -/
theorem Edited.lastWritten_eq {touched : Declaration → Prop} {ds ds' : List Declaration} (h : Edited touched ds ds')
    {α : Type} {kind : Kind} {pair? : Declaration → Option (String × α)} (hw : Writes kind pair?) {n : String}
    (hn : ∀ d, touched d → ¬ (d.kind = kind ∧ d.name = n)) : lastWritten pair? ds n = lastWritten pair? ds' n := by
  induction h with
  | done => rfl
  | keep d _ ih => rw [hw.lastWritten_cons, hw.lastWritten_cons, ih]
  | add hd _ ih => rw [hw.lastWritten_cons, if_neg (hn _ hd), Option.or_none, ih]
  | delete hd _ ih => rw [hw.lastWritten_cons, if_neg (hn _ hd), Option.or_none, ih]

theorem Edited.alike {touched : Declaration → Prop} {ds ds' : List Declaration} (h : Edited touched ds ds')
    {kind : Kind} {n : String} (hn : ∀ d, touched d → ¬ (d.kind = kind ∧ d.name = n)) :
    (ofDeclarations ds).Alike (ofDeclarations ds') kind n := by
  cases kind with
  | array => rw [Alike, get?_arrays, get?_arrays, h.lastWritten_eq writes_array hn]
  | rule => rw [Alike, get?_rules, get?_rules, h.lastWritten_eq writes_rule hn]
  | state => rw [Alike, state?_ofDeclarations, state?_ofDeclarations, h.lastWritten_eq writes_state hn]

/-- In programs without cycles the artifact of a state depends on its footprint alone: it is the same where
the lookups of the footprint are answered alike, and after any edit of declarations outside it. -/
theorem compileState_of_footprint {ds ds' : List Declaration} (hds : Acyclic ds) (hds' : Acyclic ds')
    (s : StateDecl) :
    ((∀ kind n, (ofDeclarations ds).Footprint s kind n →
        (ofDeclarations ds).Alike (ofDeclarations ds') kind n) →
      (ofDeclarations ds').compileState s = (ofDeclarations ds).compileState s) ∧
    (Edited (fun d => ¬ (ofDeclarations ds).Footprint s d.kind d.name) ds ds' →
      (ofDeclarations ds').compileState s = (ofDeclarations ds).compileState s) := by
  refine ⟨compileState_alike hds hds', fun hedit => compileState_alike hds hds' fun kind n hread => ?_⟩
  refine hedit.alike fun d hd hsame => hd ?_
  rwa [hsame.1, hsame.2]

/-- A state built on another one, whose rule leads to a second rule. -/
def embeddedState : StateDecl := ⟨"s", .name "u", .item (.ruleRef "r"), none⟩

def embeddingProgram : List Declaration :=
  [.array "v" [["x"]],
    .rule "p" (.sequence [.arrayRef "v"]),
    .rule "q" (.sequence [.inline ["b"]]),
    .rule "r" (.sequence [.ruleRef "p", .inline ["a"]]),
    .state ⟨"u", .groups [["c"]], .item (.ruleRef "q"), some 2⟩,
    .state embeddedState]

/-- The name of the source is in the footprint as that of an array too: declaring one changes the artifact. -/
example : (ofDeclarations (.array "u" [] :: embeddingProgram)).compileState embeddedState ≠
    (ofDeclarations embeddingProgram).compileState embeddedState := by decide

/-- The state below has another rule. -/
def reruledProgram : List Declaration :=
  [.array "v" [["x"]],
    .rule "p" (.sequence [.arrayRef "v"]),
    .rule "r" (.sequence [.ruleRef "p", .inline ["a"]]),
    .state ⟨"u", .groups [["c"]], .item (.inline ["d"]), some 2⟩,
    .state embeddedState]

/-- The rule of the state below is edited, an array is added under the name of a rule, and the state
itself is no longer declared. -/
def editedProgram : List Declaration :=
  [.array "v" [["x"]],
    .array "q" [[]],
    .rule "p" (.sequence [.arrayRef "v"]),
    .rule "q" (.triple (.arrayRef "q") (.inline []) (.ruleRef "r")),
    .rule "r" (.sequence [.ruleRef "p", .inline ["a"]]),
    .state ⟨"u", .groups [["c"]], .item (.ruleRef "q"), some 2⟩]

/-- The footprint of the state holds an array, two rules, and the name of its source in both kinds. -/
theorem mem_of_footprint_embeddedState {kind : Kind} {n : String}
    (h : (ofDeclarations embeddingProgram).Footprint embeddedState kind n) :
    (kind, n) ∈ [(.rule, "r"), (.rule, "p"), (.array, "v"), (.array, "u"), (.state, "u")] := by
  have hr : (ofDeclarations embeddingProgram).rules.get? "r" = some (.sequence [.ruleRef "p", .inline ["a"]]) := by
    decide
  have hp : (ofDeclarations embeddingProgram).rules.get? "p" = some (.sequence [.arrayRef "v"]) := by decide
  have hu : (ofDeclarations embeddingProgram).state? "u" =
      some ⟨"u", .groups [["c"]], .item (.ruleRef "q"), some 2⟩ := by decide
  rcases h with ⟨i, hi, h⟩ | h
  · rw [List.mem_singleton.mp hi] at h
    cases h with
    | own h => cases h; decide
    | entered hb hi h =>
      rw [hr] at hb
      cases hb
      simp only [RuleBody.items, List.mem_cons, List.not_mem_nil, or_false] at hi
      rcases hi with rfl | rfl
      · cases h with
        | own h => cases h; decide
        | entered hb hi h =>
          rw [hp] at hb
          cases hb
          rw [List.mem_singleton.mp hi] at h
          cases h with
          | own h => cases h; decide
      · cases h with
        | own h => cases h
  · cases h with
    | array => decide
    | state => decide
    | entered _ hs h =>
      rw [hu] at hs
      cases hs
      cases h

theorem compileState_of_footprint_embeddedState :
    Acyclic embeddingProgram ∧ Acyclic reruledProgram ∧ Acyclic editedProgram ∧
    (ofDeclarations reruledProgram).compileState embeddedState =
      (ofDeclarations embeddingProgram).compileState embeddedState ∧
    (ofDeclarations editedProgram).compileState embeddedState =
      (ofDeclarations embeddingProgram).compileState embeddedState := by
  have hds : Acyclic embeddingProgram := ⟨by decide, by decide⟩
  have hreruled : Acyclic reruledProgram := ⟨by decide, by decide⟩
  have hedited : Acyclic editedProgram := ⟨by decide, by decide⟩
  refine ⟨hds, hreruled, hedited, (compileState_of_footprint hds hreruled embeddedState).1 ?_,
    (compileState_of_footprint hds hedited embeddedState).2 ?_⟩
  · intro kind n h
    have hmem := mem_of_footprint_embeddedState h
    simp only [List.mem_cons, List.not_mem_nil, or_false, Prod.mk.injEq] at hmem
    rcases hmem with ⟨rfl, rfl⟩ | ⟨rfl, rfl⟩ | ⟨rfl, rfl⟩ | ⟨rfl, rfl⟩ | ⟨rfl, rfl⟩ <;> unfold Alike <;> decide
  · have houtside : ∀ d : Declaration, (d.kind, d.name) ∉
        [(.rule, "r"), (.rule, "p"), (.array, "v"), (.array, "u"), (.state, "u")] →
        ¬ (ofDeclarations embeddingProgram).Footprint embeddedState d.kind d.name :=
      fun d hd h => hd (mem_of_footprint_embeddedState h)
    exact .keep _ (.add (houtside _ (by decide)) (.keep _ (.delete (houtside _ (by decide))
      (.add (houtside _ (by decide)) (.keep _ (.keep _ (.delete (houtside _ (by decide)) .done)))))))

end HyperEvolve
