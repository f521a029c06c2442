import HyperEvolve.Proofs.Footprint

/-!
# Unused declarations are dead

The warning about an unused array or rule comes from a single look at the items and sources of the program.
It is enough: a name that stands in none of them is in the footprint of no state, so deleting all its
declarations keeps the program accepted and every compiled state as it is.
-/

namespace HyperEvolve

open Declaration Symbols

/-! ## What a warning says -/

/-- A name that no item of the program asks for and that is not the array of any source. -/
structure Unused (ds : List Declaration) (kind : Kind) (n : String) : Prop where
  kind_ne : kind ≠ .state
  items : ∀ d ∈ ds, ∀ i ∈ d.items, i.lookup? ≠ some (kind, n)
  source : ∀ s, .state s ∈ ds → s.source = .name n → kind ≠ .array

theorem unusedFrom_sound {arrays rules reported : List String} {ds : List Declaration} {w : Warning}
    (h : w ∈ unusedFrom arrays rules reported ds) :
    (∃ n, w = .unusedArray n ∧ n ∉ arrays) ∨ ∃ n, w = .unusedRule n ∧ n ∉ rules := by
  induction ds generalizing reported with
  | nil => cases h
  | cons d ds ih =>
      cases d with
      | array n gs =>
          rw [unusedFrom] at h
          split at h
          · rename_i hn
            rcases List.mem_cons.mp h with rfl | h
            · exact .inl ⟨n, rfl, hn.1⟩
            · exact ih h
          · exact ih h
      | rule n body =>
          rw [unusedFrom] at h
          split at h
          · rename_i hn
            rcases List.mem_cons.mp h with rfl | h
            · exact .inr ⟨n, rfl, hn.1⟩
            · exact ih h
          · exact ih h
      | state s => exact ih h

theorem unused_of_notMem_usedArrays {ds : List Declaration} {n : String} (h : n ∉ usedArrays ds) :
    Unused ds .array n where
  kind_ne := by decide
  items d hd i hi hl := by
    cases i with
    | arrayRef m =>
        cases hl
        exact h (List.mem_flatMap.mpr ⟨d, hd, List.mem_append_right _ (List.mem_filterMap.mpr ⟨_, hi, rfl⟩)⟩)
    | _ => cases hl
  source s hs hn _ := by
    have hname : (Declaration.state s).sourceName? = some n := by
      obtain ⟨name, source, rule, count⟩ := s
      cases hn
      rfl
    exact h (List.mem_flatMap.mpr ⟨_, hs, List.mem_append_left _ (by simp [hname])⟩)

theorem unused_of_notMem_usedRules {ds : List Declaration} {n : String} (h : n ∉ usedRules ds) :
    Unused ds .rule n where
  kind_ne := by decide
  items d hd i hi hl := by
    cases i with
    | ruleRef m =>
        cases hl
        exact h (List.mem_flatMap.mpr ⟨d, hd, List.mem_filterMap.mpr ⟨_, hi, rfl⟩⟩)
    | _ => cases hl
  source _ _ _ := by decide

/-! ## The message tells the warning -/

/-- Texts that end in different words of one length differ. -/
theorem append_ne_append {a b u v : String} (hlen : u.toList.length = v.toList.length) (h : u ≠ v) :
    a ++ u ≠ b ++ v := by
  intro he
  have hlist := congrArg String.toList he
  rw [String.toList_append, String.toList_append] at hlist
  exact h (String.toList_inj.mp (List.append_inj' hlist hlen).2)

/-- Every warning about a repeated name ends in the same word. -/
theorem message_duplicate (kind : Kind) (n : String) :
    ∃ a, (Warning.duplicate kind n).message = a ++ "wins." := by
  have hsplit : "' is declared more than once; the last declaration wins." =
      "' is declared more than once; the last declaration " ++ "wins." := by decide
  refine ⟨kind.title ++ " '" ++ n ++ "' is declared more than once; the last declaration ", ?_⟩
  rw [String.append_assoc, ← hsplit]
  rfl

/-- Every other warning ends in another word of the same length. -/
theorem message_unused {w : Warning} (hw : ∀ kind n, w ≠ .duplicate kind n) : ∃ a, w.message = a ++ "used." := by
  have hsplit : "' is never used." = "' is never " ++ "used." := by decide
  have hends : ∀ title n : String, ∃ a, title ++ n ++ "' is never used." = a ++ "used." :=
    fun title n => ⟨title ++ n ++ "' is never ", by rw [hsplit, ← String.append_assoc]⟩
  cases w with
  | duplicate kind n => exact absurd rfl (hw kind n)
  | unusedArray n => exact hends "Array '" n
  | unusedRule n => exact hends "Rule '" n

theorem array_message_ne_rule_message (n m : String) :
    (Warning.unusedArray n).message ≠ (Warning.unusedRule m).message := by
  intro h
  have h : "Array '" ++ n ++ "' is never used." = "Rule '" ++ m ++ "' is never used." := h
  have hhead := congrArg (fun s => s.toList.head?) h
  simp at hhead

/-- No two warnings share the message of one about an unused name, whatever the names are. -/
theorem eq_of_message_eq {w w' : Warning} (hw : ∀ kind n, w ≠ .duplicate kind n)
    (h : w'.message = w.message) : w' = w := by
  have hname : ∀ {title n m : String},
      title ++ n ++ "' is never used." = title ++ m ++ "' is never used." → n = m :=
    fun he => (String.append_right_inj _).mp ((String.append_left_inj _).mp he)
  cases w' with
  | duplicate kind m =>
      obtain ⟨a, ha⟩ := message_duplicate kind m
      obtain ⟨b, hb⟩ := message_unused hw
      exact absurd (ha.symm.trans (h.trans hb)) (append_ne_append (by decide) (by decide))
  | unusedArray m =>
      cases w with
      | duplicate kind n => exact absurd rfl (hw kind n)
      | unusedArray n => exact congrArg _ (hname h)
      | unusedRule n => exact absurd h (array_message_ne_rule_message m n)
  | unusedRule m =>
      cases w with
      | duplicate kind n => exact absurd rfl (hw kind n)
      | unusedArray n => exact absurd h.symm (array_message_ne_rule_message n m)
      | unusedRule n => exact congrArg _ (hname h)

/-- A program that is warned with the message of an unused name does not use it. -/
theorem unused_of_message {ds : List Declaration} {w : Warning} (hw : ∀ kind n, w ≠ .duplicate kind n)
    (h : w.message ∈ (check ds).warnings.map Warning.message) :
    (∃ n, w = .unusedArray n ∧ Unused ds .array n) ∨ ∃ n, w = .unusedRule n ∧ Unused ds .rule n := by
  obtain ⟨w', hmem, hmessage⟩ := List.mem_map.mp h
  rw [eq_of_message_eq hw hmessage] at hmem
  rcases List.mem_append.mp hmem with hmem | hmem
  · obtain ⟨kind, -, hmem⟩ := List.mem_flatMap.mp hmem
    obtain ⟨n, -, he⟩ := List.mem_map.mp hmem
    exact absurd he.symm (hw kind n)
  · rcases unusedFrom_sound hmem with ⟨n, he, hn⟩ | ⟨n, he, hn⟩
    · exact .inl ⟨n, he, unused_of_notMem_usedArrays hn⟩
    · exact .inr ⟨n, he, unused_of_notMem_usedRules hn⟩

/-! ## Deleting a name -/

/-- The program without the declarations of a kind and name. -/
def without (kind : Kind) (n : String) (ds : List Declaration) : List Declaration :=
  ds.filter fun d => ¬ (d.kind = kind ∧ d.name = n)

theorem mem_without {kind : Kind} {n : String} {ds : List Declaration} {d : Declaration} :
    d ∈ without kind n ds ↔ d ∈ ds ∧ ¬ (d.kind = kind ∧ d.name = n) := by
  rw [without, List.mem_filter, decide_eq_true_iff]

theorem without_cons (kind : Kind) (n : String) (d : Declaration) (ds : List Declaration) :
    without kind n (d :: ds) =
      if d.kind = kind ∧ d.name = n then without kind n ds else d :: without kind n ds := by
  by_cases hd : d.kind = kind ∧ d.name = n
  · rw [if_pos hd, without, List.filter_cons_of_neg (by simp [hd]), without]
  · rw [if_neg hd, without, List.filter_cons_of_pos (by simp only [hd]; rfl), without]

theorem edited_without (kind : Kind) (n : String) (ds : List Declaration) :
    Edited (fun d => d.kind = kind ∧ d.name = n) ds (without kind n ds) := by
  induction ds with
  | nil => exact .done
  | cons d ds ih =>
      rw [without_cons]
      split
      · rename_i hd
        exact .delete hd ih
      · exact .keep d ih

/-- Every other name is answered as before. -/
theorem alike_without {kind kind' : Kind} {n m : String} (ds : List Declaration) (h : ¬ (kind' = kind ∧ m = n)) :
    (ofDeclarations ds).Alike (ofDeclarations (without kind n ds)) kind' m :=
  (edited_without kind n ds).alike fun _ hd hd' => h ⟨hd'.1.symm.trans hd.1, hd'.2.symm.trans hd.2⟩

theorem state?_without {kind : Kind} (hk : kind ≠ .state) (n m : String) (ds : List Declaration) :
    (ofDeclarations (without kind n ds)).state? m = (ofDeclarations ds).state? m := by
  rw [state?_ofDeclarations, state?_ofDeclarations]
  exact ((edited_without kind n ds).lastWritten_eq writes_state fun d hd hd' => hk (hd.1.symm.trans hd'.1)).symm

theorem stateDecls_cons (d : Declaration) (ds : List Declaration) :
    stateDecls (d :: ds) = stateDecls [d] ++ stateDecls ds := List.filterMap_append (l := [d])

theorem stateDecls_without {kind : Kind} (hk : kind ≠ .state) (n : String) (ds : List Declaration) :
    stateDecls (without kind n ds) = stateDecls ds := by
  induction ds with
  | nil => rfl
  | cons d ds ih =>
      rw [without_cons]
      split
      · rename_i hd
        cases d with
        | state s => exact absurd hd.1.symm hk
        | _ => exact ih
      · rw [stateDecls_cons, stateDecls_cons d ds, ih]

/-! ## No state leads to an unused name -/

namespace Unused

variable {ds : List Declaration} {kind : Kind} {n : String} (h : Unused ds kind n)
include h

theorem not_itemReads {d : Declaration} (hd : d ∈ ds) {item : Item} (hi : item ∈ d.items) :
    ¬ (ofDeclarations ds).ItemReads item kind n := by
  intro hr
  -- What is read below a rule is read by an item of its declaration, where the name does not stand either.
  induction hr generalizing d with
  | own hl => exact h.items d hd _ hi hl
  | entered hb hi' _ ih => exact ih h (rule_mem_of_get? hb) hi'

theorem not_sourceReads {s : StateDecl} (hs : .state s ∈ ds) : ¬ (ofDeclarations ds).SourceReads s.source kind n := by
  intro hr
  generalize hsource : s.source = source at hr
  induction hr generalizing s with
  | array => exact h.source s hs hsource rfl
  | state _ => exact h.kind_ne rfl
  | entered _ hs' _ ih => exact ih h (state_mem_of_state? hs').2 rfl

theorem not_footprint {s : StateDecl} (hs : .state s ∈ ds) : ¬ (ofDeclarations ds).Footprint s kind n := by
  rintro (⟨i, hi, hr⟩ | hr)
  · exact h.not_itemReads hs hi hr
  · exact h.not_sourceReads hs hr

/-! ## The program stays accepted -/

/-- The array of a source is answered as before. -/
theorem get?_arrays_of_source {s : StateDecl} (hs : .state s ∈ ds) {m : String} (hm : s.source = .name m) :
    (ofDeclarations ds).arrays.get? m = (ofDeclarations (without kind n ds)).arrays.get? m := by
  change (ofDeclarations ds).Alike (ofDeclarations (without kind n ds)) .array m
  refine alike_without ds ?_
  rintro ⟨hk, rfl⟩
  exact h.source s hs hm hk.symm

theorem resolves {d : Declaration} (hd : d ∈ ds) {item : Item} (hi : item ∈ d.items)
    (hr : (ofDeclarations ds).Resolves item) : (ofDeclarations (without kind n ds)).Resolves item := by
  have halike : ∀ kind' m, item.lookup? = some (kind', m) →
      (ofDeclarations ds).Alike (ofDeclarations (without kind n ds)) kind' m := by
    intro kind' m hl
    refine alike_without ds ?_
    rintro ⟨rfl, rfl⟩
    exact h.items d hd item hi hl
  cases item with
  | inline g => trivial
  | arrayRef m =>
      have hm : (ofDeclarations ds).arrays.get? m = _ := halike .array m rfl
      rwa [Resolves, ← Table.isSome_get?_iff, hm, Table.isSome_get?_iff] at hr
  | ruleRef m =>
      have hm : (ofDeclarations ds).rules.get? m = _ := halike .rule m rfl
      rwa [Resolves, ← Table.isSome_get?_iff, hm, Table.isSome_get?_iff] at hr

theorem sourceResolves {s : StateDecl} (hs : .state s ∈ ds) (hr : (ofDeclarations ds).SourceResolves s.source) :
    (ofDeclarations (without kind n ds)).SourceResolves s.source := by
  cases hsource : s.source with
  | groups gs => trivial
  | name m =>
      rw [hsource, SourceResolves, ← Table.isSome_get?_iff, ← Table.isSome_get?_iff,
        h.get?_arrays_of_source hs hsource] at hr
      have hstate := state?_without h.kind_ne n m ds
      rw [state?, state?] at hstate
      rwa [SourceResolves, ← Table.isSome_get?_iff, ← Table.isSome_get?_iff, hstate]

theorem declarationResolves {d : Declaration} (hd : d ∈ ds) (hr : (ofDeclarations ds).DeclarationResolves d) :
    (ofDeclarations (without kind n ds)).DeclarationResolves d := by
  cases d with
  | array m gs => trivial
  | rule m body => exact fun i hi => h.resolves hd hi (hr i hi)
  | state s => exact ⟨fun i hi => h.resolves hd hi (hr.1 i hi), h.sourceResolves hd hr.2⟩

/-- Every reference that is left was there before. -/
theorem refers_state {a b : String} (hr : (stateReferences (without kind n ds)).Refers a b) :
    (stateReferences ds).Refers a b := by
  obtain ⟨s, hs, hsource, harray⟩ := refers_state_iff.mp hr
  rw [state?_without h.kind_ne] at hs
  refine refers_state_iff.mpr ⟨s, hs, hsource, ?_⟩
  rwa [h.get?_arrays_of_source (state_mem_of_state? hs).2 hsource]

omit h in
theorem refers_rule {a b : String} (hr : (ruleReferences (without kind n ds)).Refers a b) :
    (ruleReferences ds).Refers a b := by
  obtain ⟨body, hb, hi⟩ := refers_rule_iff.mp hr
  have halike : (ofDeclarations ds).rules.get? a = _ := alike_without ds (mem_without.mp (rule_mem_of_get? hb)).2
  exact refers_rule_iff.mpr ⟨body, halike.trans hb, hi⟩

theorem acyclic (hds : Acyclic ds) : Acyclic (without kind n ds) where
  rules := References.cycle?_eq_none_of_refers (fun _ _ hr => refers_rule hr) hds.rules
  states := References.cycle?_eq_none_of_refers (fun _ _ hr => h.refers_state hr) hds.states

theorem compiled_eq (hds : Acyclic ds) :
    (stateDecls (without kind n ds)).map (ofDeclarations (without kind n ds)).compiled =
      (stateDecls ds).map (ofDeclarations ds).compiled := by
  rw [stateDecls_without h.kind_ne]
  refine List.map_congr_left fun s hs => ?_
  have hs : Declaration.state s ∈ ds := mem_stateDecls.mp hs
  have hstate : (ofDeclarations (without kind n ds)).compileState s = (ofDeclarations ds).compileState s := by
    refine compileState_alike hds (h.acyclic hds) fun kind' m hread => alike_without ds ?_
    rintro ⟨rfl, rfl⟩
    exact h.not_footprint hs hread
  rw [compiled, compiled, hstate]

theorem compileProgram_without {c : Compilation} (hc : compileProgram ds = .ok c) :
    ∃ c', compileProgram (without kind n ds) = .ok c' ∧ c'.states = c.states := by
  obtain ⟨hres, hds, hcounts⟩ := exists_compileProgram_eq_ok_iff.mp ⟨c, hc⟩
  obtain ⟨c', hc'⟩ : ∃ c', compileProgram (without kind n ds) = .ok c' := by
    refine exists_compileProgram_eq_ok_iff.mpr ⟨fun d hd => ?_, h.acyclic hds, ?_⟩
    · have hd := (mem_without.mp hd).1
      exact h.declarationResolves hd (hres d hd)
    · exact hcounts.of_subset fun s hs => (mem_without.mp hs).1
  refine ⟨c', hc', ?_⟩
  rw [states_of_ok hc', states_of_ok hc, h.compiled_eq hds]

end Unused

/-- When a program is accepted with the warning that an array or a rule is never used, it stays accepted
without all declarations of that name, and compiles to the same states with the same artifacts and previews. -/
theorem compileProgram_without_unused {ds : List Declaration} {c : Compilation} (h : compileProgram ds = .ok c)
    (n : String) :
    (s!"Array '{n}' is never used." ∈ (check ds).warnings.map Warning.message →
      ∃ c', compileProgram (without .array n ds) = .ok c' ∧ c'.states = c.states) ∧
    (s!"Rule '{n}' is never used." ∈ (check ds).warnings.map Warning.message →
      ∃ c', compileProgram (without .rule n ds) = .ok c' ∧ c'.states = c.states) := by
  constructor
  · intro hw
    obtain ⟨m, he, hm⟩ | ⟨m, he, -⟩ := unused_of_message (w := .unusedArray n) (by simp) hw
    · cases he
      exact hm.compileProgram_without h
    · cases he
  · intro hw
    obtain ⟨m, he, -⟩ | ⟨m, he, hm⟩ := unused_of_message (w := .unusedRule n) (by simp) hw
    · cases he
    · cases he
      exact hm.compileProgram_without h

/-- Two arrays of one name and two rules of another are never used; the rules lead to a rule that is. -/
def idleProgram : List Declaration :=
  [.array "v" [["x"]],
    .rule "p" (.sequence [.inline ["a"]]),
    .rule "q" (.sequence [.ruleRef "p", .arrayRef "v"]),
    .array "w" [["y"]],
    .rule "q" (.triple (.ruleRef "p") (.inline []) (.inline ["b"])),
    .array "w" [["y"], []],
    .state ⟨"s", .name "v", .item (.ruleRef "p"), some 1⟩,
    .state ⟨"u", .name "s", .items [.arrayRef "v"], none⟩]

theorem compileProgram_without_unused_idleProgram :
    ∃ c, compileProgram idleProgram = .ok c ∧
      "Array 'w' is never used." ∈ (check idleProgram).warnings.map Warning.message ∧
      "Rule 'q' is never used." ∈ (check idleProgram).warnings.map Warning.message ∧
      (∃ c', compileProgram (without .array "w" idleProgram) = .ok c' ∧ c'.states = c.states) ∧
      ∃ c', compileProgram (without .rule "q" idleProgram) = .ok c' ∧ c'.states = c.states := by
  have hw : "Array 'w' is never used." ∈ (check idleProgram).warnings.map Warning.message :=
    List.mem_map.mpr ⟨.unusedArray "w", by decide, rfl⟩
  have hq : "Rule 'q' is never used." ∈ (check idleProgram).warnings.map Warning.message :=
    List.mem_map.mpr ⟨.unusedRule "q", by decide, rfl⟩
  obtain ⟨c, hc⟩ : ∃ c, compileProgram idleProgram = .ok c := ⟨_, rfl⟩
  exact ⟨c, hc, hw, hq, (compileProgram_without_unused hc "w").1 hw, (compileProgram_without_unused hc "q").2 hq⟩

end HyperEvolve
