import HyperEvolve.Proofs.UnusedWarnings
import Mathlib.Data.List.Dedup

/-!
# Which repeated names are reported

The warnings about repeated names come from a look at the names of one kind after the other, the lookups
from writing all declarations in order. They agree: a name is warned of, once, when it is declared at least
twice in its kind, and nothing is warned of exactly when the lookups keep every declaration.
-/

namespace HyperEvolve

open Declaration Symbols

/-! ## Repeated names -/

theorem count_repeatedFrom (seen reported names : List String) (n : String) :
    (repeatedFrom seen reported names).count n =
      if n ∉ reported ∧ (2 ≤ names.count n ∨ n ∈ seen ∧ n ∈ names) then 1 else 0 := by
  induction names generalizing seen reported with
  | nil => simp [repeatedFrom]
  | cons m ms ih =>
      have hmem : 2 ≤ ms.count n → n ∈ ms := fun h => List.count_pos_iff.mp (by omega)
      rw [repeatedFrom]
      by_cases hn : m = n
      · subst hn
        have htwo : 2 ≤ (m :: ms).count m ↔ m ∈ ms := by
          rw [List.count_cons_self, ← List.count_pos_iff]
          omega
        split
        · rename_i hm
          simp [ih, hm]
        · rename_i hm
          rw [ih]
          refine if_congr ?_ rfl rfl
          simp only [htwo, List.mem_cons, true_or, true_and, and_true]
          tauto
      · have hne : n ≠ m := Ne.symm hn
        rw [List.count_cons_of_ne hn]
        split
        · rename_i hm
          simp [ih, List.count_cons_of_ne hn, hne]
        · simp [ih, hne]

theorem count_repeated (names : List String) (n : String) :
    (repeated names).count n = if 2 ≤ names.count n then 1 else 0 := by
  simp [repeated, count_repeatedFrom]

theorem count_duplicateWarnings (ds : List Declaration) (kind : Kind) (n : String) :
    (duplicateWarnings ds).count (.duplicate kind n) = if 2 ≤ (declaredNames kind ds).count n then 1 else 0 := by
  have hsame : ((repeated (declaredNames kind ds)).map (Warning.duplicate kind)).count (.duplicate kind n) =
      if 2 ≤ (declaredNames kind ds).count n then 1 else 0 := by
    rw [List.count_map_of_injective _ _ (fun _ _ h => by cases h; rfl), count_repeated]
  have hother : ∀ kind', kind' ≠ kind →
      ((repeated (declaredNames kind' ds)).map (Warning.duplicate kind')).count (.duplicate kind n) = 0 := by
    intro kind' hne
    rw [List.count_eq_zero, List.mem_map]
    rintro ⟨m, -, he⟩
    cases he
    exact hne rfl
  simp only [duplicateWarnings, List.flatMap_cons, List.flatMap_nil, List.append_nil, List.count_append]
  cases kind with
  | array => rw [hsame, hother .rule (by decide), hother .state (by decide), Nat.add_zero]
  | rule => rw [hsame, hother .array (by decide), hother .state (by decide), Nat.zero_add, Nat.add_zero]
  | state => rw [hsame, hother .array (by decide), hother .rule (by decide), Nat.zero_add, Nat.zero_add]

/-! ## The messages -/

theorem Kind.title_append_inj {kind kind' : Kind} {s s' : String} (h : kind.title ++ s = kind'.title ++ s') :
    kind = kind' ∧ s = s' := by
  cases kind <;> cases kind'
  case array.array | rule.rule | state.state => exact ⟨rfl, (String.append_right_inj _).mp h⟩
  all_goals
    have hhead := congrArg (fun s => s.toList.head?) h
    simp [title] at hhead

theorem Warning.message_injective : Function.Injective Warning.message := by
  intro w w' h
  cases w' with
  | unusedArray m => exact eq_of_message_eq (by simp) h
  | unusedRule m => exact eq_of_message_eq (by simp) h
  | duplicate kind' m =>
      cases w with
      | unusedArray n => exact (eq_of_message_eq (by simp) h.symm).symm
      | unusedRule n => exact (eq_of_message_eq (by simp) h.symm).symm
      | duplicate kind n =>
          have hname : kind.title ++ " '" ++ n = kind'.title ++ " '" ++ m := (String.append_left_inj _).mp h
          rw [String.append_assoc, String.append_assoc] at hname
          obtain ⟨rfl, hquoted⟩ := Kind.title_append_inj hname
          rw [(String.append_right_inj _).mp hquoted]

theorem count_duplicate_message (ds : List Declaration) (kind : Kind) (n : String) :
    ((check ds).warnings.map Warning.message).count (Warning.duplicate kind n).message =
      if 2 ≤ (declaredNames kind ds).count n then 1 else 0 := by
  have hunused : (unusedWarnings ds).count (.duplicate kind n) = 0 := by
    rw [List.count_eq_zero]
    intro h
    rcases unusedFrom_sound h with ⟨m, he, -⟩ | ⟨m, he, -⟩ <;> cases he
  rw [List.count_map_of_injective _ _ Warning.message_injective, check, List.count_append,
    count_duplicateWarnings, hunused, Nat.add_zero]

theorem duplicate_of_message_ends {ds : List Declaration} {text : String}
    (h : text ∈ (check ds).warnings.map Warning.message)
    (hends : ∃ a, text = a ++ "is declared more than once; the last declaration wins.") :
    ∃ kind n, text = (Warning.duplicate kind n).message := by
  obtain ⟨w, -, rfl⟩ := List.mem_map.mp h
  obtain ⟨a, ha⟩ := hends
  by_cases hw : ∀ kind n, w ≠ .duplicate kind n
  · obtain ⟨b, hb⟩ := message_unused hw
    have hsplit : "is declared more than once; the last declaration wins." =
        "is declared more than once; the last declaration " ++ "wins." := by decide
    rw [hsplit, ← String.append_assoc] at ha
    exact absurd (hb.symm.trans ha) (append_ne_append (by decide) (by decide))
  · push Not at hw
    obtain ⟨kind, n, rfl⟩ := hw
    exact ⟨kind, n, rfl⟩

/-! ## What the lookups keep -/

/-- What the lookup of a kind returns for a name, as a declaration. -/
def Symbols.declared? (t : Symbols) : Kind → String → Option Declaration
  | .array, n => (t.arrays.get? n).map (.array n)
  | .rule, n => (t.rules.get? n).map (.rule n)
  | .state, n => (t.state? n).map .state

theorem declared?_cons (d : Declaration) (ds : List Declaration) (kind : Kind) (n : String) :
    (ofDeclarations (d :: ds)).declared? kind n = ((ofDeclarations ds).declared? kind n).or
      (if d.kind = kind ∧ d.name = n then some d else none) := by
  cases kind with
  | array =>
      simp only [declared?, get?_arrays, writes_array.lastWritten_cons, Option.map_or]
      congr 1
      cases d <;> simp +contextual [arrayPair?, Declaration.kind, Declaration.name]
  | rule =>
      simp only [declared?, get?_rules, writes_rule.lastWritten_cons, Option.map_or]
      congr 1
      cases d <;> simp +contextual [rulePair?, Declaration.kind, Declaration.name]
  | state =>
      simp only [declared?, state?_ofDeclarations, writes_state.lastWritten_cons, Option.map_or]
      congr 1
      cases d <;> simp +contextual [statePair?, Declaration.kind, Declaration.name]

theorem declared?_append (before after : List Declaration) (kind : Kind) (n : String) :
    (ofDeclarations (before ++ after)).declared? kind n =
      ((ofDeclarations after).declared? kind n).or ((ofDeclarations before).declared? kind n) := by
  induction before with
  | nil => cases kind <;> simp [declared?, get?_arrays, get?_rules, state?_ofDeclarations, lastWritten]
  | cons d before ih => rw [List.cons_append, declared?_cons, declared?_cons, ih, Option.or_assoc]

theorem declared?_eq_none_iff {ds : List Declaration} {kind : Kind} {n : String} :
    (ofDeclarations ds).declared? kind n = none ↔ n ∉ declaredNames kind ds := by
  cases kind with
  | array => rw [declared?, Option.map_eq_none_iff, Table.get?_eq_none_iff, mem_declaredNames_array]
  | rule => rw [declared?, Option.map_eq_none_iff, Table.get?_eq_none_iff, mem_declaredNames_rule]
  | state => rw [declared?, Option.map_eq_none_iff, state?, Table.get?_eq_none_iff, mem_declaredNames_state]

/-- The declaration at a place is the one that its namespace returns for its name. Two declarations with the
same content are the same value, so this is told by exchanging the declaration: whichever one of its kind and
name stands at the place is returned. -/
def IsReturned (before : List Declaration) (d : Declaration) (after : List Declaration) : Prop :=
  ∀ d', d'.kind = d.kind → d'.name = d.name →
    (ofDeclarations (before ++ d' :: after)).declared? d.kind d.name = some d'

/-- Under every kind and name different declarations can stand. -/
theorem exists_other (d : Declaration) : ∃ d', d'.kind = d.kind ∧ d'.name = d.name ∧ d' ≠ d := by
  cases d with
  | array n gs => exact ⟨.array n ([] :: gs), rfl, rfl, by simp⟩
  | rule n body =>
      refine ⟨.rule n (.sequence (.inline [] :: body.items)), rfl, rfl, fun he => ?_⟩
      have hitems := congrArg (fun d => d.items.length) he
      simp [Declaration.items, RuleBody.items] at hitems
  | state s =>
      refine ⟨.state { s with rule := .items (.inline [] :: s.rule.parts) }, rfl, rfl, fun he => ?_⟩
      have hitems := congrArg (fun d => d.items.length) he
      simp [Declaration.items, StateRule.parts] at hitems

theorem isReturned_iff {before after : List Declaration} {d : Declaration} :
    IsReturned before d after ↔ d.name ∉ declaredNames d.kind after := by
  rw [← declared?_eq_none_iff]
  constructor
  · intro h
    obtain ⟨d', hkind, hname, hne⟩ := exists_other d
    have hd := h d rfl rfl
    have hd' := h d' hkind hname
    rw [declared?_append, declared?_cons] at hd hd'
    cases ha : (ofDeclarations after).declared? d.kind d.name with
    | none => rfl
    | some x =>
        -- A later declaration would be returned whatever stands at the place.
        rw [ha] at hd hd'
        exact absurd (Option.some.inj (hd'.symm.trans hd)) hne
  · intro h d' hkind hname
    rw [declared?_append, declared?_cons, h, Option.none_or, if_pos ⟨hkind, hname⟩, Option.some_or]

/-! ## Nothing is lost -/

theorem declaredNames_append (kind : Kind) (before after : List Declaration) :
    declaredNames kind (before ++ after) = declaredNames kind before ++ declaredNames kind after := by
  simp [declaredNames]

theorem declaredNames_cons (kind : Kind) (d : Declaration) (ds : List Declaration) :
    declaredNames kind (d :: ds) = (if d.kind = kind then [d.name] else []) ++ declaredNames kind ds := by
  by_cases h : d.kind = kind <;> simp [declaredNames, h]

theorem nodup_declaredNames_iff {ds : List Declaration} :
    (∀ kind, (declaredNames kind ds).Nodup) ↔
      ∀ before d after, ds = before ++ d :: after → IsReturned before d after := by
  simp only [isReturned_iff]
  constructor
  · rintro h before d after rfl
    have hd := h d.kind
    rw [declaredNames_append, declaredNames_cons, if_pos rfl, List.nodup_append] at hd
    exact (List.nodup_cons.mp hd.2.1).1
  · intro h kind
    induction ds with
    | nil => exact List.nodup_nil
    | cons d ds ih =>
        have hds := ih fun before d' after he => h (d :: before) d' after (by rw [he, List.cons_append])
        rw [declaredNames_cons]
        by_cases hd : d.kind = kind
        · subst hd
          rw [if_pos rfl]
          exact List.nodup_cons.mpr ⟨h [] d ds rfl, hds⟩
        · rwa [if_neg hd]

theorem nodup_declaredNames_iff_count {ds : List Declaration} :
    (∀ kind, (declaredNames kind ds).Nodup) ↔
      ∀ kind (n : String), (Warning.duplicate kind n).message ∉ (check ds).warnings.map Warning.message := by
  refine forall_congr' fun kind => List.nodup_iff_count_le_one.trans (forall_congr' fun n => ?_)
  rw [← List.count_eq_zero, count_duplicate_message]
  split <;> omega

theorem length_declaredNames (ds : List Declaration) :
    (declaredNames .array ds).length + (declaredNames .rule ds).length + (declaredNames .state ds).length =
      ds.length := by
  induction ds with
  | nil => rfl
  | cons d ds ih =>
      simp only [declaredNames_cons, List.length_append, List.length_cons]
      cases d <;> simp [Declaration.kind] <;> omega

theorem length_dedup_eq_iff {names : List String} : names.dedup.length = names.length ↔ names.Nodup := by
  rw [← List.dedup_eq_self]
  exact names.dedup_sublist.length_eq

/-- The lookups know as many names as there are declarations when no kind has a name twice. -/
theorem nodup_declaredNames_iff_size {ds : List Declaration} :
    (∀ kind, (declaredNames kind ds).Nodup) ↔
      (ofDeclarations ds).arrays.size + (ofDeclarations ds).rules.size + (ofDeclarations ds).stateIndex.size =
        ds.length := by
  have harray := (declaredNames .array ds).dedup_sublist.length_le
  have hrule := (declaredNames .rule ds).dedup_sublist.length_le
  have hstate := (declaredNames .state ds).dedup_sublist.length_le
  simp only [← length_dedup_eq_iff, arrays_ofDeclarations, rules_ofDeclarations, stateIndex_ofDeclarations,
    Table.size_ofList, ← writes_array.declaredNames_eq, ← writes_rule.declaredNames_eq,
    ← writes_state.declaredNames_eq, ← length_declaredNames ds]
  constructor
  · intro h
    rw [h .array, h .rule, h .state]
  · intro h kind
    cases kind <;> omega

/-! ## The warnings against the lookups -/

/-- A program is warned once of each name that one of the three kinds declares at least twice, and no other
warning says that a name is declared more than once. There is no such warning exactly when every declaration
is the one that the lookup of its kind returns for its name, and exactly when the three lookups together know
as many names as there are declarations. -/
theorem duplicates_reported_iff (ds : List Declaration) :
    let messages := (check ds).warnings.map Warning.message
    let text := fun (kind : Kind) (n : String) =>
      s!"{kind.title} '{n}' is declared more than once; the last declaration wins."
    (∀ kind n, messages.count (text kind n) = if 2 ≤ (declaredNames kind ds).count n then 1 else 0) ∧
    (∀ m ∈ messages, (∃ a, m = a ++ "is declared more than once; the last declaration wins.") →
      ∃ kind n, m = text kind n) ∧
    ((∀ kind n, text kind n ∉ messages) ↔ ∀ before d after, ds = before ++ d :: after → IsReturned before d after) ∧
    ((∀ kind n, text kind n ∉ messages) ↔
      (ofDeclarations ds).arrays.size + (ofDeclarations ds).rules.size + (ofDeclarations ds).stateIndex.size =
        ds.length) := by
  refine ⟨count_duplicate_message ds, fun m hm hends => duplicate_of_message_ends hm hends, ?_, ?_⟩
  · exact nodup_declaredNames_iff_count.symm.trans nodup_declaredNames_iff
  · exact nodup_declaredNames_iff_count.symm.trans nodup_declaredNames_iff_size

/-- Every kind declares the name `n`: the arrays three times, the rules once and the states twice, alike. -/
def crowdedProgram : List Declaration :=
  [.array "n" [["a"]],
    .state ⟨"n", .name "n", .item (.ruleRef "n"), none⟩,
    .array "n" [["b"]],
    .rule "n" (.sequence [.arrayRef "n"]),
    .state ⟨"n", .name "n", .item (.ruleRef "n"), none⟩,
    .array "n" [["c"]]]

theorem duplicates_reported_iff_crowdedProgram :
    (check crowdedProgram).warnings.map Warning.message =
      ["Array 'n' is declared more than once; the last declaration wins.",
        "State 'n' is declared more than once; the last declaration wins."] ∧
    ∃ before d after, crowdedProgram = before ++ d :: after ∧ ¬ IsReturned before d after := by
  have hmessages : (check crowdedProgram).warnings.map Warning.message =
      ["Array 'n' is declared more than once; the last declaration wins.",
        "State 'n' is declared more than once; the last declaration wins."] := by decide
  obtain ⟨-, -, hreturned, -⟩ := duplicates_reported_iff crowdedProgram
  refine ⟨hmessages, ?_⟩
  by_contra hall
  push Not at hall
  exact hreturned.mpr hall .array "n" (by rw [hmessages]; exact List.mem_cons_self)

end HyperEvolve
