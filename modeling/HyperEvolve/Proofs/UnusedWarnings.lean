import HyperEvolve.Proofs.Unused
import Mathlib.Data.List.TakeWhile

/-!
# Which unused names are reported

Every unused declaration bears a mark, an array its name and a rule its name behind an at sign, and of the
declarations with one mark only the first is reported. So each unused array and each unused rule is reported
once, unless an array and a rule bear the same mark: then the one that is declared first hides the other.
-/

namespace HyperEvolve

open Declaration

/-! ## The first of each mark -/

/-- The warnings whose marks were not met before. -/
def firstOfEach (met : List String) : List (String × Warning) → List Warning
  | [] => []
  | (mark, w) :: ps => if mark ∈ met then firstOfEach met ps else w :: firstOfEach (mark :: met) ps

theorem mem_firstOfEach {met : List String} {ps : List (String × Warning)} {w : Warning} :
    w ∈ firstOfEach met ps ↔ ∃ mark, mark ∉ met ∧ ps.lookup mark = some w := by
  induction ps generalizing met with
  | nil => simp [firstOfEach]
  | cons p ps ih =>
      obtain ⟨first, v⟩ := p
      rw [firstOfEach]
      split
      · rename_i hfirst
        rw [ih]
        refine exists_congr fun mark => and_congr_right fun hmark => ?_
        have hne : mark ≠ first := fun he => hmark (he ▸ hfirst)
        rw [Table.lookup_cons_ite, if_neg hne]
      · rename_i hfirst
        rw [List.mem_cons, ih]
        constructor
        · rintro (rfl | ⟨mark, hmark, hw⟩)
          · exact ⟨first, hfirst, by rw [Table.lookup_cons_ite, if_pos rfl]⟩
          · rw [List.mem_cons, not_or] at hmark
            exact ⟨mark, hmark.2, by rw [Table.lookup_cons_ite, if_neg hmark.1, hw]⟩
        · rintro ⟨mark, hmark, hw⟩
          rw [Table.lookup_cons_ite] at hw
          split at hw
          · exact .inl (Option.some.inj hw).symm
          · rename_i hne
            exact .inr ⟨mark, by rw [List.mem_cons, not_or]; exact ⟨hne, hmark⟩, hw⟩

/-- No warning is repeated that always bears the same mark. -/
theorem nodup_firstOfEach {met : List String} {ps : List (String × Warning)}
    (hmark : ∀ p ∈ ps, ∀ q ∈ ps, p.2 = q.2 → p.1 = q.1) : (firstOfEach met ps).Nodup := by
  induction ps generalizing met with
  | nil => exact List.nodup_nil
  | cons p ps ih =>
      obtain ⟨first, v⟩ := p
      have hrest : ∀ met, (firstOfEach met ps).Nodup := fun met =>
        ih fun p hp q hq => hmark p (List.mem_cons_of_mem _ hp) q (List.mem_cons_of_mem _ hq)
      rw [firstOfEach]
      split
      · exact hrest met
      · refine List.nodup_cons.mpr ⟨fun hv => ?_, hrest _⟩
        obtain ⟨mark, hmet, hlookup⟩ := mem_firstOfEach.mp hv
        have hp := List.mem_cons_of_mem (first, v) (Table.mem_of_lookup hlookup)
        have he : mark = first := hmark _ hp _ List.mem_cons_self rfl
        exact hmet (he ▸ List.mem_cons_self)

/-! ## Marks of declarations -/

theorem mem_declaredNames {kind : Kind} {ds : List Declaration} {n : String} :
    n ∈ declaredNames kind ds ↔ ∃ d ∈ ds, d.kind = kind ∧ d.name = n := by
  simp only [declaredNames, List.mem_map, List.mem_filter, decide_eq_true_eq, and_assoc]

/-- How an unused name is marked. -/
def Kind.mark : Kind → String → String
  | .rule, n => s!"@{n}"
  | _, n => n

/-- The warning about an unused name. -/
def Warning.unused : Kind → String → Warning
  | .rule, n => .unusedRule n
  | _, n => .unusedArray n

theorem Warning.unused_inj {kind kind' : Kind} {n m : String} (hk : kind ≠ .state) (hk' : kind' ≠ .state)
    (h : Warning.unused kind n = .unused kind' m) : kind = kind' ∧ n = m := by
  cases kind <;> cases kind' <;> first | exact absurd rfl hk | exact absurd rfl hk' | cases h <;> exact ⟨rfl, rfl⟩

/-- The warning about a declaration whose name is in neither list of used names, with its mark. -/
def markedWarning? (arrays rules : List String) : Declaration → Option (String × Warning)
  | .array n _ => if n ∈ arrays then none else some (n, .unusedArray n)
  | .rule n _ => if n ∈ rules then none else some (s!"@{n}", .unusedRule n)
  | .state _ => none

theorem unusedFrom_eq (arrays rules reported : List String) (ds : List Declaration) :
    unusedFrom arrays rules reported ds = firstOfEach reported (ds.filterMap (markedWarning? arrays rules)) := by
  induction ds generalizing reported with
  | nil => rfl
  | cons d ds ih =>
      cases d with
      | array n gs =>
          rw [unusedFrom, ih, ih, List.filterMap_cons]
          by_cases hn : n ∈ arrays
          · simp [markedWarning?, hn]
          · by_cases hm : n ∈ reported <;> simp [markedWarning?, firstOfEach, hn, hm]
      | rule n body =>
          rw [unusedFrom, ih, ih, List.filterMap_cons]
          by_cases hn : n ∈ rules
          · simp [markedWarning?, hn]
          · by_cases hm : s!"@{n}" ∈ reported <;> simp [markedWarning?, firstOfEach, hn, hm]
      | state s => exact ih reported

/-! ## Unused names -/

theorem unused_array_iff {ds : List Declaration} {n : String} : Unused ds .array n ↔ n ∉ usedArrays ds := by
  refine ⟨fun h hn => ?_, unused_of_notMem_usedArrays⟩
  obtain ⟨d, hd, hn⟩ := List.mem_flatMap.mp hn
  rcases List.mem_append.mp hn with hn | hn
  · cases d with
    | state s =>
        obtain ⟨name, source, rule, count⟩ := s
        cases source with
        | name m =>
            have he : n = m := by simpa [sourceName?] using hn
            exact h.source _ hd (by rw [he]) rfl
        | groups gs => simp [sourceName?] at hn
    | array m gs => simp [sourceName?] at hn
    | rule m body => simp [sourceName?] at hn
  · obtain ⟨i, hi, he⟩ := List.mem_filterMap.mp hn
    cases i with
    | arrayRef m => cases he; exact h.items d hd _ hi rfl
    | inline g => cases he
    | ruleRef m => cases he

theorem unused_rule_iff {ds : List Declaration} {n : String} : Unused ds .rule n ↔ n ∉ usedRules ds := by
  refine ⟨fun h hn => ?_, unused_of_notMem_usedRules⟩
  obtain ⟨d, hd, hn⟩ := List.mem_flatMap.mp hn
  obtain ⟨i, hi, he⟩ := List.mem_filterMap.mp hn
  cases i with
  | ruleRef m => cases he; exact h.items d hd _ hi rfl
  | inline g => cases he
  | arrayRef m => cases he

theorem markedWarning?_eq_some_iff {ds : List Declaration} {d : Declaration} {p : String × Warning} :
    markedWarning? (usedArrays ds) (usedRules ds) d = some p ↔
      Unused ds d.kind d.name ∧ p = (d.kind.mark d.name, .unused d.kind d.name) := by
  cases d with
  | array n gs =>
      change _ ↔ Unused ds .array n ∧ p = (n, .unusedArray n)
      rw [unused_array_iff, markedWarning?]
      by_cases hn : n ∈ usedArrays ds <;> simp [hn, eq_comm]
  | rule n body =>
      change _ ↔ Unused ds .rule n ∧ p = (s!"@{n}", .unusedRule n)
      rw [unused_rule_iff, markedWarning?]
      by_cases hn : n ∈ usedRules ds <;> simp [hn, eq_comm]
  | state s => exact ⟨fun h => (by cases h), fun h => absurd rfl h.1.kind_ne⟩

/-! ## What is reported -/

/-- A declared name that nothing refers to. -/
structure Idle (ds : List Declaration) (kind : Kind) (n : String) : Prop where
  declared : n ∈ declaredNames kind ds
  unused : Unused ds kind n

/-- What stands before the first declaration of a name. -/
def beforeFirst (ds : List Declaration) (kind : Kind) (n : String) : List Declaration :=
  ds.takeWhile fun d => ¬ (d.kind = kind ∧ d.name = n)

/-- No declaration of the second name stands before the first of the first name. -/
def DeclaredBefore (ds : List Declaration) (kind : Kind) (n : String) (kind' : Kind) (m : String) : Prop :=
  m ∉ declaredNames kind' (beforeFirst ds kind n)

theorem notMem_beforeFirst {ds : List Declaration} {kind : Kind} {n : String} {d : Declaration}
    (hd : d ∈ beforeFirst ds kind n) : ¬ (d.kind = kind ∧ d.name = n) := by
  have h := List.mem_takeWhile_imp hd
  exact of_decide_eq_true h

theorem beforeFirst_append {before after : List Declaration} {d : Declaration}
    (hbefore : ∀ d' ∈ before, ¬ (d'.kind = d.kind ∧ d'.name = d.name)) :
    beforeFirst (before ++ d :: after) d.kind d.name = before := by
  rw [beforeFirst, List.takeWhile_append_of_pos fun d' hd' => decide_eq_true (hbefore d' hd'),
    List.takeWhile_cons_of_neg (by simp), List.append_nil]

/-- A declared name has a first declaration. -/
theorem exists_first {ds : List Declaration} {kind : Kind} {n : String} (h : n ∈ declaredNames kind ds) :
    ∃ d after, ds = beforeFirst ds kind n ++ d :: after ∧ d.kind = kind ∧ d.name = n := by
  obtain ⟨d, hd, hdn⟩ := mem_declaredNames.mp h
  cases hrest : ds.dropWhile fun d => ¬ (d.kind = kind ∧ d.name = n) with
  | nil =>
      have hall := List.dropWhile_eq_nil_iff.mp hrest d hd
      exact absurd hdn (of_decide_eq_true hall)
  | cons first after =>
      refine ⟨first, after, ?_, ?_⟩
      · rw [beforeFirst, ← hrest, List.takeWhile_append_dropWhile]
      · have hne : (ds.dropWhile fun d => ¬ (d.kind = kind ∧ d.name = n)) ≠ [] := by rw [hrest]; simp
        have hfirst := List.head_dropWhile_not _ hne
        simp only [hrest, List.head_cons] at hfirst
        exact not_not.mp (of_decide_eq_false hfirst)

/-- The first value of a key comes from an element before which no other gives that key. -/
theorem lookup_filterMap_eq_some_iff {f : Declaration → Option (String × Warning)} {ds : List Declaration}
    {mark : String} {w : Warning} : (ds.filterMap f).lookup mark = some w ↔
      ∃ before d after, ds = before ++ d :: after ∧ f d = some (mark, w) ∧
        ∀ d' ∈ before, ∀ p, f d' = some p → p.1 ≠ mark := by
  constructor
  · intro h
    obtain ⟨l₁, l₂, hl, hne⟩ := List.lookup_eq_some_iff.mp h
    obtain ⟨before, rest, rfl, rfl, hrest⟩ := List.filterMap_eq_append_iff.mp hl
    obtain ⟨skipped, d, after, rfl, hskipped, hd, -⟩ := List.filterMap_eq_cons_iff.mp hrest
    refine ⟨before ++ skipped, d, after, by rw [List.append_assoc], hd, ?_⟩
    intro d' hd' p hp
    rcases List.mem_append.mp hd' with hd' | hd'
    · exact (bne_iff_ne.mp (hne p (List.mem_filterMap.mpr ⟨d', hd', hp⟩))).symm
    · rw [hskipped d' hd'] at hp
      cases hp
  · rintro ⟨before, d, after, rfl, hd, hbefore⟩
    refine List.lookup_eq_some_iff.mpr ⟨before.filterMap f, after.filterMap f, ?_, ?_⟩
    · rw [List.filterMap_append, List.filterMap_cons, hd]
    · intro p hp
      obtain ⟨d', hd', he⟩ := List.mem_filterMap.mp hp
      exact bne_iff_ne.mpr (hbefore d' hd' p he).symm

/-- An unused name is reported unless one with the same mark is declared before it. -/
theorem unused_mem_unusedWarnings_iff {ds : List Declaration} {kind : Kind} {n : String} (hk : kind ≠ .state) :
    .unused kind n ∈ unusedWarnings ds ↔ Idle ds kind n ∧
      ∀ kind' m, ¬ (kind' = kind ∧ m = n) → kind'.mark m = kind.mark n → Idle ds kind' m →
        DeclaredBefore ds kind n kind' m := by
  rw [unusedWarnings, unusedFrom_eq, mem_firstOfEach]
  constructor
  · rintro ⟨mark, -, hlookup⟩
    obtain ⟨before, d, after, hds, hd, hbefore⟩ := lookup_filterMap_eq_some_iff.mp hlookup
    obtain ⟨hunused, hp⟩ := markedWarning?_eq_some_iff.mp hd
    obtain ⟨rfl, hw⟩ := Prod.mk.inj hp
    obtain ⟨rfl, rfl⟩ := Warning.unused_inj hk hunused.kind_ne hw
    have hmark : ∀ d' ∈ before, Unused ds d'.kind d'.name → d'.kind.mark d'.name ≠ d.kind.mark d.name :=
      fun d' hd' hu => hbefore d' hd' _ (markedWarning?_eq_some_iff.mpr ⟨hu, rfl⟩)
    refine ⟨⟨mem_declaredNames.mpr ⟨d, by simp [hds], rfl, rfl⟩, hunused⟩, ?_⟩
    intro kind' m _ hsame hidle hm
    -- An earlier declaration of the same name would have been met under the same mark.
    have hfirst : beforeFirst ds d.kind d.name = before := by
      rw [hds]
      refine beforeFirst_append fun d' hd' he => hmark d' hd' ?_ ?_
      · rw [he.1, he.2]; exact hunused
      · rw [he.1, he.2]
    rw [hfirst] at hm
    obtain ⟨d', hd', rfl, rfl⟩ := mem_declaredNames.mp hm
    exact hmark d' hd' hidle.unused hsame
  · rintro ⟨hidle, hbefore⟩
    obtain ⟨d, after, hds, rfl, rfl⟩ := exists_first hidle.declared
    refine ⟨d.kind.mark d.name, by simp, lookup_filterMap_eq_some_iff.mpr ?_⟩
    refine ⟨_, d, after, hds, markedWarning?_eq_some_iff.mpr ⟨hidle.unused, rfl⟩, ?_⟩
    intro d' hd' p hp hsame
    obtain ⟨hunused, rfl⟩ := markedWarning?_eq_some_iff.mp hp
    have hd'ds : d' ∈ ds := by rw [hds]; exact List.mem_append_left _ hd'
    have hidle' : Idle ds d'.kind d'.name := ⟨mem_declaredNames.mpr ⟨d', hd'ds, rfl, rfl⟩, hunused⟩
    exact hbefore _ _ (notMem_beforeFirst hd') hsame hidle' (mem_declaredNames.mpr ⟨d', hd', rfl, rfl⟩)

theorem nodup_unusedWarnings (ds : List Declaration) : (unusedWarnings ds).Nodup := by
  rw [unusedWarnings, unusedFrom_eq]
  refine nodup_firstOfEach fun p hp q hq he => ?_
  obtain ⟨d, -, hd⟩ := List.mem_filterMap.mp hp
  obtain ⟨d', -, hd'⟩ := List.mem_filterMap.mp hq
  obtain ⟨hunused, rfl⟩ := markedWarning?_eq_some_iff.mp hd
  obtain ⟨hunused', rfl⟩ := markedWarning?_eq_some_iff.mp hd'
  obtain ⟨hkind, hname⟩ := Warning.unused_inj hunused.kind_ne hunused'.kind_ne he
  rw [hkind, hname]

/-! ## The messages -/

theorem count_message {w : Warning} (hw : ∀ kind n, w ≠ .duplicate kind n) (ds : List Declaration) :
    ((check ds).warnings.map Warning.message).count w.message = (unusedWarnings ds).count w := by
  have hduplicate : (duplicateWarnings ds).count w = 0 := by
    rw [List.count_eq_zero]
    intro h
    obtain ⟨kind, -, h⟩ := List.mem_flatMap.mp h
    obtain ⟨n, -, he⟩ := List.mem_map.mp h
    exact hw kind n he.symm
  have hsame : ∀ w' ∈ (check ds).warnings, (w'.message == w.message) = (w' == w) := by
    intro w' _
    rw [Bool.eq_iff_iff, beq_iff_eq, beq_iff_eq]
    exact ⟨eq_of_message_eq hw, congrArg _⟩
  have hcount : ((check ds).warnings.map Warning.message).count w.message = (check ds).warnings.count w := by
    rw [List.count, List.countP_map, List.count]
    exact List.countP_congr fun w' hw' => by rw [Function.comp_apply, hsame w' hw']
  rw [hcount, check, List.count_append, hduplicate, Nat.zero_add]

theorem count_message_le_one {w : Warning} (hw : ∀ kind n, w ≠ .duplicate kind n) (ds : List Declaration) :
    ((check ds).warnings.map Warning.message).count w.message ≤ 1 := by
  rw [count_message hw]
  exact List.nodup_iff_count_le_one.mp (nodup_unusedWarnings ds) w

theorem message_mem_iff {w : Warning} (hw : ∀ kind n, w ≠ .duplicate kind n) (ds : List Declaration) :
    w.message ∈ (check ds).warnings.map Warning.message ↔ w ∈ unusedWarnings ds := by
  rw [← List.count_pos_iff, count_message hw, List.count_pos_iff]

/-- An array and a rule share a mark when the name of the array is that of the rule behind an at sign. -/
theorem unusedArray_mem_iff {ds : List Declaration} {n : String} :
    .unusedArray n ∈ unusedWarnings ds ↔ Idle ds .array n ∧
      ∀ m, n = s!"@{m}" → Idle ds .rule m → DeclaredBefore ds .array n .rule m := by
  change Warning.unused .array n ∈ _ ↔ _
  rw [unused_mem_unusedWarnings_iff (by decide)]
  refine and_congr_right fun _ => ⟨fun h m hm => h .rule m (by simp) hm.symm, fun h kind m hne hmark hidle => ?_⟩
  cases kind with
  | array => exact absurd ⟨rfl, hmark⟩ hne
  | rule => exact h m hmark.symm hidle
  | state => exact absurd rfl hidle.unused.kind_ne

theorem unusedRule_mem_iff {ds : List Declaration} {n : String} :
    .unusedRule n ∈ unusedWarnings ds ↔ Idle ds .rule n ∧
      (Idle ds .array s!"@{n}" → DeclaredBefore ds .rule n .array s!"@{n}") := by
  change Warning.unused .rule n ∈ _ ↔ _
  rw [unused_mem_unusedWarnings_iff (by decide)]
  refine and_congr_right fun _ => ⟨fun h => h .array _ (by simp) rfl, fun h kind m hne hmark hidle => ?_⟩
  cases kind with
  | array =>
      have hm : m = s!"@{n}" := hmark
      subst hm
      exact h hidle
  | rule =>
      have hm : m = n := (String.append_right_inj _).mp hmark
      exact absurd ⟨rfl, hm⟩ hne
  | state => exact absurd rfl hidle.unused.kind_ne

theorem unused_of_message_ends {ds : List Declaration} {text : String}
    (h : text ∈ (check ds).warnings.map Warning.message) (hends : ∃ a, text = a ++ "is never used.") :
    ∃ n : String, text = s!"Array '{n}' is never used." ∨ text = s!"Rule '{n}' is never used." := by
  obtain ⟨w, -, rfl⟩ := List.mem_map.mp h
  obtain ⟨a, ha⟩ := hends
  cases w with
  | duplicate kind n =>
      obtain ⟨b, hb⟩ := message_duplicate kind n
      have hsplit : "is never used." = "is never " ++ "used." := by decide
      rw [hsplit, ← String.append_assoc] at ha
      exact absurd (hb.symm.trans ha) (append_ne_append (by decide) (by decide))
  | unusedArray n => exact ⟨n, .inl rfl⟩
  | unusedRule n => exact ⟨n, .inr rfl⟩

/-- A program is warned once of each array and each rule that is declared and never used, except that of an
unused array and an unused rule of that name without its at sign only the one declared first is reported. No
other warning says of a name that it is never used. -/
theorem unused_reported_iff (ds : List Declaration) :
    let messages := (check ds).warnings.map Warning.message
    (∀ n : String, messages.count s!"Array '{n}' is never used." ≤ 1 ∧
      (s!"Array '{n}' is never used." ∈ messages ↔ Idle ds .array n ∧
        ∀ m, n = s!"@{m}" → Idle ds .rule m → DeclaredBefore ds .array n .rule m)) ∧
    (∀ n : String, messages.count s!"Rule '{n}' is never used." ≤ 1 ∧
      (s!"Rule '{n}' is never used." ∈ messages ↔ Idle ds .rule n ∧
        (Idle ds .array s!"@{n}" → DeclaredBefore ds .rule n .array s!"@{n}"))) ∧
    ∀ text ∈ messages, (∃ a, text = a ++ "is never used.") →
      ∃ n : String, text = s!"Array '{n}' is never used." ∨ text = s!"Rule '{n}' is never used." := by
  refine ⟨fun n => ?_, fun n => ?_, fun text h hends => unused_of_message_ends h hends⟩
  · have hw : ∀ kind m, Warning.unusedArray n ≠ .duplicate kind m := by simp
    exact ⟨count_message_le_one hw ds, (message_mem_iff hw ds).trans unusedArray_mem_iff⟩
  · have hw : ∀ kind m, Warning.unusedRule n ≠ .duplicate kind m := by simp
    exact ⟨count_message_le_one hw ds, (message_mem_iff hw ds).trans unusedRule_mem_iff⟩

/-- An array and a rule that are never used, of which the array bears the mark of the rule. -/
def hidingProgram : List Declaration :=
  [.array "@x" [["a"]], .rule "x" (.sequence [.inline ["b"]])]

theorem unused_reported_iff_hidingProgram :
    let messages := (check hidingProgram).warnings.map Warning.message
    (Idle hidingProgram .array "@x" ∧ "Array '@x' is never used." ∈ messages) ∧
    Idle hidingProgram .rule "x" ∧ "Rule 'x' is never used." ∉ messages := by
  have harray : Idle hidingProgram .array "@x" := ⟨by decide, unused_of_notMem_usedArrays (by decide)⟩
  have hrule : Idle hidingProgram .rule "x" := ⟨by decide, unused_of_notMem_usedRules (by decide)⟩
  have hlater : ¬ DeclaredBefore hidingProgram .rule "x" .array "@x" := not_not.mpr (by decide)
  obtain ⟨hfirst, hsecond, -⟩ := unused_reported_iff hidingProgram
  refine ⟨⟨harray, (hfirst "@x").2.mpr ⟨harray, fun m _ _ => ?_⟩⟩, hrule, fun hmem => ?_⟩
  · have hnone : beforeFirst hidingProgram .array "@x" = [] := by decide
    rw [DeclaredBefore, hnone]
    exact List.not_mem_nil
  · exact hlater (((hsecond "x").2.mp hmem).2 harray)

/-- Not every array and rule that is declared and never used is reported. -/
theorem not_every_idle_reported :
    ¬ ∀ (ds : List Declaration) (n : String), Idle ds .rule n →
      ((check ds).warnings.map Warning.message).count s!"Rule '{n}' is never used." = 1 := by
  intro h
  have hx := h hidingProgram "x" ⟨by decide, unused_of_notMem_usedRules (by decide)⟩
  exact absurd hx (by decide)

end HyperEvolve
