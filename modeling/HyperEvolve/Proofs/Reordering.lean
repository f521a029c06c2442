import HyperEvolve.Proofs.LastDeclaration

/-!
# The order of declarations

What a lookup answers is decided by the declarations of one kind and name, in their order. Moving
declarations of different names past each other changes no lookup, so it changes neither what is accepted
nor any artifact, and unresolved references are only listed in another order.
-/

namespace HyperEvolve

open Declaration

/-- The same declarations in another order, where those of one kind and name stay in theirs. -/
structure Reordered (ds ds' : List Declaration) : Prop where
  perm : ds.Perm ds'
  order : ∀ d ∈ ds, ds.filter (fun e => e.SameName d) = ds'.filter fun e => e.SameName d

/-! ## Lookups -/

theorem lastWritten_filter_sameName {α : Type} {kind : Kind} {pair? : Declaration → Option (String × α)}
    (h : Writes kind pair?) (ds : List Declaration) {d : Declaration} (hd : d.kind = kind) :
    lastWritten pair? (ds.filter fun e => e.SameName d) d.name = lastWritten pair? ds d.name := by
  induction ds with
  | nil => rfl
  | cons e ds ih =>
      by_cases hs : e.SameName d
      · rw [List.filter_cons_of_pos (by simpa using hs), h.lastWritten_cons, h.lastWritten_cons, ih]
      · have hother : ¬ (e.kind = kind ∧ e.name = d.name) := fun he => hs ⟨he.1.trans hd.symm, he.2⟩
        rw [List.filter_cons_of_neg (by simpa using hs), ih, h.lastWritten_cons, if_neg hother,
          Option.or_none]

namespace Reordered

variable {ds ds' : List Declaration} (h : Reordered ds ds')
include h

theorem symm : Reordered ds' ds where
  perm := h.perm.symm
  order d hd := (h.order d (h.perm.mem_iff.mpr hd)).symm

theorem mem_declaredNames_iff {kind : Kind} {n : String} :
    n ∈ declaredNames kind ds ↔ n ∈ declaredNames kind ds' := ((h.perm.filter _).map _).mem_iff

/-- Under a name that is declared, only the declarations of this name count, and these are the same. -/
theorem lastWritten_eq {α : Type} {kind : Kind} {pair? : Declaration → Option (String × α)}
    (hw : Writes kind pair?) (n : String) : lastWritten pair? ds n = lastWritten pair? ds' n := by
  by_cases hn : n ∈ declaredNames kind ds
  · obtain ⟨d, hd, rfl⟩ := List.mem_map.mp hn
    obtain ⟨hd, hk⟩ := List.mem_filter.mp hd
    have hk : d.kind = kind := of_decide_eq_true hk
    rw [← lastWritten_filter_sameName hw ds hk, h.order d hd, lastWritten_filter_sameName hw ds' hk]
  · have hn' : n ∉ declaredNames kind ds' := fun hn' => hn (h.mem_declaredNames_iff.mpr hn')
    rw [← hw.isSome_lastWritten_iff, Option.not_isSome_iff_eq_none] at hn hn'
    rw [hn, hn']

theorem sameLookups : (Symbols.ofDeclarations ds).SameLookups (Symbols.ofDeclarations ds') :=
  Symbols.sameLookups_of_lastWritten_eq fun hw n => h.lastWritten_eq hw n

end Reordered

/-! ## Unresolved references -/

/-- A check asks a scope only which names it has. -/
theorem Scope.check_congr {scope scope' : Scope} (ha : ∀ n, n ∈ scope.arrays ↔ n ∈ scope'.arrays)
    (hr : ∀ n, n ∈ scope.rules ↔ n ∈ scope'.rules) (hs : ∀ n, n ∈ scope.states ↔ n ∈ scope'.states) :
    scope.check = scope'.check := by
  have hitem : scope.checkItem = scope'.checkItem := by
    funext site item
    cases item <;> simp only [Scope.checkItem, ha, hr]
  have hsource : scope.checkSource = scope'.checkSource := by
    funext state source
    cases source <;> simp only [Scope.checkSource, ha, hs]
  funext d
  cases d <;> simp only [Scope.check, hitem, hsource]

theorem unresolved_perm {ds ds' : List Declaration} (h : ds.Perm ds') :
    (unresolved ds).Perm (unresolved ds') := by
  have hnames : ∀ kind n, n ∈ declaredNames kind ds ↔ n ∈ declaredNames kind ds' :=
    fun kind n => ((h.filter _).map _).mem_iff
  have hstates : ∀ n, n ∈ (stateDecls ds).map StateDecl.name ↔ n ∈ (stateDecls ds').map StateDecl.name :=
    fun n => ((h.filterMap _).map _).mem_iff
  have hcheck : (Scope.ofDeclarations ds (stateDecls ds)).check =
      (Scope.ofDeclarations ds' (stateDecls ds')).check :=
    Scope.check_congr (hnames .array) (hnames .rule) hstates
  rw [unresolved, unresolved, unresolvedAmong, unresolvedAmong, hcheck]
  exact h.flatMap_right _

/-! ## Acceptance and artifacts -/

theorem compileProgram_ok_of_reordered {ds ds' : List Declaration} (h : Reordered ds ds') {c : Compilation}
    (hc : compileProgram ds = .ok c) : ∃ c', compileProgram ds' = .ok c' := by
  obtain ⟨hres, hds, hcounts⟩ := exists_compileProgram_eq_ok_iff.mp ⟨c, hc⟩
  obtain ⟨hstates, hrules⟩ := cycles_of_sameLookups h.sameLookups
  refine exists_compileProgram_eq_ok_iff.mpr ⟨?_, ⟨hrules.mp hds.rules, hstates.mp hds.states⟩, ?_⟩
  · intro d hd
    exact h.sameLookups.declarationResolves_iff.mp (hres d (h.perm.mem_iff.mpr hd))
  · exact hcounts.of_subset fun s hs => h.perm.mem_iff.mpr hs

/-- Declarations of different kinds or names may be moved past each other: the unresolved references, the
verdict of either cycle check, acceptance and the artifact under each name stay the same. -/
theorem compileProgram_reordered {ds ds' : List Declaration} (h : Reordered ds ds') :
    ((unresolved ds').map Unresolved.message).Perm ((unresolved ds).map Unresolved.message) ∧
    (stateCycle? ds' = none ↔ stateCycle? ds = none) ∧
    (ruleCycle? ds' = none ↔ ruleCycle? ds = none) ∧
    ((∃ c', compileProgram ds' = .ok c') ↔ ∃ c, compileProgram ds = .ok c) ∧
    ∀ c c', compileProgram ds = .ok c → compileProgram ds' = .ok c' →
      ∀ n, c'.artifact? n = c.artifact? n := by
  obtain ⟨hstates, hrules⟩ := cycles_of_sameLookups h.sameLookups
  refine ⟨(unresolved_perm h.perm.symm).map _, hstates.symm, hrules.symm, ⟨?_, ?_⟩, ?_⟩
  · rintro ⟨c', hc'⟩
    exact compileProgram_ok_of_reordered h.symm hc'
  · rintro ⟨c, hc⟩
    exact compileProgram_ok_of_reordered h hc
  · intro c c' hc hc' n
    rw [artifact?_of_ok hc', artifact?_of_ok hc, h.sameLookups.state, h.sameLookups.compileState_eq]

/-- Every reference leads to a later declaration, and two names are declared twice. -/
def forwardProgram : List Declaration :=
  [.state ⟨"u", .name "s", .item (.ruleRef "q"), some 2⟩,
    .rule "q" (.sequence [.ruleRef "r", .arrayRef "v"]),
    .state ⟨"s", .groups [], .item (.inline []), none⟩,
    .rule "r" (.sequence [.inline ["x"]]),
    .state ⟨"s", .name "v", .items [.ruleRef "r", .inline ["y"]], none⟩,
    .array "v" [["a"]],
    .array "v" [["a", "b"], ["c"]]]

/-- The same with every reference to an earlier declaration. -/
def backwardProgram : List Declaration :=
  [.array "v" [["a"]],
    .array "v" [["a", "b"], ["c"]],
    .rule "r" (.sequence [.inline ["x"]]),
    .rule "q" (.sequence [.ruleRef "r", .arrayRef "v"]),
    .state ⟨"s", .groups [], .item (.inline []), none⟩,
    .state ⟨"s", .name "v", .items [.ruleRef "r", .inline ["y"]], none⟩,
    .state ⟨"u", .name "s", .item (.ruleRef "q"), some 2⟩]

theorem compileProgram_reordered_forwardProgram :
    Reordered forwardProgram backwardProgram ∧
    ((unresolved backwardProgram).map Unresolved.message).Perm
      ((unresolved forwardProgram).map Unresolved.message) ∧
    (∃ c c', compileProgram forwardProgram = .ok c ∧ compileProgram backwardProgram = .ok c' ∧
      ∀ n, c'.artifact? n = c.artifact? n) := by
  have h : Reordered forwardProgram backwardProgram := ⟨by decide, by decide⟩
  obtain ⟨hmessages, -, -, -, hartifacts⟩ := compileProgram_reordered h
  exact ⟨h, hmessages, _, _, rfl, rfl, hartifacts _ _ rfl rfl⟩

end HyperEvolve
