import HyperEvolve.Proofs.Acceptance

/-!
# The last declaration of a name wins

Dropping every declaration that a later one of the same kind and name supersedes leaves the lookups as
they are. An accepted program stays accepted, and the artifact under each name stays the same.
-/

namespace HyperEvolve

/-- Two declarations of one kind and name. -/
def Declaration.SameName (d d' : Declaration) : Prop := d.kind = d'.kind ∧ d.name = d'.name

instance (d d' : Declaration) : Decidable (d.SameName d') :=
  inferInstanceAs (Decidable (d.kind = d'.kind ∧ d.name = d'.name))

/-- For each kind and name only the last declaration. -/
def lastOnly : List Declaration → List Declaration
  | [] => []
  | d :: ds => if ∃ d' ∈ ds, d'.SameName d then lastOnly ds else d :: lastOnly ds

theorem lastOnly_subset {ds : List Declaration} {d : Declaration} (h : d ∈ lastOnly ds) : d ∈ ds := by
  induction ds with
  | nil => exact h
  | cons d' ds ih =>
      rw [lastOnly] at h
      split at h
      · exact List.mem_cons_of_mem _ (ih h)
      · rcases List.mem_cons.mp h with rfl | h
        · exact List.mem_cons_self
        · exact List.mem_cons_of_mem _ (ih h)

open Declaration

/-- What the declarations of one kind write under a name is decided by the last of them. -/
theorem lastWritten_lastOnly {α : Type} {kind : Kind} {pair? : Declaration → Option (String × α)}
    (h : Writes kind pair?) (ds : List Declaration) (n : String) :
    lastWritten pair? (lastOnly ds) n = lastWritten pair? ds n := by
  induction ds with
  | nil => rfl
  | cons d ds ih =>
      rw [lastOnly, h.lastWritten_cons d ds]
      split
      · rename_i hlater
        obtain ⟨d', hd', hk, hn⟩ := hlater
        rw [ih]
        split
        · -- A later declaration of this name has answered already.
          rename_i hd
          have hmem : n ∈ declaredNames kind ds := by
            refine List.mem_map.mpr ⟨d', List.mem_filter.mpr ⟨hd', ?_⟩, hn.trans hd.2⟩
            exact decide_eq_true (hk.trans hd.1)
          rw [Option.or_of_isSome (h.isSome_lastWritten_iff.mpr hmem)]
        · rw [Option.or_none]
      · rw [h.lastWritten_cons, ih]

theorem sameLookups_lastOnly (ds : List Declaration) :
    (Symbols.ofDeclarations (lastOnly ds)).SameLookups (Symbols.ofDeclarations ds) :=
  Symbols.sameLookups_of_lastWritten_eq fun h n => lastWritten_lastOnly h ds n

/-- An accepted program stays accepted without its superseded declarations, with the same artifact
under every name. -/
theorem compileProgram_lastOnly {ds : List Declaration} {c : Compilation} (h : compileProgram ds = .ok c) :
    ∃ c', compileProgram (lastOnly ds) = .ok c' ∧ ∀ n, c'.artifact? n = c.artifact? n := by
  have hsame := sameLookups_lastOnly ds
  obtain ⟨hres, hds, hcounts⟩ := exists_compileProgram_eq_ok_iff.mp ⟨c, h⟩
  obtain ⟨hstates, hrules⟩ := cycles_of_sameLookups hsame
  obtain ⟨c', hc'⟩ : ∃ c', compileProgram (lastOnly ds) = .ok c' := by
    refine exists_compileProgram_eq_ok_iff.mpr ⟨?_, ⟨hrules.mpr hds.rules, hstates.mpr hds.states⟩, ?_⟩
    · intro d hd
      exact hsame.declarationResolves_iff.mpr (hres d (lastOnly_subset hd))
    · exact hcounts.of_subset fun s hs => lastOnly_subset hs
  refine ⟨c', hc', fun n => ?_⟩
  rw [artifact?_of_ok hc', artifact?_of_ok h, hsame.state, hsame.compileState_eq]

/-- Each kind is declared twice under one name; the superseded rule and state refer to themselves. -/
def supersededProgram : List Declaration :=
  [.array "v" [["x"]],
    .rule "r" (.sequence [.ruleRef "r"]),
    .state ⟨"s", .name "s", .item (.ruleRef "r"), some 1⟩,
    .array "v" [["a", "b"], ["b"]],
    .rule "r" (.triple (.arrayRef "v") (.inline []) (.inline ["c"])),
    .state ⟨"s", .name "v", .item (.ruleRef "r"), none⟩,
    .state ⟨"u", .name "s", .items [.ruleRef "r"], some 3⟩]

theorem compileProgram_lastOnly_supersededProgram :
    lastOnly supersededProgram = supersededProgram.drop 3 ∧
    ∃ c, compileProgram supersededProgram = .ok c ∧
      ∃ c', compileProgram (lastOnly supersededProgram) = .ok c' ∧ ∀ n, c'.artifact? n = c.artifact? n :=
  ⟨by decide, _, rfl, compileProgram_lastOnly rfl⟩

end HyperEvolve
