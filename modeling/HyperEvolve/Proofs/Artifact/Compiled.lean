import HyperEvolve.Proofs.Artifact.Wire
import HyperEvolve.Proofs.WireShape

/-!
# Compiled artifacts can be read back

The texts of a compiled artifact are strings of the program or names of roles, and its numbers of steps are
counts of the program.
-/

namespace HyperEvolve

open Symbols

/-! ## Where texts and counts stand -/

theorem Layer.mem_texts {l : Layer} {t : Text} (h : t ∈ l.texts) :
    t ∈ l.rule.keys ∨ ∃ e ∈ l.hyperedges, t ∈ e.vertices := by
  obtain ⟨r, hr, ht⟩ := List.mem_flatMap.mp h
  rcases List.mem_cons.mp ht with rfl | ht
  · exact .inl (List.mem_map_of_mem hr)
  · obtain ⟨e, he, ht⟩ := List.mem_flatMap.mp ht
    exact .inr ⟨e, List.mem_flatMap.mpr ⟨r, hr, he⟩, ht⟩

namespace Hypergraph

theorem mem_texts {h : Hypergraph} {t : Text} (ht : t ∈ h.texts) :
    (∃ e ∈ h.ground, t ∈ e.vertices) ∨ ∃ l ∈ h.layers, t ∈ l.texts := by
  induction h with
  | edges es => exact .inl (List.mem_flatMap.mp ht)
  | evolved base l ih =>
      rcases List.mem_append.mp ht with ht | ht
      · rcases ih ht with hground | ⟨l', hl', ht⟩
        · exact .inl hground
        · exact .inr ⟨l', List.mem_cons_of_mem l hl', ht⟩
      · exact .inr ⟨l, List.mem_cons_self, ht⟩

end Hypergraph

/-! ## Compiled artifacts -/

variable {ds : List Declaration}

theorem WireShaped.unpaired {a : Artifact} (h : WireShaped ds a) : ∀ t ∈ a.texts, t.Unpaired := by
  have hedge : ∀ e ∈ a.hyperedges, ∀ t ∈ e.vertices, t.Unpaired := by
    intro e he t ht
    obtain ⟨g, -, hvertices⟩ := h.hyperedges e he
    rw [hvertices] at ht
    obtain ⟨s, -, rfl⟩ := List.mem_map.mp ht
    exact Text.unpaired_ofString s
  have hrole : ∀ t ∈ a.rule.keys, t.Unpaired := by
    have hnames : ∀ t ∈ [Role.left, Role.interface, Role.right, Role.whole], t.Unpaired := by decide
    intro t ht
    rcases h.roles with hkeys | hkeys <;> rw [hkeys] at ht
    · exact hnames t (by simp only [List.mem_cons, List.not_mem_nil, or_false] at ht ⊢; tauto)
    · exact hnames t (by simp only [List.mem_cons, List.not_mem_nil, or_false] at ht ⊢; tauto)
  intro t ht
  -- Below the outermost level there are no roles.
  rcases Hypergraph.mem_texts ht with ⟨e, he, ht⟩ | ⟨l, hl, ht⟩
  · exact hedge e (List.mem_append_right _ he) t ht
  · rcases l.mem_texts ht with hkey | ⟨e, he, ht⟩
    · rcases List.mem_cons.mp hl with rfl | hl
      · exact hrole t hkey
      · rw [h.nested l hl] at hkey
        cases hkey
    · exact hedge e (List.mem_append_left _ (List.mem_flatMap.mpr ⟨l, hl, he⟩)) t ht

/-- Every compiled artifact can be read back. -/
theorem readable_of_compileProgram {c : Compilation} (hc : compileProgram ds = .ok c) {s : CompiledState}
    (hs : s ∈ c.states) : s.artifact.document.Readable := by
  rw [states_of_ok hc] at hs
  obtain ⟨d, hd, rfl⟩ := List.mem_map.mp hs
  have hd := mem_stateDecls.mp hd
  exact Artifact.readable_document (wireShaped_compileState (acyclic_of_ok hc) hd).unpaired
    (hasShortCounts_compileState (shortCounts_of_ok hc) hd)

end HyperEvolve
