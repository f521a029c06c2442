import HyperEvolve.Compile.State
import HyperEvolve.Proofs.Traversal

/-!
# States compiled by stages that may fail

Compiling a state goes through three stages: references at the top of its rule are expanded, items are
unfolded, and its source is compiled. Stages that give what the compiler gives wherever it asks them
give its artifact.
-/

namespace HyperEvolve

/-- The stages of compiling a state, each of which may have no result. -/
structure Stages where
  expand : Item → Option (List Item)
  unfold : Item → Option (List Group)
  source : Source → Option Hypergraph

namespace Stages

/-- The rule of a state, by role. -/
def rule (st : Stages) (rule : StateRule) : Option (Table Text (List Hyperedge)) := do
  match (← rule.parts.mapM st.expand).flatten with
  | [l, i, r] =>
    return .ofList [(Role.left, edgesOf (← st.unfold l)), (Role.interface, edgesOf (← st.unfold i)),
      (Role.right, edgesOf (← st.unfold r))]
  | parts => return .ofList [(Role.whole, edgesOf (← parts.mapM st.unfold).flatten)]

def state (st : Stages) (s : StateDecl) : Option Artifact := do
  let hypergraph ← st.source s.source
  let rule ← st.rule s.rule
  return { rule, steps := s.count.map Int.ofNat, clean := true, hypergraph }

variable {st : Stages} {t : Symbols}

theorem rule_eq_some {rule : StateRule} (hexpand : ∀ i ∈ rule.parts, st.expand i = some (t.expand i))
    (hunfold : ∀ i ∈ t.ruleParts rule, st.unfold i = some (t.unfold i)) :
    st.rule rule = some (t.compileRule rule) := by
  have hparts : rule.parts.mapM st.expand = some (rule.parts.map t.expand) := mapM_eq_pure_map hexpand
  have hflat : (rule.parts.map t.expand).flatten = t.ruleParts rule := List.flatMap_def.symm
  rw [Stages.rule, hparts, Symbols.compileRule]
  simp only [Option.bind_eq_bind, Option.bind_some, hflat]
  generalize t.ruleParts rule = parts at hunfold ⊢
  have hall : parts.mapM st.unfold = some (parts.map t.unfold) := mapM_eq_pure_map hunfold
  have hwhole : (do return .ofList [(Role.whole, edgesOf (← parts.mapM st.unfold).flatten)]) =
      some (Table.ofList [(Role.whole, edgesOf (t.unfoldAll parts))]) := by
    rw [hall, Symbols.unfoldAll, List.flatMap_def]
    rfl
  rcases parts with _ | ⟨l, _ | ⟨i, _ | ⟨r, _ | ⟨x, parts⟩⟩⟩⟩
  · exact hwhole
  · exact hwhole
  · exact hwhole
  · simp only [hunfold l (by simp), hunfold i (by simp), hunfold r (by simp), Option.bind_some]
    rfl
  · exact hwhole

theorem state_eq_some {s : StateDecl} (hexpand : ∀ i ∈ s.rule.parts, st.expand i = some (t.expand i))
    (hunfold : ∀ i ∈ t.ruleParts s.rule, st.unfold i = some (t.unfold i))
    (hsource : st.source s.source = some (t.compileSource s.source)) :
    st.state s = some (t.compileState s) := by
  rw [state, hsource, rule_eq_some hexpand hunfold]
  rfl

end Stages

/-- An artifact depends on the lookups only through the three stages at the places where they are asked. -/
theorem Symbols.compileState_congr {t t' : Symbols} {s : StateDecl}
    (hexpand : ∀ i ∈ s.rule.parts, t'.expand i = t.expand i)
    (hunfold : ∀ i ∈ t.ruleParts s.rule, t'.unfold i = t.unfold i)
    (hsource : t'.compileSource s.source = t.compileSource s.source) :
    t'.compileState s = t.compileState s := by
  let st : Stages := ⟨fun i => some (t'.expand i), fun i => some (t'.unfold i), fun src => some (t'.compileSource src)⟩
  have h' : st.state s = some (t'.compileState s) :=
    Stages.state_eq_some (fun _ _ => rfl) (fun _ _ => rfl) rfl
  have h : st.state s = some (t.compileState s) :=
    Stages.state_eq_some (fun i hi => congrArg some (hexpand i hi)) (fun i hi => congrArg some (hunfold i hi))
      (congrArg some hsource)
  exact Option.some.inj (h'.symm.trans h)

end HyperEvolve
