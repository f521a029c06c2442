import HyperEvolve.Proofs.Acceptance
import HyperEvolve.Proofs.Declaration.RoundTrip

/-!
# How compiling a program ends

The cycle checks refuse exactly the programs on which a recursion would not end, so compiling always ends. It
ends with a compilation, with an error of the compiler, or, when all names resolve and nothing is refused, at a
count that is too long to be shown.
-/

namespace HyperEvolve

def cycleErrorsWithin (depth : Nat) (ds : List Declaration) : Option (List CycleError) := do
  let states ← (stateReferences ds).cycleWithin depth
  let rules ← (ruleReferences ds).cycleWithin depth
  return (states.map CycleError.states).toList ++ (rules.map CycleError.rules).toList

/-- Compiles a program when no recursion on the way enters more than `depth` levels, `none` when one
does. Every state is compiled, also behind one that cannot be shown. -/
def compileProgramWithin (depth : Nat) (ds : List Declaration) :
    Option (Except ProgramFailure Compilation) := do
  let t := Symbols.ofDeclarations ds
  match unresolvedAmong ds t.states with
  | [] =>
    match ← cycleErrorsWithin depth ds with
    | [] =>
      let compiled ← t.states.mapM fun s =>
        ((t.stagesWithin depth).state s).map fun a => a.preview?.map fun p => (⟨s.name, a, p⟩ : CompiledState)
      match compiled.mapM id with
      | some states => return .ok ⟨states, (check ds).warnings⟩
      | none => return .error .longCount
    | es => return .error (.error (.cyclic es))
  | es => return .error (.error (.unresolved es))

theorem compileProgramWithin_eq {ds : List Declaration} {depth : Nat}
    (hrules : (Symbols.ofDeclarations ds).rules.size + 1 ≤ depth)
    (hstates : (Symbols.ofDeclarations ds).stateIndex.size + 1 ≤ depth) :
    compileProgramWithin depth ds = some (compileProgram ds) := by
  have hcycles : cycleErrorsWithin depth ds = some (cycleErrors ds) := by
    rw [cycleErrorsWithin, References.cycleWithin_eq, References.cycleWithin_eq]
    · rfl
    · rwa [ruleReferences_eq, Table.size_map]
    · rwa [stateReferences_eq, Table.size_map]
  cases hu : unresolvedAmong ds (Symbols.ofDeclarations ds).states with
  | cons e es => simp only [compileProgramWithin, compileProgram, hu]; rfl
  | nil =>
      cases hc : cycleErrors ds with
      | cons e es =>
          simp only [compileProgramWithin, compileProgram, hu, hcycles, check, hc]
          rfl
      | nil =>
          obtain ⟨hs, hr⟩ := cycleErrors_eq_nil_iff.mp hc
          let shown (s : StateDecl) : Option CompiledState :=
            ((Symbols.ofDeclarations ds).compileState s).preview?.map
              (⟨s.name, (Symbols.ofDeclarations ds).compileState s, ·⟩)
          have hmap : (Symbols.ofDeclarations ds).states.mapM (fun s =>
              (((Symbols.ofDeclarations ds).stagesWithin depth).state s).map fun a =>
                a.preview?.map fun p => (⟨s.name, a, p⟩ : CompiledState)) =
              some ((Symbols.ofDeclarations ds).states.map shown) := by
            refine mapM_eq_pure_map fun s _ => ?_
            rw [Symbols.state_stagesWithin hr hs (by omega) (by omega)]
            rfl
          have hstates : ((Symbols.ofDeclarations ds).states.map shown).mapM id =
              compileStates (Symbols.ofDeclarations ds) := List.mapM_map
          simp only [compileProgramWithin, compileProgram, hu, hcycles, check, hc, Option.bind_eq_bind,
            Option.bind_some, hmap, hstates]
          cases compileStates (Symbols.ofDeclarations ds) <;> rfl

/-- The cycle checks refuse exactly the programs on which unfolding an item or compiling a source does not end,
so that compiling a program always ends. A program that is neither compiled nor refused has no unresolved name,
no cycle, and a state whose count is too long to be shown. -/
theorem cycle_checks_exact (ds : List Declaration) :
    (ruleCycle? ds = none ↔ ∀ item, (Symbols.ofDeclarations ds).UnfoldEnds item) ∧
    (ruleCycle? ds = none ↔ WellFounded (Symbols.ofDeclarations ds).ItemCall) ∧
    (stateCycle? ds = none ↔ ∀ source, (Symbols.ofDeclarations ds).SourceEnds source) ∧
    (∃ bound, ∀ depth, bound ≤ depth → compileProgramWithin depth ds = some (compileProgram ds)) ∧
    ((∃ c, compileProgram ds = .ok c) ∨ (∃ e, compileProgram ds = .error (.error e)) ↔
      ¬ (unresolvedAmong ds (stateDecls ds) = [] ∧ (check ds).errors = [] ∧
        ∃ s n, .state s ∈ ds ∧ s.count = some n ∧ Decimal.maxDigits < Decimal.width n)) := by
  refine ⟨Symbols.ruleCycle?_eq_none_iff_ends, Symbols.ruleCycle?_eq_none_iff_wellFounded,
    Symbols.stateCycle?_eq_none_iff_ends, ?_, ?_⟩
  · refine ⟨(Symbols.ofDeclarations ds).rules.size + (Symbols.ofDeclarations ds).stateIndex.size + 1, ?_⟩
    intro depth hd
    exact compileProgramWithin_eq (by omega) (by omega)
  · have hlong : (∃ s n, Declaration.state s ∈ ds ∧ s.count = some n ∧ Decimal.maxDigits < Decimal.width n) ↔
        ¬ ShortCounts ds := by
      simp only [ShortCounts, mem_counts_iff, not_forall, Nat.not_le, exists_prop]
      constructor
      · rintro ⟨s, n, hs, hcount, hn⟩
        exact ⟨n, ⟨s, hs, hcount⟩, hn⟩
      · rintro ⟨n, ⟨s, hs, hcount⟩, hn⟩
        exact ⟨s, n, hs, hcount, hn⟩
    rw [hlong, ← Symbols.states_ofDeclarations, ← compileProgram_eq_longCount_iff]
    cases compileProgram ds with
    | ok c => simp
    | error e => cases e <;> simp

/-- Without an unresolved name or a cycle, a count that is too long still keeps a program from being compiled,
and it is no error of the compiler. -/
theorem compileProgram_overlongCount :
    (∀ c, compileProgram overlongCount ≠ .ok c) ∧ ∀ e, compileProgram overlongCount ≠ .error (.error e) := by
  rw [compileProgram_eq_longCount_iff.mpr ⟨rfl, rfl, long_overlongCount⟩]
  constructor
  · intro c h
    cases h
  · intro e h
    cases h

end HyperEvolve
