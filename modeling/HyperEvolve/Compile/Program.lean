import HyperEvolve.Artifact.Preview
import HyperEvolve.Compile.State
import HyperEvolve.Program.Checks
import HyperEvolve.Program.Resolution

/-!
# Compiling a program

Names are resolved first, then cycles are refused; only a program that passes both is compiled, one
artifact with its preview for each state declaration in order. That fails as well when a count is too
long to be shown, and not with an error of the compiler.
-/

namespace HyperEvolve

structure CompiledState where
  name : String
  artifact : Artifact
  preview : Text
deriving DecidableEq

structure Compilation where
  states : List CompiledState
  warnings : List Warning
deriving DecidableEq

namespace Compilation

/-- Artifacts by state name; a later state of the same name wins. -/
def artifacts (c : Compilation) : Table String Artifact :=
  .ofList (c.states.map fun s => (s.name, s.artifact))

def artifact? (c : Compilation) (name : String) : Option Artifact := c.artifacts.get? name

/-- State names with their previews, for display. -/
def previews (c : Compilation) : List (String × Text) := c.states.map fun s => (s.name, s.preview)

def stateNames (c : Compilation) : List String := c.states.map CompiledState.name

end Compilation

/-- Why a program is not compiled. -/
inductive ProgramError where
  | unresolved (errors : List Unresolved)
  | cyclic (errors : List CycleError)
deriving DecidableEq, Repr

namespace ProgramError

def errors : ProgramError → List String
  | .unresolved es => es.map Unresolved.message
  | .cyclic es => es.map CycleError.message

def title : ProgramError → String
  | .unresolved _ => "Semantic errors"
  | .cyclic _ => "Reference errors"

def message (e : ProgramError) : String :=
  e.title ++ ":\n" ++ "\n".intercalate (e.errors.map ("  " ++ ·))

end ProgramError

/-- A program fails with an error of the compiler, or a count that is too long to be shown passes
through. -/
inductive ProgramFailure where
  | error (error : ProgramError)
  | longCount
deriving DecidableEq, Repr

/-- Every state in order, `none` when one of them has no preview. -/
def compileStates (t : Symbols) : Option (List CompiledState) :=
  t.states.mapM fun s =>
    let artifact := t.compileState s
    artifact.preview?.map fun preview => ⟨s.name, artifact, preview⟩

def compileProgram (ds : List Declaration) : Except ProgramFailure Compilation :=
  let t := Symbols.ofDeclarations ds
  match unresolvedAmong ds t.states with
  | [] =>
    let findings := check ds
    match findings.errors with
    | [] =>
      match compileStates t with
      | some states => .ok ⟨states, findings.warnings⟩
      | none => .error .longCount
    | es => .error (.error (.cyclic es))
  | es => .error (.error (.unresolved es))

end HyperEvolve
