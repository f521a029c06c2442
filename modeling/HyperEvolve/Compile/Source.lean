import HyperEvolve.Compile.Program
import HyperEvolve.Parser.Basic

/-!
# Compiling a program text
-/

namespace HyperEvolve

inductive CompileError where
  | parse (error : ParseError)
  | program (error : ProgramError)
deriving DecidableEq, Repr

namespace CompileError

def message : CompileError → String
  | .parse e => "Parse error: " ++ e.message
  | .program e => e.message

/-- Every message collected in the failed run. -/
def errors : CompileError → List String
  | .parse e => ["Parse error: " ++ e.message]
  | .program e => e.errors

end CompileError

/-- A run fails with an error of the compiler, or a failure below the parser or a count that is too long
to be shown passes through. -/
inductive CompileFailure (ε : Type := Escape) where
  | error (error : CompileError)
  | escaped (escape : ε)
  | longCount
deriving DecidableEq, Repr

/-- What a successful run reports: how many states came from how many declarations. -/
structure CompileReport where
  compilation : Compilation
  declared : Nat
deriving DecidableEq

def compileText {ε : Type} (parser : Parser ε) (text : Text) : Except (CompileFailure ε) CompileReport :=
  match parser text with
  | .error (.rejected e) => .error (.error (.parse e))
  | .error (.escaped e) => .error (.escaped e)
  | .ok ds =>
    match compileProgram ds with
    | .ok c => .ok ⟨c, ds.length⟩
    | .error (.error e) => .error (.error (.program e))
    | .error .longCount => .error .longCount

end HyperEvolve
