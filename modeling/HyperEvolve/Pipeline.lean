import HyperEvolve.Decimal.Fixed
import HyperEvolve.Text.Case

/-!
# The check pipeline

Named steps, each a command. Steps are chosen by the start of their names, all are run in order
whatever the earlier ones said, and a summary closes the report.
-/

namespace HyperEvolve

namespace Pipeline

structure Step where
  name : String
  command : List String
deriving DecidableEq, Repr

def steps : List Step := [
  ⟨"Format check", ["uv", "run", "ruff", "format", "--check", "src/", "tests/", "tools/"]⟩,
  ⟨"Lint", ["uv", "run", "ruff", "check", "src/", "tests/", "tools/"]⟩,
  ⟨"Type check", ["uv", "run", "ty", "check", "src/"]⟩,
  ⟨"Tests", ["uv", "run", "pytest", "--cov=hyperlir", "--cov-report=term-missing"]⟩,
  ⟨"Build", ["uv", "build"]⟩]

/-- The steps whose names start with one of the words, all when there is none. -/
def select (words : List Text) : List Step :=
  if words.isEmpty then steps
  else steps.filter fun s => words.any fun w => (Text.lower w).isPrefixOf (Text.lower s.name)

/-- How one command ended, and how long it took. -/
structure Ending where
  code : Int
  milliseconds : Nat
deriving DecidableEq, Repr

structure Result where
  name : String
  passed : Bool
  seconds : Float

def separator : String := String.ofList (List.replicate 60 '=')

def banner (title : String) : String := "\n" ++ separator ++ "\n" ++ title ++ "\n" ++ separator ++ "\n"

/-- A reading of a clock that has run for some milliseconds. -/
def reading (milliseconds : Nat) : Float := Decimal.nearest milliseconds 1000

def summaryLine (r : Result) : String :=
  "  " ++ (if r.passed then "PASS" else "FAIL") ++ s!"  {r.name} ({Decimal.fixedFloat 1 r.seconds}s)\n"

structure Report where
  exit : Nat
  commands : List (List String)
  output : String
deriving DecidableEq, Repr

/-- The results of steps that start at a time; `ending i` is how the command with number `i` ends. How
long a step takes is the difference of two readings. -/
def resultsFrom (ending : Nat → Ending) (index start : Nat) : List Step → List Result
  | [] => []
  | s :: ss =>
    let e := ending index
    let stop := start + e.milliseconds
    ⟨s.name, e.code = 0, reading stop - reading start⟩ :: resultsFrom ending (index + 1) stop ss

/-- Runs the chosen steps; `ending i` is how the command with number `i` ends. -/
def run (words : List Text) (ending : Nat → Ending) : Report :=
  let chosen := select words
  let results := resultsFrom ending 0 0 chosen
  { exit := if results.all Result.passed then 0 else 1
    commands := chosen.map Step.command
    output := String.join (chosen.map fun s => banner s.name) ++ banner "  Summary" ++
      String.join (results.map summaryLine) ++ "\n" }

end Pipeline

end HyperEvolve
