import HyperEvolve.Declaration.Basic
import HyperEvolve.Program.Cycle

/-!
# Reference checks

Cycles among states or among rules are errors, since neither can be unfolded. Names declared more
than once and declarations that nothing refers to are warnings.
-/

namespace HyperEvolve

/-! ## Cycles -/

/-- What a rule refers to: the rules among its items. -/
def ruleTargets (items : List Item) : List String :=
  items.filterMap fun
    | .ruleRef n => some n
    | _ => none

def ruleReferences (ds : List Declaration) : References :=
  .ofList <| ds.filterMap fun
    | .rule n body => some (n, ruleTargets body.items)
    | _ => none

/-- What a state refers to: its source, unless an array of that name ends the chain. -/
def sourceTargets (arrays : List String) : Source → List String
  | .groups _ => []
  | .name n => if n ∈ arrays then [] else [n]

def stateReferences (ds : List Declaration) : References :=
  .ofList <| ds.filterMap fun
    | .state s => some (s.name, sourceTargets (declaredNames .array ds) s.source)
    | _ => none

inductive CycleError where
  | states (path : List String)
  | rules (path : List String)
deriving DecidableEq, Repr

def CycleError.message : CycleError → String
  | .states path => "State reference cycle detected: " ++ " -> ".intercalate path ++ "."
  | .rules path => "Rule reference cycle detected: " ++ " -> ".intercalate path ++ "."

def stateCycle? (ds : List Declaration) : Option (List String) := (stateReferences ds).cycle?

def ruleCycle? (ds : List Declaration) : Option (List String) := (ruleReferences ds).cycle?

/-- At most one cycle of states and one of rules. -/
def cycleErrors (ds : List Declaration) : List CycleError :=
  ((stateCycle? ds).map CycleError.states).toList ++ ((ruleCycle? ds).map CycleError.rules).toList

/-! ## Warnings -/

inductive Warning where
  | duplicate (kind : Kind) (name : String)
  | unusedArray (name : String)
  | unusedRule (name : String)
deriving DecidableEq, Repr

def Warning.message : Warning → String
  | .duplicate kind n => s!"{kind.title} '{n}' is declared more than once; the last declaration wins."
  | .unusedArray n => s!"Array '{n}' is never used."
  | .unusedRule n => s!"Rule '{n}' is never used."

/-- The names that occur again, each at its second occurrence. -/
def repeatedFrom (seen reported : List String) : List String → List String
  | [] => []
  | n :: ns =>
    if n ∈ seen ∧ n ∉ reported then n :: repeatedFrom (n :: seen) (n :: reported) ns
    else repeatedFrom (n :: seen) reported ns

def repeated (names : List String) : List String := repeatedFrom [] [] names

def duplicateWarnings (ds : List Declaration) : List Warning :=
  [Kind.array, .rule, .state].flatMap fun kind =>
    (repeated (declaredNames kind ds)).map (Warning.duplicate kind)

def Item.arrayName? : Item → Option String
  | .arrayRef n => some n
  | _ => none

def Item.ruleName? : Item → Option String
  | .ruleRef n => some n
  | _ => none

def Declaration.sourceName? : Declaration → Option String
  | .state ⟨_, .name n, _, _⟩ => some n
  | _ => none

/-- Array names that an item or a source mentions. -/
def usedArrays (ds : List Declaration) : List String :=
  ds.flatMap fun d => d.sourceName?.toList ++ d.items.filterMap Item.arrayName?

/-- Rule names that an item mentions. -/
def usedRules (ds : List Declaration) : List String :=
  ds.flatMap fun d => d.items.filterMap Item.ruleName?

/-- An unused declaration is reported once. Arrays and rules share one list of reported names, in
which a rule stands with an at sign before its name. -/
def unusedFrom (arrays rules : List String) (reported : List String) :
    List Declaration → List Warning
  | [] => []
  | .array n _ :: ds =>
    if n ∉ arrays ∧ n ∉ reported then .unusedArray n :: unusedFrom arrays rules (n :: reported) ds
    else unusedFrom arrays rules reported ds
  | .rule n _ :: ds =>
    if n ∉ rules ∧ s!"@{n}" ∉ reported then
      .unusedRule n :: unusedFrom arrays rules (s!"@{n}" :: reported) ds
    else unusedFrom arrays rules reported ds
  | .state _ :: ds => unusedFrom arrays rules reported ds

def unusedWarnings (ds : List Declaration) : List Warning :=
  unusedFrom (usedArrays ds) (usedRules ds) [] ds

structure Findings where
  errors : List CycleError
  warnings : List Warning
deriving DecidableEq, Repr

def check (ds : List Declaration) : Findings :=
  ⟨cycleErrors ds, duplicateWarnings ds ++ unusedWarnings ds⟩

end HyperEvolve
