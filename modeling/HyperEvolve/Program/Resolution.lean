import HyperEvolve.Declaration.Basic

/-!
# Resolution of names

Every reference in a rule or a state must name something declared: an array, a rule, or for the
source of a state an array or a state. All violations are listed, in order of declaration.
-/

namespace HyperEvolve

/-- The declaration in which a reference stands. -/
inductive Site where
  | rule (name : String)
  | state (name : String)
deriving DecidableEq, Repr

def Site.text : Site → String
  | .rule n => s!"rule '{n}'"
  | .state n => s!"state '{n}'"

/-- A reference that names nothing. -/
inductive Unresolved where
  | array (name : String) (site : Site)
  | rule (name : String) (site : Site)
  | source (name : String) (state : String)
deriving DecidableEq, Repr

def Unresolved.message : Unresolved → String
  | .array n site => s!"Unknown variable '{n}' in {site.text}"
  | .rule n site => s!"Unknown rule '{n}' in {site.text}"
  | .source n state => s!"Unknown variable or state '{n}' in state '{state}'"

/-- The names that references may use. -/
structure Scope where
  arrays : List String
  rules : List String
  states : List String

namespace Scope

/-- The scope of a program, with the given states. -/
def ofDeclarations (ds : List Declaration) (states : List StateDecl) : Scope :=
  ⟨declaredNames .array ds, declaredNames .rule ds, states.map StateDecl.name⟩

def checkItem (scope : Scope) (site : Site) : Item → List Unresolved
  | .inline _ => []
  | .arrayRef n => if n ∈ scope.arrays then [] else [.array n site]
  | .ruleRef n => if n ∈ scope.rules then [] else [.rule n site]

def checkSource (scope : Scope) (state : String) : Source → List Unresolved
  | .groups _ => []
  | .name n => if n ∈ scope.arrays ∨ n ∈ scope.states then [] else [.source n state]

def check (scope : Scope) : Declaration → List Unresolved
  | .array .. => []
  | .rule n body => body.items.flatMap (scope.checkItem (.rule n))
  | .state s =>
    s.rule.parts.flatMap (scope.checkItem (.state s.name)) ++ scope.checkSource s.name s.source

end Scope

/-- The state declarations of a program, in order. -/
def stateDecls (ds : List Declaration) : List StateDecl :=
  ds.filterMap fun
    | .state s => some s
    | _ => none

/-- The references that name nothing; `states` are the states that sources may name. -/
def unresolvedAmong (ds : List Declaration) (states : List StateDecl) : List Unresolved :=
  ds.flatMap (Scope.ofDeclarations ds states).check

/-- The references of a program that name nothing in it. -/
def unresolved (ds : List Declaration) : List Unresolved := unresolvedAmong ds (stateDecls ds)

end HyperEvolve
