/-!
# Declarations

A program is a list of declarations: arrays of vertex groups, rules built from items, and states
that pair a source with a rule.
-/

namespace HyperEvolve

/-- An ordered list of vertex labels; each group becomes one hyperedge. -/
abbrev Group := List String

/-- One element of a rule: a literal group or a reference to an array or a rule. -/
inductive Item where
  | inline (group : Group)
  | arrayRef (name : String)
  | ruleRef (name : String)
deriving DecidableEq, Repr, Inhabited

/-- The body of a rule. A triple stays a triple whatever its parts are. -/
inductive RuleBody where
  | triple (left interface right : Item)
  | sequence (items : List Item)
deriving DecidableEq, Repr, Inhabited

namespace RuleBody

/-- The items in order; left, interface and right of a triple. -/
def items : RuleBody → List Item
  | .triple left interface right => [left, interface, right]
  | .sequence items => items

end RuleBody

/-- What a state evolves by: a rule body, one item or a list of items. -/
inductive StateRule where
  | body (body : RuleBody)
  | item (item : Item)
  | items (items : List Item)
deriving DecidableEq, Repr, Inhabited

namespace StateRule

/-- The items in order. -/
def parts : StateRule → List Item
  | .body b => b.items
  | .item i => [i]
  | .items is => is

end StateRule

/-- Where a state starts: literal groups, or the name of an array or of another state. -/
inductive Source where
  | groups (groups : List Group)
  | name (name : String)
deriving DecidableEq, Repr, Inhabited

structure StateDecl where
  name : String
  source : Source
  rule : StateRule
  /-- Number of steps; without one the choice is left to the service. -/
  count : Option Nat
deriving DecidableEq, Repr, Inhabited

inductive Declaration where
  | array (name : String) (groups : List Group)
  | rule (name : String) (body : RuleBody)
  | state (decl : StateDecl)
deriving DecidableEq, Repr, Inhabited

/-- The three namespaces of a program. -/
inductive Kind where
  | array
  | rule
  | state
deriving DecidableEq, Repr, Inhabited

def Kind.title : Kind → String
  | .array => "Array"
  | .rule => "Rule"
  | .state => "State"

namespace Declaration

def name : Declaration → String
  | .array n _ => n
  | .rule n _ => n
  | .state s => s.name

def kind : Declaration → Kind
  | .array .. => .array
  | .rule .. => .rule
  | .state _ => .state

/-- The items written in a declaration; an array has none. -/
def items : Declaration → List Item
  | .array .. => []
  | .rule _ body => body.items
  | .state s => s.rule.parts

/-- The number of steps that a declaration asks for. -/
def counts : Declaration → List Nat
  | .state s => s.count.toList
  | _ => []

end Declaration

/-- Names declared in one namespace, in order and with repetitions. -/
def declaredNames (kind : Kind) (ds : List Declaration) : List String :=
  (ds.filter fun d => d.kind = kind).map Declaration.name

end HyperEvolve
