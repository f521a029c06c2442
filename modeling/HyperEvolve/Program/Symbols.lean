import HyperEvolve.Declaration.Basic
import HyperEvolve.Table

/-!
# Symbols

The lookups of one program: arrays, rules and states by name. A later declaration of the same kind
and name replaces an earlier one; the list of states keeps them all.
-/

namespace HyperEvolve

structure Symbols where
  arrays : Table String (List Group)
  rules : Table String RuleBody
  /-- States in order of declaration, superseded ones included. -/
  states : List StateDecl
  stateIndex : Table String StateDecl

namespace Symbols

def empty : Symbols := ⟨∅, ∅, [], ∅⟩

def declare (t : Symbols) : Declaration → Symbols
  | .array n gs => { t with arrays := t.arrays.insert n gs }
  | .rule n body => { t with rules := t.rules.insert n body }
  | .state s => { t with states := t.states ++ [s], stateIndex := t.stateIndex.insert s.name s }

def ofDeclarations (ds : List Declaration) : Symbols := ds.foldl declare empty

/-- The last state declared under a name. -/
def state? (t : Symbols) (name : String) : Option StateDecl := t.stateIndex.get? name

end Symbols

end HyperEvolve
