import HyperEvolve.Artifact.Basic
import HyperEvolve.Program.Unfolding

/-!
# Compiling a state

The rule of a state becomes hyperedges by role, its source a hypergraph. References to rules at the
top of a rule are replaced by their items first; exactly three parts are then left, interface and
right, and any other number stands under a single role.
-/

namespace HyperEvolve

namespace Role

def left : Text := "L"
def interface : Text := "I"
def right : Text := "R"
def whole : Text := "rule"

end Role

namespace Symbols

/-- Replaces a reference to a declared rule by the items of that rule. -/
def expand (t : Symbols) : Item → List Item
  | .ruleRef n =>
    match t.rules.get? n with
    | some body => body.items
    | none => [.ruleRef n]
  | item => [item]

/-- The parts of a rule with one level of rule references replaced. -/
def ruleParts (t : Symbols) (rule : StateRule) : List Item := rule.parts.flatMap t.expand

def compileRule (t : Symbols) (rule : StateRule) : Table Text (List Hyperedge) :=
  match t.ruleParts rule with
  | [l, i, r] =>
    .ofList [(Role.left, edgesOf (t.unfold l)), (Role.interface, edgesOf (t.unfold i)),
      (Role.right, edgesOf (t.unfold r))]
  | parts => .ofList [(Role.whole, edgesOf (t.unfoldAll parts))]

/-- The hypergraph of a source when at most `depth` states are entered on the way down, `none` when
that does not suffice. An array wins over a state of the same name, and a name that is not declared
has no hyperedges. The rule of an entered state is left out. -/
def hypergraphWithin (t : Symbols) : Nat → Source → Option Hypergraph
  | _, .groups gs => some (.edges (edgesOf gs))
  | depth, .name n =>
    match t.arrays.get? n, t.state? n with
    | some gs, _ => some (.edges (edgesOf gs))
    | none, none => some (.edges [])
    | none, some s =>
      match depth with
      | 0 => none
      | depth + 1 =>
        (t.hypergraphWithin depth s.source).map
          (.evolved · ⟨∅, s.count.map Int.ofNat, true⟩)

/-- The hypergraph of a source. Without a cycle the chain of sources enters no state twice. -/
def compileSource (t : Symbols) (source : Source) : Hypergraph :=
  (t.hypergraphWithin t.stateIndex.size source).getD (.edges [])

def compileState (t : Symbols) (s : StateDecl) : Artifact :=
  { rule := t.compileRule s.rule
    steps := s.count.map Int.ofNat
    clean := true
    hypergraph := t.compileSource s.source }

end Symbols

end HyperEvolve
