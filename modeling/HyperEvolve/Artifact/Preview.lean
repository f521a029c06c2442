import HyperEvolve.Artifact.Basic
import HyperEvolve.Decimal.Integer
import HyperEvolve.Document.Writer

/-!
# Previews

An artifact as text, one field a line. A hypergraph that evolves another one is shown as an
indented block of the same form. There is no such text when a number of steps has too many digits.
-/

namespace HyperEvolve

namespace Preview

/-- Vertices between commas, in parentheses. -/
def edge (e : Hyperedge) : Text := "(" ++ Text.join "," e.vertices ++ ")"

/-- Hyperedges one after the other; an empty list is shown like a single empty edge. -/
def edges : List Hyperedge → Text
  | [] => "()"
  | es => es.flatMap edge

def indent (depth : Nat) : Text := (List.replicate depth (Text.ofString "  ")).flatten

def role (depth : Nat) (entry : Text × List Hyperedge) : Text :=
  indent (depth + 1) ++ entry.1 ++ ": " ++ edges entry.2

def rule (depth : Nat) (rule : Table Text (List Hyperedge)) : List Text :=
  match rule.entries with
  | [] => [indent depth ++ "rule: -"]
  | entries => (indent depth ++ "rule:") :: entries.map (role depth)

def steps (depth : Nat) : Option Int → Text
  | none => indent depth ++ "steps: -"
  | some n => indent depth ++ "steps: " ++ Text.ofChars (Document.writeInt n)

def layer (depth : Nat) (l : Layer) : List Text := rule depth l.rule ++ [steps depth l.steps]

def hypergraph (depth : Nat) : Hypergraph → List Text
  | .edges es => [indent depth ++ "hypergraph: " ++ edges es]
  | .evolved base l =>
    (indent depth ++ "hypergraph:") :: (hypergraph (depth + 1) base ++ layer (depth + 1) l)

def lines (a : Artifact) : List Text := hypergraph 0 a.hypergraph ++ layer 0 a.toLayer

end Preview

/-- The text of a preview, with every number of steps in full. -/
def Artifact.preview (a : Artifact) : Text := Text.join "\n" (Preview.lines a)

/-- No number of steps has more digits than an integer is written with. -/
def Artifact.HasShortCounts (a : Artifact) : Prop :=
  ∀ n ∈ a.counts, Decimal.width n.natAbs ≤ Decimal.maxDigits

instance (a : Artifact) : Decidable a.HasShortCounts :=
  inferInstanceAs (Decidable (∀ n ∈ a.counts, Decimal.width n.natAbs ≤ Decimal.maxDigits))

/-- The preview of an artifact, `none` when a number of steps is too long to be written. -/
def Artifact.preview? (a : Artifact) : Option Text := if a.HasShortCounts then some a.preview else none

@[simp] theorem Artifact.preview?_eq_some_iff {a : Artifact} {t : Text} :
    a.preview? = some t ↔ a.HasShortCounts ∧ a.preview = t := by
  rw [preview?]
  split <;> simp_all

end HyperEvolve
