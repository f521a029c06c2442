import HyperEvolve.Artifact.Basic
import HyperEvolve.Declaration.Tree
import HyperEvolve.Document.Reader
import HyperEvolve.Document.Writer

/-!
# The wire text of an artifact

An artifact is stored and sent as a compact document with the fields `hypergraph`, `rule`, `steps`
and `clean`, in this order. Reading takes any field order, skips unknown fields and shows a vertex
that is not a text in its literal form.
-/

namespace HyperEvolve

open Document

/-! ## Writing -/

def Hyperedge.document (e : Hyperedge) : Document :=
  record [("vertices", .array (e.vertices.map Document.text))]

def edgesDocument (es : List Hyperedge) : Document := .array (es.map Hyperedge.document)

def ruleDocument (rule : Table Text (List Hyperedge)) : Document :=
  .object (rule.entries.map fun e => (e.1, edgesDocument e.2))

def stepsDocument : Option Int → Document
  | none => .null
  | some n => .int n

/-- The fields of one level, below the document of its hypergraph. -/
def Layer.document (layer : Layer) (hypergraph : Document) : Document :=
  record [("hypergraph", hypergraph), ("rule", ruleDocument layer.rule),
    ("steps", stepsDocument layer.steps), ("clean", .bool layer.clean)]

def Hypergraph.document : Hypergraph → Document
  | .edges es => edgesDocument es
  | .evolved base layer => layer.document base.document

def Artifact.document (a : Artifact) : Document := a.toLayer.document a.hypergraph.document

def Artifact.serialize (a : Artifact) : String := a.document.compact

/-! ## Reading -/

inductive WireError where
  | notJson (why : Document.Why) (rest input : Text)
  | longInteger (digits : Nat)
  | notObject (found : Document)
  | missingField (name : String)
  | malformedEdge (found : Document)
  | ruleNotObject (found : Document)
  | stepsNotInteger (found : Document)
  | cleanNotBoolean (found : Document)
  | roleNotIterable (found : Document)

def WireError.message : WireError → String
  | .notJson why rest input => "Artifact is not valid JSON: " ++ formMessage why rest input
  | .longInteger digits => Decimal.tooManyDigits digits
  | .notObject found => "Artifact must be a JSON object, got " ++ found.kind
  | .missingField name => s!"Artifact is missing field '{name}'"
  | .malformedEdge found => "Malformed hyperedge: " ++ found.literal
  | .ruleNotObject found => "Artifact 'rule' must be an object, got " ++ found.kind
  | .stepsNotInteger found => "Artifact 'steps' must be an integer or null, got " ++ found.literal
  | .cleanNotBoolean found => "Artifact 'clean' must be a boolean, got " ++ found.literal
  | .roleNotIterable found => s!"'{found.kind}' object is not iterable"

namespace Wire

abbrev Result (α : Type) := Except WireError α

def edge (d : Document) : Result Hyperedge :=
  match d with
  | .object fields =>
    match field? fields "vertices" with
    | some (.array vs) => .ok ⟨vs.map Document.shown⟩
    | _ => .error (.malformedEdge d)
  | _ => .error (.malformedEdge d)

/-- The members that a role lists: items of an array, characters of a text, names of an object. -/
def members : Document → Result (List Document)
  | .array ds => .ok ds
  | .text t => .ok (t.map fun p => .text [p])
  | .object fields => .ok (fields.map fun f => .text f.1)
  | d => .error (.roleNotIterable d)

def roleEdges (d : Document) : Result (List Hyperedge) := do (← members d).mapM edge

def rule : Document → Result (Table Text (List Hyperedge))
  | .object fields => do
    return .ofList (← fields.mapM fun f => do return (f.1, ← roleEdges f.2))
  | d => .error (.ruleNotObject d)

def steps : Document → Result (Option Int)
  | .null => .ok none
  | .int n => .ok (some n)
  | d => .error (.stepsNotInteger d)

def clean : Document → Result Bool
  | .bool b => .ok b
  | d => .error (.cleanNotBoolean d)

def require (fields : List (Text × Document)) (name : String) : Result Document :=
  match field? fields name with
  | some d => .ok d
  | none => .error (.missingField name)

/-- The four fields of one level; all must be present before any is looked into. -/
structure Level where
  hypergraph : Document
  rule : Document
  steps : Document
  clean : Document

def level : Document → Result Level
  | .object fields => do
    return ⟨← require fields "hypergraph", ← require fields "rule", ← require fields "steps",
      ← require fields "clean"⟩
  | d => .error (.notObject d)

def layer (l : Level) : Result Layer := do
  return ⟨← rule l.rule, ← steps l.steps, ← clean l.clean⟩

/-- The depth bounds the nesting of hypergraphs. -/
def hypergraph : Nat → Document → Result Hypergraph
  | _, .array ds => do return .edges (← ds.mapM edge)
  | 0, d => .error (.notObject d)
  | depth + 1, d => do
    let l ← level d
    let base ← hypergraph depth l.hypergraph
    return .evolved base (← layer l)

mutual
/-- Number of values along the longest way down. -/
def depth : Document → Nat
  | .array items => depthItems items + 1
  | .object fields => depthFields fields + 1
  | _ => 1

def depthItems : List Document → Nat
  | [] => 0
  | d :: ds => max (depth d) (depthItems ds)

def depthFields : List (Text × Document) → Nat
  | [] => 0
  | (_, d) :: fs => max (depth d) (depthFields fs)
end

/-- Reads a merged document as an artifact. -/
def artifact (d : Document) : Result Artifact := do
  let l ← level d
  let base ← hypergraph (depth d) l.hypergraph
  return { ← layer l with hypergraph := base }

end Wire

/-- Reads the wire text of an artifact. -/
def Artifact.deserialize (text : Text) : Except WireError Artifact :=
  match Document.read text with
  | .error (.form why rest) => .error (.notJson why rest text)
  | .error (.longInteger digits) => .error (.longInteger digits)
  | .ok d => Wire.artifact d.merged

end HyperEvolve
