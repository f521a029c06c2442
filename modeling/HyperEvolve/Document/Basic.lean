import HyperEvolve.Text.CodePoint

/-!
# Documents

The values of the interchange format: numbers are integers of any size or binary numbers, and an
object keeps its fields in the order in which they were written.
-/

namespace HyperEvolve

inductive Document where
  | null
  | bool (b : Bool)
  | int (n : Int)
  | float (x : Float)
  | text (t : Text)
  | array (items : List Document)
  | object (fields : List (Text × Document))

namespace Document

instance : Inhabited Document := ⟨.null⟩

/-- The value of the last field of that name. -/
def field? (fields : List (Text × Document)) (name : Text) : Option Document :=
  (fields.reverse.find? fun f => f.1 = name).map Prod.snd

/-- The field as it stands in a list without repeated names: a later value replaces an earlier one,
which keeps its place. -/
def putField (name : Text) (value : Document) : List (Text × Document) → List (Text × Document)
  | [] => [(name, value)]
  | f :: fs => if f.1 = name then (name, value) :: fs else f :: putField name value fs

def mergeFields (fields : List (Text × Document)) : List (Text × Document) :=
  fields.foldl (fun fs f => putField f.1 f.2 fs) []

mutual
/-- Repeated names of an object merged at every level. -/
def merged : Document → Document
  | .array items => .array (mergedItems items)
  | .object fields => .object (mergeFields (mergedFields fields))
  | d => d

def mergedItems : List Document → List Document
  | [] => []
  | d :: ds => d.merged :: mergedItems ds

def mergedFields : List (Text × Document) → List (Text × Document)
  | [] => []
  | (k, d) :: fs => (k, d.merged) :: mergedFields fs
end

mutual
/-- No text at any level holds a surrogate that stands alone. -/
def isScalar : Document → Bool
  | .text t => t.isScalar
  | .array items => itemsScalar items
  | .object fields => fieldsScalar fields
  | _ => true

def itemsScalar : List Document → Bool
  | [] => true
  | d :: ds => d.isScalar && itemsScalar ds

def fieldsScalar : List (Text × Document) → Bool
  | [] => true
  | (k, d) :: fs => k.isScalar && d.isScalar && fieldsScalar fs
end

mutual
/-- How deep arrays and objects stand in each other. An empty one adds nothing. -/
def nesting : Document → Nat
  | .array items => itemsNesting items
  | .object fields => fieldsNesting fields
  | _ => 0

def itemsNesting : List Document → Nat
  | [] => 0
  | d :: ds => max (d.nesting + 1) (itemsNesting ds)

def fieldsNesting : List (Text × Document) → Nat
  | [] => 0
  | (_, d) :: fs => max (d.nesting + 1) (fieldsNesting fs)
end

end Document

end HyperEvolve
