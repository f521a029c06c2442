import HyperEvolve.Yaml.Value

/-!
# From nodes to values

A scalar has its value as soon as it is met. A collection is first met empty and queued, and filled
when its turn comes, so of two faults the one that is met first in this order counts. A node that
stands in several places is looked at once.
-/

namespace HyperEvolve

namespace Yaml

/-- What a collection holds. -/
inductive Members where
  | list (items : List Value)
  | map (entries : List (Value × Value))
  | set

/-- Nodes and what is known of their values. -/
structure Builder where
  nodes : Nodes
  values : List (NodeId × Value)
  /-- Collections that are still empty, in the order in which they were met. -/
  queue : List NodeId
  members : List (NodeId × Members)

abbrev Build := StateT Builder (Except Fault)

namespace Build

def refuse {α : Type} : Build α := throw .malformed

def node (id : NodeId) : Build Node := do
  match (← get).nodes[id]? with
  | some n => return n
  | none => refuse

def setNode (id : NodeId) (n : Node) : Build Unit :=
  modify fun b => { b with nodes := b.nodes.modify id fun _ => n }

/-- The text of a scalar; a mapping has that of the first value under a default key. -/
def scalarText : (fuel : Nat) → NodeId → Build Text
  | 0, _ => refuse
  | fuel + 1, id => do
    match (← node id).content with
    | .scalar t => return t
    | .sequence _ => refuse
    | .mapping entries =>
      match ← entries.findM? fun e => do return (← node e.1).kind = .default with
      | some e => scalarText fuel e.2
      | none => refuse

def isCollection : Kind → Bool
  | .sequence | .mapping | .orderedPairs | .pairs | .set => true
  | _ => false

def isScalar : Content → Bool
  | .scalar _ => true
  | _ => false

/-- The value of a node, which is remembered. -/
def value (id : NodeId) : Build Value := do
  let b ← get
  match b.values.lookup id with
  | some v => return v
  | none =>
    let n ← node id
    if isCollection n.kind then
      modify fun b => { b with values := (id, .collection id) :: b.values, queue := b.queue ++ [id] }
      return .collection id
    else if !Value.isScalarKind n.kind then refuse
    else
      let t ← scalarText (b.nodes.size + 1) id
      if n.kind = .timestamp && !isScalar n.content then throw .notText
      let v ← Value.ofScalar n.kind t
      modify fun b => { b with values := (id, v) :: b.values }
      return v

/-! ## Merging -/

def entriesOf (id : NodeId) : Build (List (NodeId × NodeId)) := do
  match (← node id).content with
  | .mapping entries => return entries
  | _ => refuse

def setEntries (id : NodeId) (entries : List (NodeId × NodeId)) : Build Unit := do
  setNode id { (← node id) with content := .mapping entries }

mutual
/-- Replaces the merge keys of a mapping by the entries they bring in, which stand in front of its
own. A key that is a lone equals sign is a text from now on. `fuel` bounds the nesting. -/
def flatten : (fuel : Nat) → NodeId → Build Unit
  | 0, _ => refuse
  | fuel + 1, id => do
    let merged ← flattenFrom fuel id 0
    setEntries id (merged ++ (← entriesOf id))

/-- What the merge keys from an index on bring in; they are removed. -/
def flattenFrom : (fuel : Nat) → NodeId → (index : Nat) → Build (List (NodeId × NodeId))
  | 0, _, _ => refuse
  | fuel + 1, id, index => do
    let entries ← entriesOf id
    match entries[index]? with
    | none => return []
    | some (key, value) =>
      let k ← node key
      if k.kind = .merge then
        setEntries id (entries.eraseIdx index)
        let first ← mergedEntries fuel value
        return first ++ (← flattenFrom fuel id index)
      else
        if k.kind = .default then setNode key { k with kind := .text }
        flattenFrom fuel id (index + 1)

/-- The entries of a mapping, or of the mappings of a sequence, the last one first. -/
def mergedEntries : (fuel : Nat) → NodeId → Build (List (NodeId × NodeId))
  | 0, _ => refuse
  | fuel + 1, id => do
    match (← node id).content with
    | .scalar _ => refuse
    | .mapping _ =>
      flatten fuel id
      entriesOf id
    | .sequence items =>
      let parts ← mergedItems fuel items
      return parts.reverse.flatten

def mergedItems : (fuel : Nat) → List NodeId → Build (List (List (NodeId × NodeId)))
  | 0, _ => refuse
  | _ + 1, [] => return []
  | fuel + 1, id :: ids => do
    let _ ← entriesOf id
    flatten fuel id
    let entries ← entriesOf id
    return entries :: (← mergedItems fuel ids)
end

/-! ## Collections -/

/-- A bound for everything that merging walks through. -/
def mergeFuel (nodes : Nodes) : Nat :=
  let size (n : Node) : Nat := match n.content with
    | .scalar _ => 1
    | .sequence items => items.length + 1
    | .mapping entries => entries.length + 1
  let total := nodes.foldl (fun sum n => sum + size n) 8
  4 * total * total

/-- The entries of a mapping as values. -/
def mapping (id : NodeId) : Build (List (Value × Value)) := do
  let _ ← entriesOf id
  flatten (mergeFuel (← get).nodes) id
  (← entriesOf id).mapM fun e => do
    let k ← value e.1
    if !k.isKey then refuse
    return (k, ← value e.2)

/-- The items of a sequence, each a mapping with one entry; such a pair is no text. -/
def pairs (id : NodeId) : Build (List Value) := do
  match (← node id).content with
  | .sequence items =>
    items.mapM fun item => do
      match ← entriesOf item with
      | [(k, v)] =>
        let _ ← value k
        let _ ← value v
        return .pair
      | _ => refuse
  | _ => refuse

/-- Fills a collection. -/
def members (id : NodeId) : Build Members := do
  let n ← node id
  match n.kind with
  | .mapping => return .map (← mapping id)
  | .set =>
    let _ ← mapping id
    return .set
  | .orderedPairs | .pairs => return .list (← pairs id)
  | _ =>
    match n.content with
    | .sequence items => return .list (← items.mapM value)
    | _ => refuse

/-- Fills the collections in the queue; each node is queued at most once. -/
def fillAll : (fuel : Nat) → Build Unit
  | 0 => return
  | fuel + 1 => do
    match (← get).queue with
    | [] => return
    | id :: rest =>
      modify fun b => { b with queue := rest }
      let m ← members id
      modify fun b => { b with members := (id, m) :: b.members }
      fillAll fuel

def document (root : NodeId) : Build Value := do
  let v ← value root
  fillAll ((← get).nodes.size + 1)
  return v

end Build

/-- A value with the collections that it refers to. -/
structure Loaded where
  root : Value
  members : List (NodeId × Members)

namespace Loaded

def members? (l : Loaded) : Value → Option Members
  | .collection id => l.members.lookup id
  | _ => none

end Loaded

/-- The value of a text; an empty one stands for nothing. -/
def read (text : Text) : Except Fault Loaded := do
  match ← compose (← tokens text) with
  | (_, none) => return ⟨.null, []⟩
  | (nodes, some root) =>
    let (v, b) ← (Build.document root).run ⟨nodes, [], [], []⟩
    return ⟨v, b.members⟩

end Yaml

end HyperEvolve
