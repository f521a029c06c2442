import HyperEvolve.Yaml.Kind
import HyperEvolve.Yaml.Scan

/-!
# Nodes

The scalars, sequences and mappings that the tokens of a text spell. Nodes are numbered and refer to
each other by number: an alias gives the number of an earlier node once more, so a node may stand in
several places, and inside itself.
-/

namespace HyperEvolve

namespace Yaml

abbrev NodeId := Nat

inductive Content where
  | scalar (text : Text)
  | sequence (items : List NodeId)
  | mapping (entries : List (NodeId × NodeId))

structure Node where
  kind : Kind
  content : Content

abbrev Nodes := Array Node

/-- The prefixes that tag handles stand for. -/
abbrev Handles := List (String × String)

def defaultHandles : Handles := [("!", "!"), ("!!", Kind.tagSpace)]

/-! ## Reading tokens -/

/-- The tokens that are left, and what has been read from those before them. -/
structure Composer where
  tokens : List Token
  nodes : Nodes
  anchors : List (String × NodeId)
  handles : Handles

abbrev Compose := StateT Composer (Except Fault)

namespace Compose

def refuse {α : Type} : Compose α := throw .malformed

/-- The next token, none at the end. A text that cannot be read further fails here. -/
def peek : Compose (Option Token) := do
  match (← get).tokens with
  | .fault f :: _ => throw f
  | t :: _ => return some t
  | [] => return none

def skip : Compose Unit := modify fun c => { c with tokens := c.tokens.drop 1 }

/-- Adds a node, under its anchor if it has one. No anchor is given twice. -/
def add (anchor : Option String) (n : Node) : Compose NodeId := do
  let c ← get
  let id := c.nodes.size
  match anchor with
  | none => set { c with nodes := c.nodes.push n }
  | some name =>
    if (c.anchors.lookup name).isSome then refuse
    else set { c with nodes := c.nodes.push n, anchors := (name, id) :: c.anchors }
  return id

/-- What stands where nothing is written. -/
def absent : Compose NodeId := add none ⟨.null, .scalar []⟩

def fill (id : NodeId) (content : Content) : Compose Unit :=
  modify fun c => { c with nodes := c.nodes.modify id fun n => { n with content } }

end Compose

open Compose

/-- An anchor and a tag in front of a node. -/
structure Properties where
  anchor : Option String
  tag : Option String

namespace Properties

def isEmpty (p : Properties) : Bool := p.anchor.isNone && p.tag.isNone

/-- A lone exclamation mark is a tag that leaves the kind open. -/
def isOpen (p : Properties) : Bool := p.tag.isNone || p.tag = some "!"

def kind (p : Properties) (otherwise : Kind) : Kind :=
  if p.isOpen then otherwise else Kind.ofTag (p.tag.getD "")

def plainKind (text : Text) : Kind := Kind.ofPlain text.chars

/-- The kind of a scalar: a lone exclamation mark makes a quoted one count as plain. -/
def scalarKind (p : Properties) (text : Text) (plain : Bool) : Kind :=
  match p.tag with
  | none => if plain then plainKind text else .text
  | some "!" => plainKind text
  | some tag => Kind.ofTag tag

def fullTag : Option String → String → Compose String
  | none, suffix => return suffix
  | some handle, suffix => do
    match (← get).handles.lookup handle with
    | some start => return start ++ suffix
    | none => refuse

/-- Reads an anchor and a tag in either order. -/
def read : Compose Properties := do
  match ← peek with
  | some (.anchor a) =>
    skip
    match ← peek with
    | some (.tag h s) =>
      skip
      return ⟨some a, some (← fullTag h s)⟩
    | _ => return ⟨some a, none⟩
  | some (.tag h s) =>
    skip
    match ← peek with
    | some (.anchor a) =>
      skip
      return ⟨some a, some (← fullTag h s)⟩
    | _ => return ⟨none, some (← fullTag h s)⟩
  | _ => return ⟨none, none⟩

/-- A scalar without a text. It needs an anchor or a tag. -/
def empty (p : Properties) : Compose NodeId :=
  if p.isEmpty then refuse else add p.anchor ⟨p.scalarKind [] true, .scalar []⟩

end Properties

/-- Tokens at which an entry of a block sequence is absent. -/
def endsItem : Option Token → Bool
  | some .blockEntry | some .blockEnd => true
  | _ => false

/-- Tokens at which a key or a value of a block mapping is absent. -/
def endsField : Option Token → Bool
  | some .key | some .value | some .blockEnd => true
  | _ => false

/-- Tokens at which a value between brackets is absent. -/
def endsFlow : Option Token → Bool
  | some .flowEntry | some .flowSequenceEnd | some .flowMappingEnd => true
  | _ => false

def endsFlowKey (t : Option Token) : Bool := t = some .value || endsFlow t

namespace Compose

/-- The comma between two items. -/
def comma (first : Bool) : Compose Unit := do
  if first then return
  if (← peek) = some .flowEntry then skip else refuse

mutual
/-- Reads a node. Blocks may stand only where `block` says so, and a sequence without indentation
only below a key. -/
def node : (fuel : Nat) → (block indentless : Bool) → Compose NodeId
  | 0, _, _ => refuse
  | fuel + 1, block, indentless => do
    match ← peek with
    | some (.reference name) =>
      skip
      match (← get).anchors.lookup name with
      | some id => return id
      | none => refuse
    | _ =>
      let p ← Properties.read
      match ← peek with
      | some .blockEntry =>
        if indentless then
          let id ← add p.anchor ⟨p.kind .sequence, .sequence []⟩
          fill id (.sequence (← indentlessItems fuel))
          return id
        else p.empty
      | some (.scalar text plain) =>
        skip
        add p.anchor ⟨p.scalarKind text plain, .scalar text⟩
      | some .flowSequenceStart =>
        let id ← add p.anchor ⟨p.kind .sequence, .sequence []⟩
        skip
        fill id (.sequence (← flowItems fuel true))
        return id
      | some .flowMappingStart =>
        let id ← add p.anchor ⟨p.kind .mapping, .mapping []⟩
        skip
        fill id (.mapping (← flowEntries fuel true))
        return id
      | some .sequenceStart =>
        if block then
          let id ← add p.anchor ⟨p.kind .sequence, .sequence []⟩
          skip
          fill id (.sequence (← items fuel))
          return id
        else p.empty
      | some .mappingStart =>
        if block then
          let id ← add p.anchor ⟨p.kind .mapping, .mapping []⟩
          skip
          fill id (.mapping (← entries fuel))
          return id
        else p.empty
      | _ => p.empty

/-- The entries of a block sequence, up to its end. -/
def items : (fuel : Nat) → Compose (List NodeId)
  | 0 => refuse
  | fuel + 1 => do
    match ← peek with
    | some .blockEntry =>
      skip
      let item ← if endsItem (← peek) then absent else node fuel true false
      return item :: (← items fuel)
    | some .blockEnd =>
      skip
      return []
    | _ => refuse

/-- The entries of a sequence without indentation. -/
def indentlessItems : (fuel : Nat) → Compose (List NodeId)
  | 0 => refuse
  | fuel + 1 => do
    match ← peek with
    | some .blockEntry =>
      skip
      let next ← peek
      let item ← if endsItem next || endsField next then absent else node fuel true false
      return item :: (← indentlessItems fuel)
    | _ => return []

/-- The entries of a block mapping, up to its end. -/
def entries : (fuel : Nat) → Compose (List (NodeId × NodeId))
  | 0 => refuse
  | fuel + 1 => do
    match ← peek with
    | some .key =>
      skip
      let k ← if endsField (← peek) then absent else node fuel true true
      let v ← match ← peek with
        | some .value => do
          skip
          if endsField (← peek) then absent else node fuel true true
        | _ => absent
      return (k, v) :: (← entries fuel)
    | some .blockEnd =>
      skip
      return []
    | _ => refuse

/-- The items between square brackets; `first` says that no comma is needed yet. -/
def flowItems : (fuel : Nat) → (first : Bool) → Compose (List NodeId)
  | 0, _ => refuse
  | fuel + 1, first => do
    if (← peek) = some .flowSequenceEnd then
      skip
      return []
    comma first
    match ← peek with
    | some .flowSequenceEnd =>
      skip
      return []
    | some .key =>
      let id ← add none ⟨.mapping, .mapping []⟩
      skip
      let entry ← flowPair fuel
      fill id (.mapping [entry])
      return id :: (← flowItems fuel false)
    | _ =>
      let item ← node fuel false false
      return item :: (← flowItems fuel false)

/-- A key between brackets and its value. -/
def flowPair : (fuel : Nat) → Compose (NodeId × NodeId)
  | 0 => refuse
  | fuel + 1 => do
    let k ← if endsFlowKey (← peek) then absent else node fuel false false
    let v ← match ← peek with
      | some .value => do
        skip
        if endsFlow (← peek) then absent else node fuel false false
      | _ => absent
    return (k, v)

/-- The entries between braces. -/
def flowEntries : (fuel : Nat) → (first : Bool) → Compose (List (NodeId × NodeId))
  | 0, _ => refuse
  | fuel + 1, first => do
    if (← peek) = some .flowMappingEnd then
      skip
      return []
    comma first
    match ← peek with
    | some .flowMappingEnd =>
      skip
      return []
    | some .key =>
      skip
      let entry ← flowPair fuel
      return entry :: (← flowEntries fuel false)
    | _ =>
      let k ← node fuel false false
      let v ← absent
      return (k, v) :: (← flowEntries fuel false)
end

/-! ## Documents -/

/-- The handles that directives define, each at most once, and the version, which must be 1. -/
def directives : (fuel : Nat) → (version : Bool) → Handles → Compose Unit
  | 0, _, _ => refuse
  | fuel + 1, version, handles => do
    match ← peek with
    | some (.directive (.version major)) =>
      skip
      if version || major ≠ 1 then refuse else directives fuel true handles
    | some (.directive (.handle name start)) =>
      skip
      if (handles.lookup name).isSome then refuse else directives fuel version ((name, start) :: handles)
    | some (.directive .unknown) =>
      skip
      directives fuel version handles
    | _ => modify fun c => { c with handles := handles ++ defaultHandles }

/-- Tokens at which a document is empty. -/
def endsDocument : Option Token → Bool
  | none | some (.directive _) | some .documentStart | some .documentEnd => true
  | _ => false

/-- Directives and the mark that begins a document. -/
def opening (fuel : Nat) : Compose Unit := do
  directives fuel false []
  if (← peek) = some .documentStart then skip else refuse

def skipEnds : (fuel : Nat) → Compose Unit
  | 0 => return
  | fuel + 1 => do
    if (← peek) = some .documentEnd then
      skip
      skipEnds fuel

/-- Nothing may follow the only document. -/
def finish (fuel : Nat) : Compose Unit := do
  skipEnds fuel
  if (← peek).isSome then
    opening fuel
    refuse

/-- The only document of a text, none when the text is empty. -/
def document (fuel : Nat) : Compose (Option NodeId) := do
  match ← peek with
  | none => return none
  | first =>
    let explicit := endsDocument first && first ≠ some .documentEnd
    if explicit then opening fuel
    let id ← if explicit && endsDocument (← peek) then absent else node fuel true false
    finish fuel
    return some id

end Compose

/-- The nodes of a text and the one at the root, none when the text is empty. -/
def compose (ts : List Token) : Except Fault (Nodes × Option NodeId) := do
  let (root, c) ← (Compose.document (4 * ts.length + 8)).run ⟨ts, #[], [], defaultHandles⟩
  return (c.nodes, root)

end Yaml

end HyperEvolve
