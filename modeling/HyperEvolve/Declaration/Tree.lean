import HyperEvolve.Declaration.Basic
import HyperEvolve.Document.Basic

/-!
# The canonical tree of a declaration

Every field is present, and the parts of a triple stand under `L`, `I` and `R`.
-/

namespace HyperEvolve

namespace Document

def ofString (s : String) : Document := .text (Text.ofString s)

/-- An object whose field names are ordinary strings. -/
def record (fields : List (String × Document)) : Document :=
  .object (fields.map fun f => (Text.ofString f.1, f.2))

def ofNat? : Option Nat → Document
  | none => .null
  | some n => .int n

end Document

open Document

def Group.tree (g : Group) : Document := .array (g.map ofString)

def groupsTree (gs : List Group) : Document := .array (gs.map Group.tree)

def Item.tree : Item → Document
  | .inline g => record [("type", ofString "inline"), ("value", g.tree)]
  | .arrayRef n => record [("type", ofString "varRef"), ("name", ofString n)]
  | .ruleRef n => record [("type", ofString "ruleRef"), ("name", ofString n)]

def itemsTree (is : List Item) : Document := .array (is.map Item.tree)

def RuleBody.tree : RuleBody → Document
  | .triple l i r =>
    record [("type", ofString "triple"), ("L", l.tree), ("I", i.tree), ("R", r.tree)]
  | .sequence is => record [("type", ofString "sequence"), ("items", itemsTree is)]

def StateRule.tree : StateRule → Document
  | .body b => b.tree
  | .item i => i.tree
  | .items is => itemsTree is

def Source.tree : Source → Document
  | .groups gs => groupsTree gs
  | .name n => ofString n

def Declaration.tree : Declaration → Document
  | .array n gs => record [("type", ofString "array"), ("name", ofString n), ("value", groupsTree gs)]
  | .rule n b => record [("type", ofString "rule"), ("name", ofString n), ("body", b.tree)]
  | .state s =>
    record [("type", ofString "state"), ("name", ofString s.name), ("source", s.source.tree),
      ("rule", s.rule.tree), ("count", ofNat? s.count)]

/-- The tree of a whole program. -/
def programTree (ds : List Declaration) : Document := .array (ds.map Declaration.tree)

end HyperEvolve
