import HyperEvolve.Program.Symbols

/-!
# Unfolding of items

An item stands for a list of groups: its own group, the groups of an array, or the groups of a
rule's items in order. A name that is not declared stands for none.
-/

namespace HyperEvolve

namespace Symbols

/-- The groups of an item when at most `depth` rules are entered on any way down, `none` when that
does not suffice. -/
def unfoldWithin (t : Symbols) : Nat → Item → Option (List Group)
  | _, .inline g => some [g]
  | _, .arrayRef n => some ((t.arrays.get? n).getD [])
  | depth, .ruleRef n =>
    match t.rules.get? n with
    | none => some []
    | some body =>
      match depth with
      | 0 => none
      | depth + 1 => (body.items.mapM (t.unfoldWithin depth)).map List.flatten

/-- The groups of an item. Without a cycle no way down enters a rule twice, so the number of rules
bounds the depth. -/
def unfold (t : Symbols) (item : Item) : List Group :=
  (t.unfoldWithin t.rules.size item).getD []

/-- The groups of several items in order. -/
def unfoldAll (t : Symbols) (items : List Item) : List Group := items.flatMap t.unfold

end Symbols

end HyperEvolve
