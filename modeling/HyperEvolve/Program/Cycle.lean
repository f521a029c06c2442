import HyperEvolve.Table

/-!
# Reference cycles

A depth-first walk over a finite map from names to the names they refer to. Names already finished
lead to no cycle; a reference back into the current trail closes one.
-/

namespace HyperEvolve

/-- Names and what each refers to; a name without an entry refers to nothing. -/
abbrev References := Table String (List String)

namespace References

def targets (g : References) (name : String) : List String := (g.get? name).getD []

/-- Why a walk ends early: it closed a cycle, or the depth did not suffice. -/
inductive Stop where
  | cycle (path : List String)
  | depth
deriving DecidableEq, Repr

/-- A walk stops early or ends with the names finished so far. -/
abbrev Walk := Except Stop (List String)

/-- Follows a reference from the end of a trail. One back into the trail closes a cycle, one to a
finished name is done; any other is entered. -/
def follow (trail : List String) (enter : List String → String → Walk) (finished : List String)
    (target : String) : Walk :=
  if target ∈ trail then .error (.cycle (trail.dropWhile (· ≠ target) ++ [target]))
  else if target ∈ finished then .ok finished
  else enter finished target

/-- Visits a name below the names of the trail. The depth bounds the length of the trail. -/
def visit (g : References) : Nat → (trail finished : List String) → String → Walk
  | 0, _, _, _ => .error .depth
  | depth + 1, trail, finished, name =>
    let trail' := trail ++ [name]
    ((g.targets name).foldlM (follow trail' (visit g depth trail')) finished).map (name :: ·)

/-- All names of the map in order, with a bound on the length of trails. -/
def walkWithin (g : References) (depth : Nat) : Walk :=
  g.keys.foldlM (follow [] (visit g depth [])) []

/-- All names of the map in order. A trail repeats no name, and only its last name may lack an
entry, so it is at most one longer than the map. -/
def walk (g : References) : Walk := g.walkWithin (g.size + 1)

/-- The first cycle met, from a name back to itself. -/
def cycle? (g : References) : Option (List String) :=
  match g.walk with
  | .error (.cycle c) => some c
  | _ => none

end References

end HyperEvolve
