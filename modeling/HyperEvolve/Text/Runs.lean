/-!
# Tables of code points

A table lists runs of code points, each with a value. In its written form a run is a hexadecimal
number, or two with a dash between them; a step may follow a slash, and a value an equals sign.
-/

namespace HyperEvolve

/-- The code points from `first` to `last` that are whole steps apart. -/
structure CodeRun where
  first : Nat
  last : Nat
  step : Nat
  value : Nat
deriving DecidableEq, Repr

abbrev Runs := List CodeRun

namespace Runs

def hexDigit? (c : Char) : Option Nat :=
  if c.isDigit then some (c.toNat - 48)
  else if 'a' ≤ c && c ≤ 'f' then some (c.toNat - 87)
  else none

def hexValue (cs : List Char) : Nat := cs.foldl (fun n c => n * 16 + (hexDigit? c).getD 0) 0

/-- The number after a mark, if the mark is there. -/
def marked (mark : Char) (otherwise : Nat) (cs : List Char) : Nat :=
  match cs.dropWhile (· ≠ mark) with
  | _ :: r => hexValue (r.takeWhile fun c => (hexDigit? c).isSome)
  | [] => otherwise

def readRun (cs : List Char) : CodeRun :=
  let first := hexValue (cs.takeWhile fun c => (hexDigit? c).isSome)
  ⟨first, marked '-' first cs, marked '/' 1 cs, marked '=' 0 cs⟩

/-- The words between spaces. -/
def words (line : String) : List (List Char) :=
  line.toList.foldr (fun c acc =>
    match acc with
    | w :: ws => if c = ' ' then [] :: w :: ws else (c :: w) :: ws
    | [] => [[c]]) [[]]

/-- A table in its written form. -/
def ofLines (lines : List String) : Runs := (lines.flatMap words).map readRun

/-- The run that a number belongs to. -/
def run? (t : Runs) (n : Nat) : Option CodeRun :=
  t.find? fun r => r.first ≤ n && n ≤ r.last && (n - r.first) % r.step = 0

def contains (t : Runs) (n : Nat) : Bool := (t.run? n).isSome

def value? (t : Runs) (n : Nat) : Option Nat := (t.run? n).map CodeRun.value

end Runs

end HyperEvolve
