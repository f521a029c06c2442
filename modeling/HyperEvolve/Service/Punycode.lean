import HyperEvolve.Text.CodePoint

/-!
# Names outside ASCII as letters, digits and hyphens

The code points of a name that are not in ASCII are written as numbers behind the ones that are: each
number says how far to go on, in places and in code points, to insert the next code point. A number
is a run of digits to a base that varies, so no separator is needed.
-/

namespace HyperEvolve

namespace Punycode

/-- From which digit on a number goes on. -/
def threshold (k bias : Nat) : Nat :=
  if k ≤ bias then 1 else if bias + 26 ≤ k then 26 else k - bias

theorem threshold_pos (k bias : Nat) : 0 < threshold k bias := by
  unfold threshold
  split
  · omega
  · split <;> omega

/-- Divides a large distance down, one digit of the bias at a time. -/
def shrink (k d : Nat) : Nat :=
  if 455 < d then shrink (k + 36) (d / 35) else k + 36 * d / (d + 38)
termination_by d
decreasing_by exact Nat.div_lt_self (by omega) (by omega)

/-- The bias for the next number, after a distance that led to a name of `count` code points. -/
def adapt (distance count : Nat) (first : Bool) : Nat :=
  let d := if first then distance / 700 else distance / 2
  shrink 0 (d + d / count)

/-! ## Writing -/

def digit (n : Nat) : CodePoint := .ofNat (if n < 26 then 97 + n else 22 + n)

/-- A number, its least digit first. -/
def writeNumber (bias k n : Nat) : Text :=
  let t := threshold k bias
  if n < t then [digit n]
  else digit (t + (n - t) % (36 - t)) :: writeNumber bias (k + 36) ((n - t) / (36 - t))
termination_by n
decreasing_by
  have h := threshold_pos k bias
  exact Nat.lt_of_le_of_lt (Nat.div_le_self _ _) (by omega)

/-- How much of a name has been written. -/
structure Writing where
  next : Nat
  distance : Nat
  bias : Nat
  handled : Nat
  output : Text

/-- Writes all occurrences of one code point, the smallest of those that are left. -/
def writePoint (label : Text) (basic : Nat) (w : Writing) (n : Nat) : Writing :=
  let w := { w with distance := w.distance + (n - w.next) * (w.handled + 1), next := n }
  let w := label.foldl (fun w p =>
    if p.val < n then { w with distance := w.distance + 1 }
    else if p.val = n then
      { w with
        output := w.output ++ writeNumber w.bias 36 w.distance
        bias := adapt w.distance (w.handled + 1) (w.handled = basic)
        distance := 0
        handled := w.handled + 1 }
    else w) w
  { w with distance := w.distance + 1, next := n + 1 }

def isBasic (p : CodePoint) : Bool := p.val < 128

def write (label : Text) : Text :=
  let basic := label.filter isBasic
  let others := ((label.filter fun p => !isBasic p).map CodePoint.val).eraseDups.mergeSort
  let start := if basic.isEmpty then [] else basic ++ [.ofChar '-']
  (others.foldl (writePoint label basic.length) ⟨128, 0, 72, basic.length, start⟩).output

/-! ## Reading -/

def digit? (p : CodePoint) : Option Nat :=
  if 97 ≤ p.val && p.val ≤ 122 then some (p.val - 97)
  else if 65 ≤ p.val && p.val ≤ 90 then some (p.val - 65)
  else if 48 ≤ p.val && p.val ≤ 57 then some (p.val - 22)
  else none

/-- A number at the head of a text, with the rest. -/
def readNumber (bias : Nat) : (k weight sum : Nat) → Text → Option (Nat × Text)
  | _, _, _, [] => none
  | k, weight, sum, p :: rest => do
    let d ← digit? p
    let sum := sum + d * weight
    let t := threshold k bias
    if d < t then some (sum, rest) else readNumber bias (k + 36) (weight * (36 - t)) sum rest

/-- How much of a name has been read. -/
structure Reading where
  name : Text
  next : Nat
  place : Nat
  bias : Nat

/-- Inserts the code points that the numbers stand for; `fuel` bounds how many there are. -/
def readFrom (r : Reading) (first : Bool) : (fuel : Nat) → Text → Option Text
  | _, [] => some r.name
  | 0, _ => none
  | fuel + 1, t => do
    let (distance, rest) ← readNumber r.bias 36 1 0 t
    let size := r.name.length + 1
    let next := r.next + (r.place + distance) / size
    if 0x10FFFF < next then none
    else
      let place := (r.place + distance) % size
      let name := r.name.take place ++ .ofNat next :: r.name.drop place
      readFrom ⟨name, next, place + 1, adapt distance size first⟩ false fuel rest

def read (t : Text) : Option Text :=
  let numbers := (t.reverse.takeWhile fun p => !p.is '-').reverse
  let name := (t.take (t.length - numbers.length)).dropLast
  readFrom ⟨name, 128, 0, 72⟩ true (numbers.length + 1) numbers

end Punycode

end HyperEvolve
