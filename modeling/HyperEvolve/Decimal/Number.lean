import HyperEvolve.Decimal.Integer
import HyperEvolve.Decimal.Shortest

/-!
# Numbers written by hand

Integers to any base up to thirty-six and decimal numbers, with blanks around them and digits of any
script.
-/

namespace HyperEvolve

namespace Decimal

/-- The value of a digit or of a letter that counts as one. -/
def digitIn? (base : Nat) (c : Char) : Option Nat :=
  let value := match digit? c with
    | some d => some d
    | none =>
      if 'a' ≤ c && c ≤ 'z' then some (c.toNat - 87)
      else if 'A' ≤ c && c ≤ 'Z' then some (c.toNat - 55)
      else none
  value.filter (· < base)

def natIn? (base : Nat) (cs : List Char) : Option Nat :=
  if cs.isEmpty then none
  else (cs.mapM (digitIn? base)).map fun ds => ds.foldl (fun n d => n * base + d) 0

/-- The letter that announces a base after a zero. -/
def baseLetter? : Nat → Option Char
  | 2 => some 'b'
  | 8 => some 'o'
  | 16 => some 'x'
  | _ => none

def dropBase (base : Nat) : List Char → List Char
  | '0' :: c :: cs => if baseLetter? base = some c.toLower then cs else '0' :: c :: cs
  | cs => cs

/-- An integer to a base. -/
def intIn? (base : Nat) (cs : List Char) : Option Int :=
  match unpadded cs with
  | '-' :: r => (natIn? base (dropBase base r)).map fun n => -(n : Int)
  | '+' :: r => (natIn? base (dropBase base r)).map Int.ofNat
  | r => (natIn? base (dropBase base r)).map Int.ofNat

def isDigit (c : Char) : Bool := (digit? c).isSome

def exponent? : List Char → Option Int
  | [] => some 0
  | e :: r =>
    if e ≠ 'e' && e ≠ 'E' then none
    else match r with
      | '-' :: r => (natIn? 10 r).map fun n => -(n : Int)
      | '+' :: r => (natIn? 10 r).map Int.ofNat
      | r => (natIn? 10 r).map Int.ofNat

/-- A number without its sign. -/
def magnitude? (negative : Bool) (cs : List Char) : Option Float :=
  let lower := String.ofList (cs.map Char.toLower)
  if lower = "inf" || lower = "infinity" then some (if negative then -(1.0 / 0.0) else 1.0 / 0.0)
  else if lower = "nan" then some (0.0 / 0.0)
  else
    let whole := cs.takeWhile isDigit
    let rest := cs.drop whole.length
    let (places, rest) := match rest with
      | '.' :: r => (r.takeWhile isDigit, r.dropWhile isDigit)
      | _ => ([], rest)
    match natIn? 10 (whole ++ places), exponent? rest with
    | some n, some e => some (toFloat negative n (e - places.length))
    | _, _ => none

/-- A decimal number, or one of the words for what is no finite number. -/
def float? (cs : List Char) : Option Float :=
  match unpadded cs with
  | '-' :: r => magnitude? true r
  | '+' :: r => magnitude? false r
  | r => magnitude? false r

end Decimal

end HyperEvolve
