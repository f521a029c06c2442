import HyperEvolve.Decimal.Number
import HyperEvolve.Text.Case
import HyperEvolve.Yaml.Node

/-!
# Values

What the nodes of a settings text stand for. A collection is known by the number of its node, so it
may occur in several places and inside itself.
-/

namespace HyperEvolve

namespace Yaml

inductive Value where
  | null
  | bool (b : Bool)
  | int (n : Int)
  | float (x : Float)
  | text (t : Text)
  | bytes
  | date
  | pair
  | collection (id : NodeId)

namespace Value

instance : Inhabited Value := ⟨.null⟩

/-- Values that can be the key of a mapping. -/
def isKey : Value → Bool
  | .collection _ => false
  | _ => true

def isText (t : Text) : Value → Bool
  | .text u => t = u
  | _ => false

def text? : Value → Option Text
  | .text t => some t
  | _ => none

/-- The value of the last entry with a text as its key. -/
def field? (entries : List (Value × Value)) (name : Text) : Option Value :=
  (entries.reverse.find? fun e => e.1.isText name).map Prod.snd

/-! ## Scalars -/

/-- The digits at the start of an integer, after blanks and a sign. -/
def leadingDigits (t : Text) : Nat :=
  let cs := Decimal.unpadded t.chars
  let cs := match cs with
    | '-' :: r | '+' :: r => r
    | r => r
  (cs.takeWhile Decimal.isDigit).length

/-- One part of an integer. -/
def intPart (base : Nat) (t : Text) : Except Fault Int :=
  let digits := leadingDigits t
  if base = 10 && Decimal.maxDigits < digits then .error (.integerLength digits)
  else match Decimal.intIn? base t.chars with
    | some n => .ok n
    | none => .error (.integer base t)

/-- The pieces between colons. -/
def splitColon (t : Text) : List Text :=
  t.foldr (fun p acc =>
    match acc with
    | piece :: pieces => if p.val = 58 then [] :: piece :: pieces else (p :: piece) :: pieces
    | [] => [[p]]) [[]]

/-- Drops underscores. -/
def withoutBars (t : Text) : Text := t.filter (·.val ≠ 95)

def hasColon (t : Text) : Bool := t.any (·.val = 58)

/-- A sign in front of a number. -/
def signed (t : Text) : Except Fault (Bool × Text) :=
  match t with
  | [] => .error .emptyNumber
  | p :: rest =>
    if p.val = 45 then .ok (true, rest) else if p.val = 43 then .ok (false, rest) else .ok (false, t)

def readInt (t : Text) : Except Fault Int := do
  let (negative, t) ← signed (withoutBars t)
  let n ←
    match t.chars with
    | ['0'] => pure 0
    | '0' :: 'b' :: _ => intPart 2 (t.drop 2)
    | '0' :: 'x' :: _ => intPart 16 (t.drop 2)
    | '0' :: _ => intPart 8 t
    | [] => .error .emptyNumber
    | _ =>
      if hasColon t then do
        let parts ← (splitColon t).mapM (intPart 10)
        pure (parts.foldl (fun acc n => acc * 60 + n) 0)
      else intPart 10 t
  return if negative then -n else n

def floatPart (t : Text) : Except Fault Float :=
  match Decimal.float? t.chars with
  | some x => .ok x
  | none => .error (.number t)

/-- The sum of the parts, each weighted by a power of sixty, which must be in the range of numbers;
`parts` begins with the lowest. -/
def sixties : (base : Nat) → (sum : Float) → List Float → Except Fault Float
  | _, sum, [] => .ok sum
  | base, sum, x :: xs =>
    match Decimal.ofInt? base with
    | some b => sixties (base * 60) (sum + x * b) xs
    | none => .error .numberRange

def readFloat (t : Text) : Except Fault Float := do
  let (negative, t) ← signed (withoutBars t).lower
  let x ←
    if t = Text.ofString ".inf" then pure (1.0 / 0.0 : Float)
    else if t = Text.ofString ".nan" then pure (0.0 / 0.0 : Float)
    else if hasColon t then do
      let parts ← (splitColon t).mapM floatPart
      sixties 1 0 parts.reverse
    else floatPart t
  return if negative then -x else x

def readBool (t : Text) : Except Fault Bool :=
  let word := t.lower
  if ["yes", "true", "on"].any fun w => word = Text.ofString w then .ok true
  else if ["no", "false", "off"].any fun w => word = Text.ofString w then .ok false
  else .error (.truth word)

/-! ## Dates -/

/-- One or two digits, as many as there are. -/
def digits2 : List Char → Option (Nat × List Char)
  | a :: b :: cs =>
    if !a.isDigit then none
    else if b.isDigit then some ((a.toNat - 48) * 10 + (b.toNat - 48), cs)
    else some (a.toNat - 48, b :: cs)
  | [a] => if a.isDigit then some (a.toNat - 48, []) else none
  | [] => none

def exactly2 : List Char → Option (Nat × List Char)
  | a :: b :: cs =>
    if a.isDigit && b.isDigit then some ((a.toNat - 48) * 10 + (b.toNat - 48), cs) else none
  | _ => none

def expect (c : Char) : List Char → Option (List Char)
  | d :: cs => if c = d then some cs else none
  | [] => none

/-- A time of day and its distance from the standard time, in minutes. -/
structure TimeOfDay where
  hour : Nat
  minute : Nat
  second : Nat
  offset : Option Int

structure Timestamp where
  year : Nat
  month : Nat
  day : Nat
  time : Option TimeOfDay

/-- The distance from the standard time, if one is given, at the end of a timestamp. -/
def readOffset (cs : List Char) : Option (Option Int) :=
  let atEnd (cs : List Char) : Bool := cs.isEmpty || cs = ['\n']
  if atEnd cs then some none
  else
    match cs.dropWhile fun c => c = ' ' || c = '\t' with
    | 'Z' :: r => if atEnd r then some (some 0) else none
    | c :: r =>
      if c ≠ '-' && c ≠ '+' then none
      else do
        let (hours, r) ← digits2 r
        let (minutes, r) ← match r with
          | ':' :: r => exactly2 r
          | r => some (0, r)
        if !atEnd r then none
        else
          let total : Int := hours * 60 + minutes
          return some (if c = '-' then -total else total)
    | [] => none

def readTime (cs : List Char) : Option TimeOfDay := do
  let (hour, cs) ← digits2 cs
  let (minute, cs) ← exactly2 (← expect ':' cs)
  let (second, cs) ← exactly2 (← expect ':' cs)
  let cs := match cs with
    | '.' :: r => r.dropWhile Char.isDigit
    | cs => cs
  let offset ← readOffset cs
  return ⟨hour, minute, second, offset⟩

def readTimestamp? (cs : List Char) : Option Timestamp := do
  let (century, cs) ← exactly2 cs
  let (year, cs) ← exactly2 cs
  let (month, cs) ← digits2 (← expect '-' cs)
  let (day, cs) ← digits2 (← expect '-' cs)
  let date : Timestamp := ⟨century * 100 + year, month, day, none⟩
  match cs with
  | [] | ['\n'] => return date
  | c :: r =>
    let rest := if c = 'T' || c = 't' then some r
      else if c = ' ' || c = '\t' then some (r.dropWhile fun c => c = ' ' || c = '\t')
      else none
    return { date with time := some (← readTime (← rest)) }

def isLeap (year : Nat) : Bool := year % 4 = 0 && (year % 100 ≠ 0 || year % 400 = 0)

def daysIn (year month : Nat) : Nat :=
  if month = 2 then if isLeap year then 29 else 28
  else if month = 4 || month = 6 || month = 9 || month = 11 then 30
  else 31

/-- Minutes of a day. -/
def dayMinutes : Int := 1440

/-- Checks that a day and a time exist; the distance from the standard time is looked at first. -/
def checkTimestamp (t : Timestamp) : Except Fault Unit := do
  match t.time.bind TimeOfDay.offset with
  | some minutes =>
    if minutes ≤ -dayMinutes || dayMinutes ≤ minutes then
      throw (.offset (minutes / dayMinutes) ((minutes % dayMinutes).toNat * 60))
  | none => pure ()
  if t.year = 0 then throw (.year 0)
  if t.month = 0 || 12 < t.month then throw .month
  if t.day = 0 || daysIn t.year t.month < t.day then throw .day
  match t.time with
  | some time =>
    if 23 < time.hour then throw .hour
    if 59 < time.minute then throw .minute
    if 59 < time.second then throw .second
  | none => pure ()

def readDate (t : Text) : Except Fault Value :=
  match readTimestamp? t.chars with
  | none => .error .timestamp
  | some stamp => do
    checkTimestamp stamp
    return .date

/-! ## Bytes -/

def isBase64 (c : Char) : Bool := c.isAlphanum || c = '+' || c = '/'

/-- Whether characters are complete groups of four, filled up by equals signs; `filled` counts the
characters of the current group. Others are skipped. -/
def base64Complete (filled pads : Nat) : List Char → Bool
  | [] => filled = 0
  | c :: cs =>
    if c = '=' then
      if 2 ≤ filled && 4 ≤ filled + pads + 1 then true
      else base64Complete filled (if 2 ≤ filled then pads + 1 else pads) cs
    else if isBase64 c then base64Complete ((filled + 1) % 4) 0 cs
    else base64Complete filled pads cs

def readBytes (t : Text) : Except Fault Value :=
  if t.all (·.val < 128) && base64Complete 0 0 t.chars then .ok .bytes else .error .malformed

/-- Kinds of values that are written as a scalar. -/
def isScalarKind : Kind → Bool
  | .null | .bool | .int | .float | .binary | .timestamp | .text => true
  | _ => false

/-- The value of a scalar of a kind. -/
def ofScalar (kind : Kind) (t : Text) : Except Fault Value :=
  match kind with
  | .null => .ok .null
  | .bool => (readBool t).map .bool
  | .int => (readInt t).map .int
  | .float => (readFloat t).map .float
  | .binary => readBytes t
  | .timestamp => readDate t
  | .text => .ok (.text t)
  | _ => .error .malformed

end Value

end Yaml

end HyperEvolve
