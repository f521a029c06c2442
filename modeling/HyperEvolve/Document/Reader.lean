import HyperEvolve.Decimal.Integer
import HyperEvolve.Decimal.Shortest
import HyperEvolve.Document.Basic

/-!
# Reading documents

The reader works on the code points that remain, and a fault of form keeps the text from its place
on. Besides finite numbers it takes `NaN`, `Infinity` and `-Infinity`. Repeated fields of an object
are kept; `Document.merged` merges them.
-/

namespace HyperEvolve

namespace Document

inductive Why where
  | byteOrderMark
  | value
  | fieldName
  | colon
  | comma
  | extra
  | unterminated
  | control
  | escape
  | unicodeEscape
deriving DecidableEq, Repr

def Why.text : Why → String
  | .byteOrderMark => "Unexpected UTF-8 BOM (decode using utf-8-sig)"
  | .value => "Expecting value"
  | .fieldName => "Expecting property name enclosed in double quotes"
  | .colon => "Expecting ':' delimiter"
  | .comma => "Expecting ',' delimiter"
  | .extra => "Extra data"
  | .unterminated => "Unterminated string starting at"
  | .control => "Invalid control character at"
  | .escape => "Invalid \\escape"
  | .unicodeEscape => "Invalid \\uXXXX escape"

/-- Why a text is no document: its form is wrong from some place on, or an integer in it has more
digits than are read. -/
inductive Fault where
  | form (why : Why) (rest : Text)
  | longInteger (digits : Nat)
deriving DecidableEq, Repr

/-- What is wrong, with line and column counted from one and the offset counted from zero. -/
def formMessage (why : Why) (rest text : Text) : String :=
  let offset := text.length - rest.length
  let before := text.take offset
  let line := before.countP (·.is '\n') + 1
  let column := (before.reverse.takeWhile fun p => !p.is '\n').length + 1
  s!"{why.text}: line {line} column {column} (char {offset})"

def isBlank (p : CodePoint) : Bool := p.is ' ' || p.is '\t' || p.is '\n' || p.is '\r'

def skipBlank (t : Text) : Text := t.dropWhile isBlank

/-! ## Texts -/

def hexValue? (p : CodePoint) : Option Nat :=
  if 48 ≤ p.val && p.val ≤ 57 then some (p.val - 48)
  else if 97 ≤ p.val && p.val ≤ 102 then some (p.val - 87)
  else if 65 ≤ p.val && p.val ≤ 70 then some (p.val - 55)
  else none

def unit? (a b c d : CodePoint) : Option CodePoint := do
  let a ← hexValue? a
  let b ← hexValue? b
  let c ← hexValue? c
  let d ← hexValue? d
  return CodePoint.ofNat (a * 4096 + b * 256 + c * 16 + d)

/-- Letters that escape a single character. -/
def escapes : List (Char × Char) :=
  [('"', '"'), ('\\', '\\'), ('/', '/'), ('b', '\x08'), ('f', '\x0c'), ('n', '\n'), ('r', '\r'),
    ('t', '\t')]

def escaped? (p : CodePoint) : Option CodePoint :=
  (escapes.find? fun e => p.is e.1).map fun e => .ofChar e.2

/-- A unit of a text: as it stands, or given by its number. -/
inductive TextUnit where
  | plain (p : CodePoint)
  | numbered (p : CodePoint)
deriving DecidableEq, Repr

/-- The unit after a backslash and the letter for a number. A numbered escape needs a character after
its four digits. -/
def readNumbered : Text → Option (TextUnit × Text)
  | a :: b :: c :: d :: q :: r => (unit? a b c d).map fun u => (.numbered u, q :: r)
  | _ => none

/-- The units of a text up to its closing quote; `start` is the input from the opening quote on. -/
def readUnits (start : Text) : (fuel : Nat) → Text → Except Fault (List TextUnit × Text)
  | 0, _ => .error (.form .unterminated start)
  | _ + 1, [] => .error (.form .unterminated start)
  | fuel + 1, p :: r =>
    if p.is '"' then .ok ([], r)
    else if p.is '\\' then
      match r with
      | [] => .error (.form .unterminated start)
      | e :: r' =>
        if e.is 'u' then
          match readNumbered r' with
          | some (u, r) => (readUnits start fuel r).map fun x => (u :: x.1, x.2)
          | none => .error (.form .unicodeEscape (e :: r'))
        else
          match escaped? e with
          | some q => (readUnits start fuel r').map fun x => (.plain q :: x.1, x.2)
          | none => .error (.form .escape (p :: r))
    else if p.val < 32 then .error (.form .control (p :: r))
    else (readUnits start fuel r).map fun x => (.plain p :: x.1, x.2)

def joinPair (high low : CodePoint) : CodePoint :=
  CodePoint.ofNat (0x10000 + (high.val - 0xD800) * 1024 + (low.val - 0xDC00))

/-- Each numbered high surrogate directly before a numbered low one forms one code point with it. -/
def joinPairs : List TextUnit → Text
  | [] => []
  | .plain p :: r => p :: joinPairs r
  | .numbered p :: .numbered q :: r =>
    if p.isHighSurrogate && q.isLowSurrogate then joinPair p q :: joinPairs r
    else p :: joinPairs (.numbered q :: r)
  | .numbered p :: r => p :: joinPairs r

/-- A text up to its closing quote; `fuel` bounds the number of its units. -/
def readText (fuel : Nat) (start t : Text) : Except Fault (Text × Text) :=
  (readUnits start fuel t).map fun x => (joinPairs x.1, x.2)

/-! ## Numbers -/

def digitsValue (ds : Text) : Nat := ds.foldl (fun n p => n * 10 + (p.val - 48)) 0

def isDigit (p : CodePoint) : Bool := 48 ≤ p.val && p.val ≤ 57

/-- Digits of the integer part: a leading zero stands alone. -/
def readWhole : Text → Option (Text × Text)
  | p :: r =>
    if p.is '0' then some ([p], r)
    else if isDigit p then some (p :: r.takeWhile isDigit, r.dropWhile isDigit)
    else none
  | [] => none

/-- Digits after a point, none when no digit follows the point. -/
def readFraction : Text → Option (Text × Text)
  | p :: r =>
    let ds := r.takeWhile isDigit
    if !p.is '.' || ds.isEmpty then none else some (ds, r.dropWhile isDigit)
  | [] => none

/-- A sign, if there is one. -/
def readSign : Text → Bool × Text
  | p :: r => if p.is '-' then (true, r) else if p.is '+' then (false, r) else (false, p :: r)
  | [] => (false, [])

/-- The exponent, none when the mark is not followed by digits. -/
def readExponent : Text → Option (Int × Text)
  | p :: r =>
    if p.is 'e' || p.is 'E' then
      let (negative, r) := readSign r
      let ds := r.takeWhile isDigit
      if ds.isEmpty then none
      else
        let n : Int := digitsValue ds
        some (if negative then -n else n, r.dropWhile isDigit)
    else none
  | [] => none

/-- An integer with the given digits, which may not be too many. -/
def integerOf (negative : Bool) (digits : Text) : Except Fault Document :=
  if Decimal.maxDigits < digits.length then .error (.longInteger digits.length)
  else
    let n : Int := digitsValue digits
    .ok (.int (if negative then -n else n))

def readNumber (t : Text) : Except Fault (Document × Text) :=
  let (negative, body) := match t with
    | p :: r => if p.is '-' then (true, r) else (false, t)
    | [] => (false, [])
  match readWhole body with
  | none => .error (.form .value t)
  | some (whole, r) =>
    let (fraction, r, fractional) := match readFraction r with
      | some (ds, r) => (ds, r, true)
      | none => ([], r, false)
    match readExponent r with
    | some (e, r) =>
      .ok (.float (Decimal.toFloat negative (digitsValue (whole ++ fraction)) (e - fraction.length)), r)
    | none =>
      if fractional then
        .ok (.float (Decimal.toFloat negative (digitsValue (whole ++ fraction)) (-fraction.length)), r)
      else (integerOf negative whole).map fun d => (d, r)

/-! ## Values -/

/-- Words that stand for a value. -/
def words : List (String × Document) :=
  [("null", .null), ("true", .bool true), ("false", .bool false), ("NaN", .float (0.0 / 0.0)),
    ("Infinity", .float (1.0 / 0.0)), ("-Infinity", .float (-1.0 / 0.0))]

/-- A word or a number. -/
def readAtom (t : Text) : Except Fault (Document × Text) :=
  match words.findSome? fun w => (Text.after? w.1 t).map fun r => (w.2, r) with
  | some x => .ok x
  | none => readNumber t

mutual
/-- A value at the head of the input; the depth bounds the nesting of calls. -/
def readValue : Nat → Text → Except Fault (Document × Text)
  | 0, t => .error (.form .value t)
  | _ + 1, [] => .error (.form .value [])
  | depth + 1, p :: r =>
    if p.is '"' then (readText depth (p :: r) r).map fun x => (.text x.1, x.2)
    else if p.is '{' then
      match skipBlank r with
      | [] => .error (.form .fieldName [])
      | q :: r' =>
        if q.is '}' then .ok (.object [], r')
        else (readFields depth (q :: r')).map fun x => (.object x.1, x.2)
    else if p.is '[' then
      match skipBlank r with
      | [] => .error (.form .value [])
      | q :: r' =>
        if q.is ']' then .ok (.array [], r')
        else (readItems depth (q :: r')).map fun x => (.array x.1, x.2)
    else readAtom (p :: r)

def readItems : Nat → Text → Except Fault (List Document × Text)
  | 0, t => .error (.form .value t)
  | depth + 1, t => do
    let (d, r) ← readValue depth t
    match skipBlank r with
    | [] => .error (.form .comma [])
    | p :: r =>
      if p.is ']' then .ok ([d], r)
      else if p.is ',' then (readItems depth (skipBlank r)).map fun x => (d :: x.1, x.2)
      else .error (.form .comma (p :: r))

def readFields : Nat → Text → Except Fault (List (Text × Document) × Text)
  | 0, t => .error (.form .value t)
  | _ + 1, [] => .error (.form .fieldName [])
  | depth + 1, p :: r => do
    if !p.is '"' then .error (.form .fieldName (p :: r))
    else
      let (name, r) ← readText depth (p :: r) r
      match skipBlank r with
      | [] => .error (.form .colon [])
      | p :: r =>
        if !p.is ':' then .error (.form .colon (p :: r))
        else
          let (d, r) ← readValue depth (skipBlank r)
          match skipBlank r with
          | [] => .error (.form .comma [])
          | p :: r =>
            if p.is '}' then .ok ([(name, d)], r)
            else if p.is ',' then
              (readFields depth (skipBlank r)).map fun x => ((name, d) :: x.1, x.2)
            else .error (.form .comma (p :: r))
end

/-- Reads a whole text as one value. Every second call consumes a character, so twice the length
bounds the depth, and the depth that is left bounds the units of every text. -/
def read (text : Text) : Except Fault Document :=
  if text.head?.any (·.is '\uFEFF') then .error (.form .byteOrderMark text)
  else do
    let (d, r) ← readValue (2 * text.length + 2) (skipBlank text)
    match skipBlank r with
    | [] => .ok d
    | r => .error (.form .extra r)

end Document

end HyperEvolve
