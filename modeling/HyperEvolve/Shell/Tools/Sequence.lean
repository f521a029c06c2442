import HyperEvolve.Shell.Format
import HyperEvolve.Shell.Tool

/-!
# Sequences of numbers

Numbers from a first one to a last one by a step, written with as many places as were given, or by a
format.
-/

namespace HyperEvolve

namespace Shell

namespace Sequence

/-! ## Binary numbers -/

/-- The number `mantissa * 2 ^ exponent`. -/
structure BinaryNumber where
  mantissa : Int
  exponent : Int

namespace BinaryNumber

def ofInt (n : Int) : BinaryNumber := ⟨n, 0⟩

/-- Rounded to the digits that numbers are held in. -/
def rounded (x : BinaryNumber) : BinaryNumber :=
  let n := x.mantissa.natAbs
  let extra := Nat.log2 n + 1 - Decimal.extended.digits
  if extra = 0 then x
  else
    let m : Nat := Decimal.roundDiv n (Nat.pow 2 extra)
    ⟨if x.mantissa < 0 then -m else m, x.exponent + extra⟩

def add (x y : BinaryNumber) : BinaryNumber :=
  let e := min x.exponent y.exponent
  ⟨x.mantissa * Int.pow 2 (x.exponent - e).toNat + y.mantissa * Int.pow 2 (y.exponent - e).toNat, e⟩

def isNegative (x : BinaryNumber) : Bool := x.mantissa < 0

def less (x y : BinaryNumber) : Bool := (x.add ⟨-y.mantissa, y.exponent⟩).isNegative

/-- The number at a place of a sequence. -/
def nth (first step : BinaryNumber) (i : Nat) : BinaryNumber :=
  (first.add (⟨step.mantissa * i, step.exponent⟩ : BinaryNumber).rounded).rounded

end BinaryNumber

/-! ## Operands -/

/-- A bound or a step: its value, none when it is infinite, and how wide and with how many places it is
written. There are no places for a number that is written in another way. -/
structure Operand where
  value : Option BinaryNumber
  negative : Bool
  width : Int
  places : Option Nat

def one : Operand := ⟨some (.ofInt 1), false, 1, some 0⟩

inductive Fault where
  | form
  | notNumber
deriving DecidableEq, Repr

/-- The places of a number in its written form, and its width without an exponent. -/
def measured (cs : List Char) (value : Option BinaryNumber) (negative : Bool) : Operand :=
  let point := cs.contains '.'
  let plain : Option Nat := if point || cs.contains 'p' then none else some 0
  if value.isNone || cs.any fun c => c = 'x' || c = 'X' then ⟨value, negative, 0, plain⟩
  else
    let before := cs.takeWhile fun c => c ≠ 'e' && c ≠ 'E'
    let fraction := if point then ((cs.dropWhile (· ≠ '.')).drop 1).takeWhile fun c => c ≠ 'e' && c ≠ 'E' else []
    let places := fraction.length
    let digitInFront := ((cs.takeWhile (· ≠ '.')).getLast?).any Char.isDigit
    let width : Int := cs.length +
      (if !point then 0 else if places = 0 then -1 else if digitInFront then 0 else 1)
    if before.length = cs.length then ⟨value, negative, width, some places⟩
    else
      let (minus, ds) := Format.takeSign (cs.drop (before.length + 1))
      let e : Nat := (Arithmetic.digitsIn 10 ds).1
      let width := width - (cs.length - before.length : Nat)
      if minus && 0 < e then
        let width := if point then if places = 0 then width + 1 else width else width + 1
        ⟨value, negative, width + e, some (places + e)⟩
      else
        let left := places - e
        let width := if point && left = 0 && places ≠ 0 then width - 1 else width
        ⟨value, negative, width + (e - places : Nat), some left⟩

def operand (arg : String) : Except Fault Operand :=
  match Format.floating Decimal.extended arg.toList with
  | (.nan, .none) => .error .notNumber
  | (x, .none) =>
    let cs := arg.toList.dropWhile fun c => Format.isBlankChar c || c = '+'
    if arg.isEmpty then .error .form
    else match x with
      | .finite negative m e => .ok (measured cs (some ⟨if negative then -m else m, e⟩) negative)
      | .infinite negative => .ok (measured cs none negative)
      | .nan => .error .notNumber
  | (.finite negative 0 e, .range) => .ok (measured arg.toList (some ⟨0, e⟩) negative)
  | _ => .error .form

/-! ## Formats -/

/-- What stands around a number, and how the number is written. -/
structure Shape where
  before : List Char
  conversion : Format.Conversion
  after : List Char

/-- A text in which a doubled percent sign stands for one, up to a single one. -/
def plainText : List Char → List Char × List Char
  | '%' :: '%' :: cs =>
    let (t, rest) := plainText cs
    ('%' :: t, rest)
  | '%' :: cs => ([], '%' :: cs)
  | c :: cs =>
    let (t, rest) := plainText cs
    (c :: t, rest)
  | [] => ([], [])

/-- Reads a format with one conversion. -/
def shape (format : String) : Except String Shape :=
  let shown := shownWord format
  let (before, rest) := plainText format.toList
  match rest with
  | [] => .error s!"format {shown} has no % directive"
  | _ :: cs =>
    let flags := cs.takeWhile "-+#0 '".toList.contains
    let rest := cs.drop flags.length
    let width := rest.takeWhile Char.isDigit
    let rest := rest.drop width.length
    let (precision, rest) : Option Nat × List Char := match rest with
      | '.' :: rest =>
        let ds := rest.takeWhile Char.isDigit
        (some (Arithmetic.digitsIn 10 ds).1, rest.drop ds.length)
      | _ => (none, rest)
    let rest := if rest.head? = some 'L' then rest.drop 1 else rest
    match rest with
    | [] => .error s!"format {shown} ends in %"
    | c :: rest =>
      if !"efgaEFGA".toList.contains c then
        .error s!"format {shown} has unknown %{String.singleton c} directive"
      else
        let (after, more) := plainText rest
        if !more.isEmpty then .error s!"format {shown} has too many % directives"
        else .ok ⟨before,
          ⟨flags.contains '-', flags.contains '+', flags.contains ' ', flags.contains '#', flags.contains '0',
            (Arithmetic.digitsIn 10 width).1, precision, c⟩, after⟩

/-- The usual way of writing a sequence: places as in its first number and its step, and zeros in front
up to one width if that is asked for. -/
def usualShape (equal : Bool) (first step last : Operand) : Shape :=
  let conversion (zero : Bool) (width : Nat) (places : Option Nat) (letter : Char) : Shape :=
    ⟨[], ⟨false, false, false, false, zero, width, places, letter⟩, []⟩
  match first.places, step.places, last.places with
  | some p, some q, some l =>
    let places := max p q
    let firstWidth := first.width + (places - p : Nat) + (if p = 0 && places ≠ 0 then 1 else 0)
    let lastWidth := last.width + ((places : Int) - l) +
      (if l ≠ 0 && places = 0 then -1 else if l = 0 && places ≠ 0 then 1 else 0)
    conversion equal (if equal then (max firstWidth lastWidth).toNat else 0) (some places) 'f'
  | _, _, _ => conversion false 0 none 'g'

/-- A number in its shape, without what stands around it. -/
def Shape.number (s : Shape) (x : BinaryNumber) (negative : Bool) : Bytes :=
  Format.writeReal Decimal.extended s.conversion (.finite negative x.mantissa.natAbs x.exponent)

def Shape.write (s : Shape) (x : BinaryNumber) (negative : Bool) : Bytes :=
  Utf8.encode (String.ofList s.before) ++ s.number x negative ++ Utf8.encode (String.ofList s.after)

/-! ## Sequences -/

/-- The most numbers that are written. -/
def most : Nat := 1000000

/-- The numbers of a sequence. One that is past the last still counts if it is written like the last. -/
def numbers (s : Shape) (first step : BinaryNumber) (last : Option BinaryNumber) : (fuel : Nat) → (i : Nat) → List BinaryNumber
  | 0, _ => []
  | fuel + 1, i =>
    let x := BinaryNumber.nth first step i
    let past (x : BinaryNumber) : Bool := last.any fun l => if step.isNegative then x.less l else l.less x
    if !past x then x :: numbers s first step last fuel (i + 1)
    else if i = 0 then []
    else
      let shown := s.number x x.isNegative
      let asLast := match Format.floating Decimal.extended ((text shown).toList), last with
        | (.finite negative m e, .none), some l =>
          let back : BinaryNumber := ⟨if negative then -m else m, e⟩
          !back.less l && !l.less back
        | _, _ => false
      let before := BinaryNumber.nth first step (i - 1)
      if asLast && s.number before before.isNegative ≠ shown then [x] else []

end Sequence

namespace Tools

open Sequence

/-- Options in front of the operands; a word that looks like a negative number is an operand. -/
def sequenceWords (args : List String) : List String × List String :=
  let isNumber (w : String) : Bool := match w.toList with
    | '-' :: c :: _ => c = '.' || c.isDigit
    | _ => false
  let rec split : List String → List String × List String
    | [] => ([], [])
    | w :: ws =>
      if isNumber w || !w.startsWith "-" || w = "-" then ([], w :: ws)
      else if w = "--" then ([], ws)
      else if ["-f", "-s", "--format", "--separator"].contains w then
        match ws with
        | v :: ws =>
          let (os, rest) := split ws
          (w :: v :: os, rest)
        | [] => ([w], [])
      else
        let (os, rest) := split ws
        (w :: os, rest)
  split args

def sequenceRules : List OptionRule :=
  [⟨'f', "format", .value⟩, ⟨'s', "separator", .value⟩, ⟨'w', "equal-width", .nothing⟩]

/-- The bounds and the step among the operands. -/
def sequenceOperands (c : Call) (words : List String) : Except String (Operand × Operand × Operand) := do
  let read (w : String) : Except String Operand :=
    (operand w).mapError fun
      | .form => s!"invalid floating point argument: {shownWord w}" ++ c.hint
      | .notNumber => "invalid " ++ shownWord "not-a-number" ++ s!" argument: {shownWord w}" ++ c.hint
  match words with
  | [l] => return (one, one, ← read l)
  | [f, l] =>
    let first ← read f
    return (first, one, ← read l)
  | [f, s, l] =>
    let first ← read f
    let step ← read s
    if step.value.any fun x => x.mantissa = 0 then
      throw (s!"invalid Zero increment value: {shownWord s}" ++ c.hint)
    return (first, step, ← read l)
  | [] => throw ("missing operand" ++ c.hint)
  | _ :: _ :: _ :: x :: _ => throw (s!"extra operand {shownWord x}" ++ c.hint)

/-- Writes a sequence of numbers. -/
def seq : Tool := fun c =>
  let (optionWords, words) := sequenceWords c.args
  { c with args := optionWords }.withLeadingOptions sequenceRules 1 fun o =>
    let plan := do
      if words.isEmpty || 3 < words.length then
        let _ ← sequenceOperands c words
      let format ← (o.value? 'f').mapM shape
      if format.isSome && o.has 'w' then
        throw ("format string may not be specified when printing equal width strings" ++ c.hint)
      let (first, step, last) ← sequenceOperands c words
      return (format, first, step, last)
    match plan with
    | .error e => c.fails e 1
    | .ok (format, first, step, last) =>
      let s := format.getD (usualShape (o.has 'w') first step last)
      match first.value, step.value with
      | some f, some d =>
        let endless := last.value.isNone && last.negative = d.isNegative
        let xs := if last.value.isNone && !endless then [] else numbers s f d last.value most 0
        let separator := Utf8.encode ((o.value? 's').getD "\n")
        let shown (x : BinaryNumber) (i : Nat) : Bytes :=
          s.write x (x.isNegative || (i = 0 && first.negative && x.mantissa = 0))
        match xs with
        | [] => Effect.quiet c 0
        | x :: xs =>
          let out := shown x 0 ++ (xs.zipIdx 1).flatMap fun (p : BinaryNumber × Nat) => separator ++ shown p.1 p.2
          c.writes (if endless then out else out ++ [10])
      | _, _ => Effect.quiet c 0

end Tools

end Shell

end HyperEvolve
