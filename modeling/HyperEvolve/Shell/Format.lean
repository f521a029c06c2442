import HyperEvolve.Decimal.Fixed
import HyperEvolve.Shell.Escape
import HyperEvolve.Shell.Quote

/-!
# Writing by a format

A format is a text with escapes and conversions. Each conversion takes an argument, and the format is
used again while arguments are left.
-/

namespace HyperEvolve

namespace Shell

namespace Format

/-- The two ways in which formats are read: that of a shell and that of the stand-alone tool. -/
structure Dialect where
  escapes : EscapeRules
  argumentEscapes : EscapeRules
  /-- The numbers in which fractions are held. -/
  precision : Decimal.Precision
  /-- Whether complaints quote the argument. -/
  tool : Bool

def plain : Dialect := ⟨formatEscapes, argumentEscapes, Decimal.double, false⟩

def tool : Dialect := ⟨toolFormatEscapes, toolArgumentEscapes, Decimal.extended, true⟩

/-- A conversion: flags, least width, precision and letter. -/
structure Conversion where
  left : Bool
  plus : Bool
  blank : Bool
  alternate : Bool
  zero : Bool
  width : Nat
  precision : Option Nat
  letter : Char

/-- A number in a conversion, which may be left to an argument. -/
inductive Amount where
  | none
  | given (n : Nat)
  | argument
deriving DecidableEq, Repr

/-- A conversion as it is written. -/
structure Spec where
  flags : List Char
  width : Amount
  precision : Amount
  letter : Char
  /-- Its text. -/
  source : String

inductive Piece where
  | escaped (e : Escaped)
  | conversion (s : Spec)
  /-- The format breaks off. -/
  | missing (source : String)

def amount (cs : List Char) : Amount × List Char :=
  match cs with
  | '*' :: rest => (.argument, rest)
  | _ =>
    let ds := cs.takeWhile Char.isDigit
    (if ds.isEmpty then .none else .given (Arithmetic.digitsIn 10 ds).1, cs.drop ds.length)

/-- Flags of a conversion. The stand-alone tool knows two more, which group digits. -/
def flagChars (tool : Bool) : List Char := ['-', '+', ' ', '#', '0'] ++ if tool then ['\'', 'I'] else []

/-- Letters for the size of a number, which the stand-alone tool passes over. -/
def sizeChars : List Char := ['l', 'L', 'h', 'j', 't', 'z']

/-- What follows a percent sign. -/
def readSpec (tool : Bool) (cs : List Char) : Piece × List Char :=
  let flags := cs.takeWhile (flagChars tool).contains
  let (width, rest) := amount (cs.drop flags.length)
  let (precision, rest) : Amount × List Char := match rest with
    | '.' :: rest =>
      match amount rest with
      | (.none, rest) => (.given 0, rest)
      | r => r
    | _ => (.none, rest)
  let rest := if tool then rest.dropWhile sizeChars.contains else rest
  let source (rest : List Char) := String.ofList ('%' :: cs.take (cs.length - rest.length))
  match rest with
  | c :: rest => (.conversion ⟨flags, width, precision, c, source rest⟩, rest)
  | [] => (.missing (source []), [])

/-- The letters that a conversion may have. The stand-alone tool refuses those that its flags and its
precision do not go with, and takes the two that quote only alone. -/
def Spec.isKnown (tool : Bool) (s : Spec) : Bool :=
  let letters := "aAceEfFgGdiosuxX".toList
  if !tool then ('b' :: letters).contains s.letter
  else if s.letter = 'b' || s.letter = 'q' then s.source.length = 2
  else
    let refused (flag : Char) : List Char := match flag with
      | '\'' | 'I' => "aAceEosxX".toList
      | '#' => "cdisu".toList
      | '0' => "cs".toList
      | _ => []
    letters.contains s.letter && !(s.flags.flatMap refused).contains s.letter &&
      !(s.letter = 'c' && s.precision ≠ .none)

/-- The pieces of a format; `fuel` bounds their number. -/
def pieces (d : Dialect) : (fuel : Nat) → List Char → List Piece
  | 0, _ => []
  | _ + 1, [] => []
  | fuel + 1, '%' :: '%' :: cs => .escaped (.bytes [37]) :: pieces d fuel cs
  | fuel + 1, '%' :: cs =>
    let (p, rest) := readSpec d.tool cs
    p :: pieces d fuel rest
  | fuel + 1, '\\' :: c :: cs =>
    let (e, rest) := unescapeOne d.escapes c cs
    .escaped e :: pieces d fuel rest
  | fuel + 1, c :: cs => .escaped (.bytes (charBytes c)) :: pieces d fuel cs

/-! ## Numbers -/

/-- What is wrong with an argument that should be a number. -/
inductive NumberFault where
  | none
  | notNumeric
  | partly
  | range
deriving DecidableEq, Repr

def isBlankChar (c : Char) : Bool := c = ' ' || (9 ≤ c.toNat && c.toNat ≤ 13)

/-- A sign at the start of a number. -/
def takeSign : List Char → Bool × List Char
  | '-' :: cs => (true, cs)
  | '+' :: cs => (false, cs)
  | cs => (false, cs)

def endFault (whole rest : List Char) (noDigits : Bool) : NumberFault :=
  if noDigits then if whole.isEmpty then .none else .notNumeric
  else if rest.isEmpty then .none else .partly

/-- The number of a character that follows a quote; a shell takes a quote alone for zero. -/
def quotedValue? (d : Dialect) (arg : List Char) : Option Nat :=
  match arg with
  | ['\''] | ['"'] => if d.tool then none else some 0
  | '\'' :: c :: _ | '"' :: c :: _ =>
    some (if d.tool then c.toNat else (charBytes c).headD 0 |>.toNat)
  | _ => none

/-- A whole number, kept in the range that a conversion can write. -/
def wholeNumber (d : Dialect) (signed : Bool) (arg : String) : Int × NumberFault :=
  match quotedValue? d arg.toList with
  | some n => (n, .none)
  | none =>
    let (negative, cs) := takeSign (arg.toList.dropWhile isBlankChar)
    let (n, k) := Arithmetic.numberAt cs
    let fault := endFault arg.toList (cs.drop k) (k = 0)
    let value : Int := if negative then -n else n
    let low : Int := if signed then -0x8000000000000000 else -0xFFFFFFFFFFFFFFFF
    let high : Int := if signed then 0x7FFFFFFFFFFFFFFF else 0xFFFFFFFFFFFFFFFF
    if value < low || high < value then
      (if signed then (if value < low then low else high) else high, .range)
    else (value, fault)

/-- A number with a fraction: a sign, and a value as a mantissa and an exponent to the base two. -/
inductive Real where
  | finite (negative : Bool) (mantissa : Nat) (exponent : Int)
  | infinite (negative : Bool)
  | nan
deriving DecidableEq, Repr

def startsWithWord (w : String) (cs : List Char) : Bool :=
  (cs.take w.length).map Char.toLower = w.toList

/-- The digits of a number with a point among them, how many stand behind the point, and what
follows. -/
def digitsAround (base : Nat) (cs : List Char) : List Char × Nat × List Char :=
  let digits := List.takeWhile fun c => (Arithmetic.digitIn? base c).isSome
  let whole := digits cs
  match cs.drop whole.length with
  | '.' :: rest =>
    let places := digits rest
    if (whole ++ places).isEmpty then ([], 0, cs) else (whole ++ places, places.length, rest.drop places.length)
  | rest => (whole, 0, rest)

/-- A number times a power of two, as a fraction. -/
def scaleTwo (n : Nat) (e : Int) : Nat × Nat :=
  if 0 ≤ e then (n * Nat.pow 2 e.toNat, 1) else (n, Nat.pow 2 (-e).toNat)

/-- An exponent after a letter at the start of a text, and its length. -/
def exponentAt (letter : Char) : List Char → Int × Nat
  | e :: cs =>
    if e.toLower ≠ letter then (0, 0)
    else
      let (negative, rest) := takeSign cs
      let (n, k) := Arithmetic.digitsIn 10 rest
      if k = 0 then (0, 0)
      else (if negative then -n else n, k + 1 + (cs.length - rest.length))
  | [] => (0, 0)

/-- The number at the start of a text past blanks, in the nearest form that a precision has. -/
def floating (p : Decimal.Precision) (arg : List Char) : Real × NumberFault :=
  let (negative, cs) := takeSign (arg.dropWhile isBlankChar)
  if startsWithWord "infinity" cs then (.infinite negative, endFault cs (cs.drop 8) false)
  else if startsWithWord "inf" cs then (.infinite negative, endFault cs (cs.drop 3) false)
  else if startsWithWord "nan" cs then (.nan, endFault cs (cs.drop 3) false)
  else
    let sixteens := startsWithWord "0x" cs && !(digitsAround 16 (cs.drop 2)).1.isEmpty
    let base := if sixteens then 16 else 10
    let (ds, places, rest) := digitsAround base (if sixteens then cs.drop 2 else cs)
    let (e, k) := exponentAt (if sixteens then 'p' else 'e') rest
    let rest := rest.drop k
    let n := (Arithmetic.digitsIn base ds).1
    let e := max (-20000) (min 20000 e)
    let (num, den) := if sixteens then scaleTwo n (e - 4 * places)
      else Decimal.scaleTen n 1 (max (-6000) (min 6000 (e - places)))
    let negative := negative && !ds.isEmpty
    let (m, x) := Decimal.nearestBinary p num den
    let (above, below) := Decimal.fraction m x
    let tiny := m < Nat.pow 2 (p.digits - 1) && num * below ≠ above * den
    if p.isTooLarge m x then (.infinite negative, .range)
    else (.finite negative m x, if tiny then .range else endFault arg rest ds.isEmpty)

def realNumber (d : Dialect) (arg : String) : Real × NumberFault :=
  match quotedValue? d arg.toList with
  | some n => (.finite false n 0, .none)
  | none => floating d.precision arg.toList

/-! ## Conversions -/

/-- Fills a text up to the least width. -/
def pad (c : Conversion) (bs : Bytes) : Bytes :=
  let missing := c.width - bs.length
  if c.left then bs ++ List.replicate missing 32 else List.replicate missing 32 ++ bs

def signText (c : Conversion) (negative : Bool) : List Char :=
  if negative then ['-'] else if c.plus then ['+'] else if c.blank then [' '] else []

/-- Sign and digits, filled up with zeros if the flags say so. -/
def padDigits (c : Conversion) (sign digits : List Char) (fill : Bool) : Bytes :=
  let zeros := if fill && c.zero && !c.left then c.width - (sign.length + digits.length) else 0
  pad c (Utf8.encode (String.ofList (sign ++ List.replicate zeros '0' ++ digits)))

/-- Digits of a whole number, at least as many as the precision says; zero has none of its own when
the precision is zero. -/
def wholeDigits (c : Conversion) (base : Nat) (n : Nat) : List Char :=
  let ds := if n = 0 && c.precision = some 0 then [] else Nat.toDigits base n
  List.replicate (c.precision.getD 0 - ds.length) '0' ++ ds

def writeSigned (c : Conversion) (n : Int) : Bytes :=
  padDigits c (signText c (n < 0)) (wholeDigits c 10 n.natAbs) c.precision.isNone

def writeUnsigned (c : Conversion) (n : Int) : Bytes :=
  let n := (n % 0x10000000000000000).toNat
  let fill := c.precision.isNone
  match c.letter with
  | 'o' =>
    let ds := wholeDigits c 8 n
    padDigits c [] (if c.alternate && ds.head? ≠ some '0' then '0' :: ds else ds) fill
  | 'x' => padDigits c (if c.alternate && n ≠ 0 then ['0', 'x'] else []) (wholeDigits c 16 n) fill
  | 'X' =>
    padDigits c (if c.alternate && n ≠ 0 then ['0', 'X'] else [])
      ((wholeDigits c 16 n).map Char.toUpper) fill
  | _ => padDigits c [] (wholeDigits c 10 n) fill

/-- An exponent with its sign and at least two digits. -/
def exponentText (e : Int) : List Char :=
  let ds := Nat.toDigits 10 e.natAbs
  'e' :: (if e < 0 then '-' else '+') :: (List.replicate (2 - ds.length) '0' ++ ds)

def scientificText (c : Conversion) (places num den : Nat) : List Char :=
  let (n, e) := Decimal.scientific places num den
  let ds := Decimal.pointed places n
  (if places = 0 && c.alternate then ds ++ ['.'] else ds) ++ exponentText e

/-- Drops zeros at the end of the places, and the point if nothing follows it. -/
def withoutZeros (ds : List Char) : List Char :=
  if !ds.contains '.' then ds
  else
    let ds := (ds.reverse.dropWhile (· = '0')).reverse
    if ds.getLast? = some '.' then ds.dropLast else ds

/-- The shorter of the two forms for a number of significant digits. -/
def generalText (c : Conversion) (digits num den : Nat) : List Char :=
  let digits := max digits 1
  let (n, e) := Decimal.scientific (digits - 1) num den
  if e < -4 || (digits : Int) ≤ e then
    let ds := Decimal.pointed (digits - 1) n
    (if c.alternate then ds else withoutZeros ds) ++ exponentText e
  else
    let ds := Decimal.fixed ((digits : Int) - 1 - e).toNat num den
    if c.alternate then ds else withoutZeros ds

/-- A number to the base sixteen with an exponent to the base two. Its first digit holds the first bit
of a mantissa whose other bits fill the places, or four bits if they do not. -/
def binaryText (p : Decimal.Precision) (c : Conversion) (m : Nat) (e : Int) : List Char :=
  let full := (p.digits - 1) / 4
  let shift := if m = 0 then 0 else min (p.digits - 1 - Nat.log2 m) (e - p.least).toNat
  let m := m * Nat.pow 2 shift
  let exponent : Int := if m = 0 then 0 else e - shift + 4 * full
  let places := c.precision.getD full
  let n := if places < full then Decimal.roundDiv m (Nat.pow 16 (full - places))
    else m * Nat.pow 16 (places - full)
  let lead := n / Nat.pow 16 places
  let carried := lead = 16
  let (lead, exponent) := if carried then (1, exponent + 4) else (lead, exponent)
  let ds := Nat.toDigits 16 (n % Nat.pow 16 places)
  let ds := if places = 0 then [] else List.replicate (places - ds.length) '0' ++ ds
  let ds := if c.precision.isNone then (ds.reverse.dropWhile (· = '0')).reverse else ds
  let point := if ds.isEmpty && !c.alternate then [] else ['.']
  let power := Nat.toDigits 10 exponent.natAbs
  Nat.toDigits 16 lead ++ point ++ ds ++ 'p' :: (if exponent < 0 then '-' else '+') :: power

/-- A number in one of the three decimal forms. -/
def decimalText (c : Conversion) (m : Nat) (e : Int) : List Char :=
  let (num, den) := Decimal.fraction m e
  let places := c.precision.getD 6
  match c.letter.toLower with
  | 'e' => scientificText c places num den
  | 'f' =>
    let ds := Decimal.fixed places num den
    if places = 0 && c.alternate then ds ++ ['.'] else ds
  | _ => generalText c places num den

def writeReal (p : Decimal.Precision) (c : Conversion) (x : Real) : Bytes :=
  let upper (ds : List Char) := if c.letter.isUpper then ds.map Char.toUpper else ds
  match x with
  | .nan => padDigits c (signText c false) (upper "nan".toList) false
  | .infinite negative => padDigits c (signText c negative) (upper "inf".toList) false
  | .finite negative m e =>
    if c.letter.toLower = 'a' then
      padDigits c (signText c negative ++ upper ['0', 'x']) (upper (binaryText p c m e)) true
    else padDigits c (signText c negative) (upper (decimalText c m e)) true

/-! ## Passes over a format -/

/-- What a format has led to so far. -/
structure State where
  /-- In reverse. -/
  output : List Bytes
  complaints : List String
  args : List String
  used : Bool
  going : Bool
  status : Nat

abbrev Run := StateM State

def takeArg : Run (Option String) := do
  let s ← get
  set { s with args := s.args.tail, used := true }
  return s.args.head?

def emit (bs : Bytes) : Run Unit := modify fun s => { s with output := bs :: s.output }

def complain (text : String) : Run Unit :=
  modify fun s => { s with complaints := s.complaints ++ [text], status := 1 }

/-- A fault that ends all output. -/
def fail (d : Dialect) (text : String) : Run Unit :=
  modify fun s => { s with
    complaints := s.complaints ++ [text], status := if d.tool then 1 else 2, going := false }

/-- Ends all output; the stand-alone tool then forgets its complaints. -/
def stop (d : Dialect) : Run Unit :=
  modify fun s => { s with going := false, status := if d.tool then 0 else s.status }

/-- Writes what an escape leads to. -/
def emitEscaped (d : Dialect) : Escaped → Run Unit
  | .bytes bs => emit bs
  | .ending => stop d
  | .fault text => fail d text

def checkNumber (d : Dialect) (arg : String) (fault : NumberFault) : Run Unit :=
  let shown := if d.tool then shownWord arg else arg
  match fault with
  | .none => pure ()
  | .notNumeric => complain (shown ++ if d.tool then ": expected a numeric value" else ": expected numeric value")
  | .partly =>
    complain (shown ++ if d.tool then ": value not completely converted" else ": not completely converted")
  | .range => complain (shown ++ ": Numerical result out of range")

def whole (d : Dialect) (signed : Bool) : Run Int := do
  match ← takeArg with
  | none => return 0
  | some arg =>
    let (n, fault) := wholeNumber d signed arg
    checkNumber d arg fault
    return n

def real (d : Dialect) : Run Real := do
  match ← takeArg with
  | none => return .finite false 0 0
  | some arg =>
    let (x, fault) := realNumber d arg
    checkNumber d arg fault
    return x

/-- The greatest width or precision. -/
def greatestAmount : Nat := 0x7FFFFFFF

/-- A number for width or precision, with its sign. -/
def amountValue (d : Dialect) (what : String) : Amount → Run (Option Int)
  | .none => return none
  | .given n => do
    if n ≤ greatestAmount then return some n
    else
      fail d (if d.tool then "write error" else what)
      return none
  | .argument => do
    let arg := (← get).args.headD ""
    let n ← whole d true
    if n ≤ greatestAmount && -(greatestAmount : Int) - 1 ≤ n then return some n
    else
      fail d ("invalid " ++ what ++ ": " ++ shownWord arg)
      return none

def convert (d : Dialect) (s : Spec) : Run Unit := do
  let width := (← amountValue d "field width" s.width).getD 0
  let precision := (← amountValue d "precision" s.precision).bind fun n => if n < 0 then none else some n.toNat
  if !(← get).going then return
  let c : Conversion :=
    { left := s.flags.contains '-' || width < 0
      plus := s.flags.contains '+'
      blank := s.flags.contains ' '
      alternate := s.flags.contains '#'
      zero := s.flags.contains '0'
      width := width.natAbs
      precision
      letter := s.letter }
  if !s.isKnown d.tool then
    fail d (s.source ++ if d.tool then ": invalid conversion specification" else ": invalid directive")
  else match s.letter with
    | 's' =>
      let bs := Utf8.encode ((← takeArg).getD "")
      emit (pad c (match precision with | some p => bs.take p | none => bs))
    | 'b' =>
      let (bs, stopped) := unescape d.argumentEscapes ((← takeArg).getD "").toList
      emit (pad c (match precision with | some p => bs.take p | none => bs))
      stopped.forM (emitEscaped d)
    | 'q' => emit (Utf8.encode (((← takeArg).map quotedWord).getD ""))
    | 'c' =>
      let bs := Utf8.encode ((← takeArg).getD "")
      emit (pad c (if bs.isEmpty then [0] else bs.take 1))
    | 'd' | 'i' => emit (writeSigned c (← whole d true))
    | 'u' | 'o' | 'x' | 'X' => emit (writeUnsigned c (← whole d false))
    | _ => emit (writeReal d.precision c (← real d))

def pass (d : Dialect) : List Piece → Run Unit
  | [] => return
  | p :: ps => do
    match p with
    | .escaped e => emitEscaped d e
    | .missing source =>
      fail d (if d.tool then source ++ ": invalid conversion specification" else "missing format character")
    | .conversion s => convert d s
    if (← get).going then pass d ps

/-- A format is used again while arguments are left that it takes. -/
def passes (d : Dialect) (ps : List Piece) : (fuel : Nat) → Run Unit
  | 0 => return
  | fuel + 1 => do
    modify fun s => { s with used := false }
    pass d ps
    let s ← get
    if s.going && s.used && !s.args.isEmpty then passes d ps fuel

/-- What a format and its arguments come to: output, complaints and a status. -/
def write (d : Dialect) (format : String) (args : List String) : Bytes × List String × Nat :=
  let ps := pieces d (format.length + 1) format.toList
  let s := ((passes d ps (args.length + 1)).run ⟨[], [], args, false, true, 0⟩).2
  let warning := match s.args with
    | w :: _ => if d.tool && s.going then ["warning: ignoring excess arguments, starting with " ++ shownWord w] else []
    | [] => []
  (s.output.reverse.flatten, s.complaints ++ warning, s.status)

end Format

end Shell

end HyperEvolve
