import HyperEvolve.Shell.Arithmetic
import HyperEvolve.Text.Utf8

/-!
# Escapes

Backslashes in the words and formats that are written. Which escapes there are depends on where they
stand.
-/

namespace HyperEvolve

namespace Shell

/-- Which escapes a text knows. Octal numbers may have a leading zero in front of their three digits,
one escape ends all output, and characters may be given by their numbers. Strict rules refuse a number
that has no digits. -/
structure EscapeRules where
  octalZero : Bool
  ending : Bool
  hexadecimal : Bool
  doubleQuote : Bool
  strict : Bool

/-- Escapes in a format. -/
def formatEscapes : EscapeRules := ⟨false, false, false, false, false⟩

/-- Escapes in an argument that is written with its escapes. -/
def argumentEscapes : EscapeRules := ⟨true, true, false, false, false⟩

/-- Escapes in the format of the stand-alone tool, which knows a few more. -/
def toolFormatEscapes : EscapeRules := ⟨false, true, true, true, true⟩

def toolArgumentEscapes : EscapeRules := ⟨true, true, true, true, true⟩

/-- Escapes in the words of the stand-alone writing tool. -/
def toolEchoEscapes : EscapeRules := ⟨true, true, true, false, false⟩

/-- What an escape leads to. -/
inductive Escaped where
  | bytes (bs : Bytes)
  /-- All output ends here. -/
  | ending
  | fault (text : String)
deriving DecidableEq, Repr

/-- Up to `limit` digits to a base: their value and the rest. -/
def takeDigits (base limit : Nat) (cs : List Char) : Nat × List Char :=
  let (n, k) := Arithmetic.digitsIn base (cs.take limit)
  (n, cs.drop k)

theorem takeDigits_length (base limit : Nat) (cs : List Char) :
    (takeDigits base limit cs).2.length ≤ cs.length := by
  simp [takeDigits]

def letterEscape? : Char → Option UInt8
  | 'a' => some 7
  | 'b' => some 8
  | 'e' => some 27
  | 'f' => some 12
  | 'n' => some 10
  | 'r' => some 13
  | 't' => some 9
  | 'v' => some 11
  | '\\' => some 92
  | _ => none

def charBytes (c : Char) : Bytes := Utf8.encode (String.ofList [c])

def isOctal (c : Char) : Bool := '0' ≤ c && c ≤ '7'

/-- Some more digits of a number to the base sixteen. -/
def hexText (width n : Nat) : String :=
  let ds := Nat.toDigits 16 n
  String.ofList (List.replicate (width - ds.length) '0' ++ ds)

/-- Whether a character may be given by its number: it must be printable and, of the first ones, one
that a program text may not hold as it is. -/
def mayBeNumbered (n : Nat) : Bool :=
  (0xA0 ≤ n || n = 0x24 || n = 0x40 || n = 0x60) && !(0xD800 ≤ n && n ≤ 0xDFFF)

/-- A character given by a number of exactly `width` digits. -/
def numberedChar (letter : Char) (width : Nat) (cs : List Char) : Escaped × List Char :=
  let (n, rest) := takeDigits 16 width cs
  if cs.length - rest.length < width then (.fault "missing hexadecimal number in escape", rest)
  else if mayBeNumbered n then (.bytes (charBytes (Char.ofNat n)), rest)
  else (.fault ("invalid universal character name \\" ++ String.singleton letter ++ hexText width n), rest)

/-- The escape after a backslash, and the rest. A backslash before anything else stands for itself. -/
def unescapeOne (rules : EscapeRules) (c : Char) (cs : List Char) : Escaped × List Char :=
  match letterEscape? c with
  | some b => (.bytes [b], cs)
  | none =>
    if c = 'c' && rules.ending then (.ending, cs)
    else if c = '"' && rules.doubleQuote then (.bytes [34], cs)
    else if c = 'x' && rules.hexadecimal then
      let (n, rest) := takeDigits 16 2 cs
      if rest.length < cs.length then (.bytes [UInt8.ofNat n], rest)
      else if rules.strict then (.fault "missing hexadecimal number in escape", cs)
      else (.bytes [92, 120], cs)
    else if c = 'u' && rules.strict then numberedChar 'u' 4 cs
    else if c = 'U' && rules.strict then numberedChar 'U' 8 cs
    else if c = '0' && rules.octalZero then
      let (n, rest) := takeDigits 8 3 cs
      (.bytes [UInt8.ofNat n], rest)
    else if isOctal c then
      let (n, rest) := takeDigits 8 2 cs
      let n := (c.toNat - 48) * Nat.pow 8 (cs.length - rest.length) + n
      (.bytes [UInt8.ofNat n], rest)
    else (.bytes (92 :: charBytes c), cs)

theorem numberedChar_length (letter : Char) (width : Nat) (cs : List Char) :
    (numberedChar letter width cs).2.length ≤ cs.length := by
  have := takeDigits_length 16 width cs
  unfold numberedChar
  grind

theorem unescapeOne_length (rules : EscapeRules) (c : Char) (cs : List Char) :
    (unescapeOne rules c cs).2.length ≤ cs.length := by
  have hex := takeDigits_length 16 2 cs
  have oct := takeDigits_length 8 3 cs
  have two := takeDigits_length 8 2 cs
  have four := numberedChar_length 'u' 4 cs
  have eight := numberedChar_length 'U' 8 cs
  unfold unescapeOne
  grind

/-- The bytes of a text with its escapes, and what has ended it before its time. -/
def unescape (rules : EscapeRules) : List Char → Bytes × Option Escaped
  | [] => ([], none)
  | '\\' :: c :: cs =>
    match (unescapeOne rules c cs).1 with
    | .bytes bs =>
      have := unescapeOne_length rules c cs
      let (more, stopped) := unescape rules (unescapeOne rules c cs).2
      (bs ++ more, stopped)
    | stopped => ([], some stopped)
  | c :: cs =>
    let (bs, stopped) := unescape rules cs
    (charBytes c ++ bs, stopped)
termination_by cs => cs.length

/-! ## Writing words -/

/-- How words are written: whether escapes are always read, and whether options ask for them. -/
structure EchoRules where
  escapes : Bool
  options : Bool
  rules : EscapeRules

/-- The way of the plain shell. -/
def plainEcho : EchoRules := ⟨true, false, argumentEscapes⟩

/-- The way of the stand-alone tool. -/
def toolEcho : EchoRules := ⟨false, true, toolEchoEscapes⟩

structure EchoState where
  newline : Bool
  escapes : Bool

/-- A word of options: a dash and letters that are all known. -/
def echoOption? (rules : EchoRules) (s : EchoState) (word : String) : Option EchoState :=
  if !rules.options then if word = "-n" then some { s with newline := false } else none
  else match word.toList with
    | '-' :: c :: cs =>
      (c :: cs).foldlM (fun s c =>
        if c = 'n' then some { s with newline := false }
        else if c = 'e' then some { s with escapes := true }
        else if c = 'E' then some { s with escapes := false }
        else none) s
    | _ => none

def echoOptions (rules : EchoRules) (s : EchoState) : List String → EchoState × List String
  | [] => (s, [])
  | w :: ws =>
    match echoOption? rules s w with
    | some s' => if rules.options then echoOptions rules s' ws else (s', ws)
    | none => (s, w :: ws)

/-- Words with blanks between them and a line end. -/
def echoed (rules : EchoRules) (args : List String) : Bytes :=
  let (s, words) := echoOptions rules ⟨true, rules.escapes⟩ args
  let line := " ".intercalate words
  let ending : Bytes := if s.newline then [10] else []
  if s.escapes then
    let (bs, stopped) := unescape rules.rules line.toList
    if stopped.isNone then bs ++ ending else bs
  else Utf8.encode line ++ ending

end Shell

end HyperEvolve
