import HyperEvolve.Text.Utf8

/-!
# Words in quotes

How complaints show a word, and how a word is written so that a shell reads it back.
-/

namespace HyperEvolve

namespace Shell

/-- Characters that a shell does not take as they are, wherever they stand. -/
def specialChars : List Char := " !\"$&'()*;<=>?[\\^|".toList ++ [Char.ofNat 96]

/-- Characters that cannot be shown. -/
def isControl (c : Char) : Bool := c.toNat < 32 || (127 ≤ c.toNat && c.toNat < 160)

/-- Whether a word has to stand in quotes. -/
def needsQuotes (s : String) : Bool :=
  s.isEmpty || s.startsWith "#" || s.startsWith "~" || s = "\x7b" || s = "\x7d" ||
    s.toList.any fun c => specialChars.contains c || isControl c

def letterOf? (c : Char) : Option Char :=
  [(7, 'a'), (8, 'b'), (9, 't'), (10, 'n'), (11, 'v'), (12, 'f'), (13, 'r')].lookup c.toNat

/-- A byte by its number. -/
def octalEscape (b : UInt8) : String :=
  let ds := Nat.toDigits 8 b.toNat
  "\\" ++ String.ofList (List.replicate (3 - ds.length) '0' ++ ds)

/-- A character that cannot be shown, as an escape. -/
def controlEscape (c : Char) : String :=
  match letterOf? c with
  | some l => "\\" ++ String.singleton l
  | none => String.join ((Utf8.encode (String.singleton c)).map octalEscape)

/-- A character between the quotes that complaints use: a backslash is doubled and a quote protected. -/
def shownChar (c : Char) : String :=
  if c = '\\' then "\\\\"
  else if c = '\u2019' then "\\\u2019"
  else if isControl c then controlEscape c
  else String.singleton c

/-- A word in the quotes that complaints use. -/
def shownWord (s : String) : String := "\u2018" ++ String.join (s.toList.map shownChar) ++ "\u2019"

/-- Characters of a word in single quotes, which close before a quote and before characters that
cannot be shown. `escaped` says that the characters just written are such ones. -/
def quotedChars : (escaped : Bool) → List Char → List Char
  | _, [] => []
  | escaped, c :: cs =>
    if isControl c then
      (if escaped then [] else ['\'', '$', '\'']) ++ (controlEscape c).toList ++ quotedChars true cs
    else if c = '\'' then ['\'', '\\', '\'', '\''] ++ quotedChars false cs
    else (if escaped then ['\'', '\''] else []) ++ c :: quotedChars false cs

/-- Whether a word with single quotes may stand in double ones. -/
def fitsDoubleQuotes (s : String) : Bool :=
  let first := (s.startsWith "#" || s.startsWith "~")
  (if first then s.toList.drop 1 else s.toList).all fun c =>
    c.isAlphanum || "%+,-./:]_ '@".toList.contains c || 160 ≤ c.toNat

/-- A word in quotes as a shell reads it back. -/
def inQuotes (s : String) : String :=
  if s.toList.contains '\'' && fitsDoubleQuotes s then "\"" ++ s ++ "\""
  else String.ofList ('\'' :: quotedChars false s.toList ++ ['\''])

/-- A word as a shell reads it back, in quotes if it needs them. -/
def quotedWord (s : String) : String := if needsQuotes s then inQuotes s else s

/-- The name of a file in front of a colon. -/
def quotedName (s : String) : String := if needsQuotes s || s.toList.contains ':' then inQuotes s else s

end Shell

end HyperEvolve
