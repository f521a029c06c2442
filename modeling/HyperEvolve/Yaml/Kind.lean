import HyperEvolve.Text.CodePoint

/-!
# Kinds of nodes

The kind of a node is given by its tag, or by the form of its text when it has none. Only plain
scalars are looked at: whatever is quoted is a text.
-/

namespace HyperEvolve

namespace Yaml

inductive Kind where
  | null
  | bool
  | int
  | float
  | binary
  | timestamp
  | text
  | sequence
  | mapping
  | orderedPairs
  | pairs
  | set
  | merge
  | default
  | unknown
deriving DecidableEq, Repr

namespace Kind

/-- The start of the names of all known tags. -/
def tagSpace : String := "tag:yaml.org,2002:"

def names : List (String × Kind) :=
  [("null", .null), ("bool", .bool), ("int", .int), ("float", .float), ("binary", .binary),
    ("timestamp", .timestamp), ("str", .text), ("seq", .sequence), ("map", .mapping),
    ("omap", .orderedPairs), ("pairs", .pairs), ("set", .set), ("merge", .merge), ("value", .default)]

def ofTag (tag : String) : Kind :=
  ((names.find? fun n => tagSpace ++ n.1 = tag).map Prod.snd).getD .unknown

/-! ## Forms of plain scalars -/

/-- A reader of forms: what may be left after a match, in every possible way. -/
abbrev Form := List Char → List (List Char)

namespace Form

def char (p : Char → Bool) : Form
  | c :: cs => if p c then [cs] else []
  | [] => []

def word (w : String) : Form := fun cs => if w.toList.isPrefixOf cs then [cs.drop w.length] else []

def seq (fs : List Form) : Form := fs.foldr (fun f g cs => (f cs).flatMap g) fun cs => [cs]

def alt (fs : List Form) : Form := fun cs => fs.flatMap fun f => f cs

def optional (f : Form) : Form := fun cs => f cs ++ [cs]

/-- Any run of characters of a class. -/
def many (p : Char → Bool) : Form
  | [] => [[]]
  | c :: cs => if p c then (c :: cs) :: many p cs else [c :: cs]

def many1 (p : Char → Bool) : Form := seq [char p, many p]

/-- One or more times a form; `fuel` bounds how often. -/
def repeat1 (f : Form) : Nat → Form
  | 0, _ => []
  | n + 1, cs => (f cs).flatMap fun r => repeat1 f n r ++ [r]

/-- Whether a form takes up a whole text, but for a line feed at its end. -/
def takes (f : Form) (cs : List Char) : Bool := (f cs).any fun r => r.isEmpty || r = ['\n']

end Form

open Form

def isIn (chars : String) (c : Char) : Bool := chars.toList.contains c

def sign : Form := optional (char (isIn "-+"))

def digit : Form := char Char.isDigit

def digitOrBar (c : Char) : Bool := c.isDigit || c = '_'

/-- A part of a number to the base sixty: a colon and a number below sixty. -/
def sixtieth : Form := seq [char (· = ':'), optional (char (isIn "012345")), digit]

def exponent : Form := optional (seq [char (isIn "eE"), char (isIn "-+"), many1 Char.isDigit])

def booleans : List String :=
  ["yes", "Yes", "YES", "no", "No", "NO", "true", "True", "TRUE", "false", "False", "FALSE", "on",
    "On", "ON", "off", "Off", "OFF"]

/-- Numbers with a point, to the base ten or sixty, and what is no finite number. -/
def floatForm (n : Nat) : Form := alt [
  seq [sign, digit, many digitOrBar, char (· = '.'), many digitOrBar, exponent],
  seq [char (· = '.'), digit, many digitOrBar, exponent],
  seq [sign, digit, many digitOrBar, repeat1 sixtieth n, char (· = '.'), many digitOrBar],
  seq [sign, char (· = '.'), alt [word "inf", word "Inf", word "INF"]],
  seq [char (· = '.'), alt [word "nan", word "NaN", word "NAN"]]]

/-- Integers to the bases two, eight, ten, sixteen and sixty. -/
def intForm (n : Nat) : Form := alt [
  seq [sign, word "0b", many1 (isIn "01_")],
  seq [sign, word "0", many1 (isIn "01234567_")],
  seq [sign, alt [word "0", seq [char (isIn "123456789"), many digitOrBar]]],
  seq [sign, word "0x", many1 fun c => c.isDigit || isIn "abcdefABCDEF_" c],
  seq [sign, char (isIn "123456789"), many digitOrBar, repeat1 sixtieth n]]

def blankInLine (c : Char) : Bool := c = ' ' || c = '\t'

def zone : Form :=
  seq [many blankInLine, alt [word "Z", seq [char (isIn "-+"), digit, optional digit,
    optional (seq [char (· = ':'), digit, digit])]]]

/-- Dates, and dates with a time of day. -/
def timestampForm : Form := alt [
  seq [digit, digit, digit, digit, word "-", digit, digit, word "-", digit, digit],
  seq [digit, digit, digit, digit, word "-", digit, optional digit, word "-", digit, optional digit,
    alt [char (isIn "Tt"), many1 blankInLine], digit, optional digit, word ":", digit, digit, word ":",
    digit, digit, optional (seq [word ".", many Char.isDigit]), optional zone]]

/-- The kind of a plain scalar. A lone mark of a tag, an anchor or an alias stands for the language itself,
of which there are no values. -/
def ofPlain (text : List Char) : Kind :=
  let n := text.length
  let takes (f : Form) := f.takes text
  if takes (alt (booleans.map word)) then .bool
  else if takes (floatForm n) then .float
  else if takes (intForm n) then .int
  else if takes (word "<<") then .merge
  else if text.isEmpty || takes (alt [word "~", word "null", word "Null", word "NULL"]) then .null
  else if takes timestampForm then .timestamp
  else if takes (word "=") then .default
  else if takes (char (isIn "!&*")) then .unknown
  else .text

end Kind

end Yaml

end HyperEvolve
