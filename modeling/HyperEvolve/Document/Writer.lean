import HyperEvolve.Decimal.Shortest
import HyperEvolve.Document.Basic
import HyperEvolve.Text.Quoted

/-!
# Writing documents

The compact form has no blanks and only characters from the space to the tilde: every other code
point is written by its number, one beyond the basic plane as a pair of surrogates. The literal
form is the one that messages show.
-/

namespace HyperEvolve

namespace Document

/-! ## The compact form -/

def unitEscape (n : Nat) : List Char := '\\' :: 'u' :: Text.hexDigits 4 n

def writePoint (p : CodePoint) : List Char :=
  if p.val = 34 then ['\\', '"']
  else if p.val = 92 then ['\\', '\\']
  else if p.val = 10 then ['\\', 'n']
  else if p.val = 13 then ['\\', 'r']
  else if p.val = 9 then ['\\', 't']
  else if p.val = 8 then ['\\', 'b']
  else if p.val = 12 then ['\\', 'f']
  else if 32 ≤ p.val && p.val < 127 then [p.toChar]
  else if p.val < 0x10000 then unitEscape p.val
  else
    unitEscape (0xD800 + (p.val - 0x10000) / 1024) ++ unitEscape (0xDC00 + (p.val - 0x10000) % 1024)

def writeText (t : Text) : List Char := '"' :: (t.flatMap writePoint ++ ['"'])

def writeInt : Int → List Char
  | .ofNat n => Nat.toDigits 10 n
  | .negSucc n => '-' :: Nat.toDigits 10 (n + 1)

/-- Numbers are written positionally from 10⁻⁴ up to 10¹⁶, with an exponent outside. -/
def floatStyle : Decimal.Style := ⟨-4, 16, 2, "nan", "inf"⟩

def compactFloatStyle : Decimal.Style := { floatStyle with nan := "NaN", infinity := "Infinity" }

mutual
def write : Document → List Char
  | .null => "null".toList
  | .bool true => "true".toList
  | .bool false => "false".toList
  | .int n => writeInt n
  | .float x => (compactFloatStyle.write x).toList
  | .text t => writeText t
  | .array items => '[' :: (writeItems items ++ [']'])
  | .object fields => '{' :: (writeFields fields ++ ['}'])

def writeItems : List Document → List Char
  | [] => []
  | [d] => d.write
  | d :: ds => d.write ++ ',' :: writeItems ds

def writeFields : List (Text × Document) → List Char
  | [] => []
  | [(k, d)] => writeText k ++ ':' :: d.write
  | (k, d) :: fs => writeText k ++ ':' :: (d.write ++ ',' :: writeFields fs)
end

def compact (d : Document) : String := String.ofList d.write

/-! ## The literal form -/

mutual
def literal : Document → String
  | .null => "None"
  | .bool true => "True"
  | .bool false => "False"
  | .int n => String.ofList (writeInt n)
  | .float x => floatStyle.write x
  | .text t => t.quoted
  | .array items => "[" ++ ", ".intercalate (literalItems items) ++ "]"
  | .object fields => "\x7b" ++ ", ".intercalate (literalFields fields) ++ "\x7d"

def literalItems : List Document → List String
  | [] => []
  | d :: ds => d.literal :: literalItems ds

def literalFields : List (Text × Document) → List String
  | [] => []
  | (k, d) :: fs => (k.quoted ++ ": " ++ d.literal) :: literalFields fs
end

/-- A text is shown as it is, any other value in its literal form. -/
def shown : Document → Text
  | .text t => t
  | d => d.literal

/-- The word for the kind of a value in messages. -/
def kind : Document → String
  | .null => "NoneType"
  | .bool _ => "bool"
  | .int _ => "int"
  | .float _ => "float"
  | .text _ => "str"
  | .array _ => "list"
  | .object _ => "dict"

end Document

end HyperEvolve
