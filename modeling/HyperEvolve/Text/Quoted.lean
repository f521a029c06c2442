import HyperEvolve.Text.Printable

/-!
# Quoted texts

A text inside a message stands in single quotes, in double quotes when it holds a single quote and
no double quote. Backslash, quote and line controls are escaped by a letter, other hidden code
points by their number.
-/

namespace HyperEvolve

namespace Text

/-- `width` hexadecimal digits of `n`, in lower case. -/
def hexDigits : (width : Nat) → (n : Nat) → List Char
  | 0, _ => []
  | w + 1, n => hexDigits w (n / 16) ++ ["0123456789abcdef".toList.getD (n % 16) '0']

def quotedChar (quote : Char) (p : CodePoint) : List Char :=
  if p.val = quote.toNat || p.val = 92 then ['\\', p.toChar]
  else if p.val = 10 then ['\\', 'n']
  else if p.val = 13 then ['\\', 'r']
  else if p.val = 9 then ['\\', 't']
  else if 32 ≤ p.val && p.val < 127 then [p.toChar]
  else if p.isPrintable then [p.toChar]
  else if p.val < 0x100 then '\\' :: 'x' :: hexDigits 2 p.val
  else if p.val < 0x10000 then '\\' :: 'u' :: hexDigits 4 p.val
  else '\\' :: 'U' :: hexDigits 8 p.val

def quoteFor (t : Text) : Char :=
  if t.any (·.val = 39) && !t.any (·.val = 34) then '"' else '\''

def quoted (t : Text) : String :=
  let quote := quoteFor t
  String.ofList (quote :: t.flatMap (quotedChar quote) ++ [quote])

end Text

/-- The quoted form of a string. -/
def quotedString (s : String) : String := (Text.ofString s).quoted

end HyperEvolve
