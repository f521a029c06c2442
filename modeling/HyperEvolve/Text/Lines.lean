import HyperEvolve.Text.CodePoint

/-!
# Blank characters and lines

Three small rules: which characters are trimmed from the ends of a message, where a shown text is
cut into lines, and how the line ends of a file are unified.
-/

namespace HyperEvolve

namespace Text

/-- Characters trimmed from both ends: the control separators and every Unicode space. -/
def isBlank (c : Char) : Bool :=
  let n := c.toNat
  (9 ≤ n && n ≤ 13) || (28 ≤ n && n ≤ 32) || n == 0x85 || n == 0xA0 || n == 0x1680 ||
    (0x2000 ≤ n && n ≤ 0x200A) || n == 0x2028 || n == 0x2029 || n == 0x202F || n == 0x205F ||
    n == 0x3000

def trimChars (cs : List Char) : List Char :=
  ((cs.dropWhile isBlank).reverse.dropWhile isBlank).reverse

/-- Drops blank characters at both ends. -/
def trim (s : String) : String := String.ofList (trimChars s.toList)

/-- Line feeds stand for every line end: a carriage return, with or without a line feed after it,
becomes one. -/
def unifyNewlines : List Char → List Char
  | '\r' :: '\n' :: cs => '\n' :: unifyNewlines cs
  | '\r' :: cs => '\n' :: unifyNewlines cs
  | c :: cs => c :: unifyNewlines cs
  | [] => []

/-- Code points at which a shown text breaks into lines. -/
def isLineBreak (p : CodePoint) : Bool :=
  (10 ≤ p.val && p.val ≤ 13) || (28 ≤ p.val && p.val ≤ 30) || p.val == 0x85 || p.val == 0x2028 ||
    p.val == 0x2029

/-- `line` holds the current line in reverse. A carriage return followed by a line feed is one
break, and a break at the end opens no further line. -/
def linesFrom (line : Text) : Text → List Text
  | [] => if line.isEmpty then [] else [line.reverse]
  | p :: rest =>
    if p.val = 13 then
      match rest with
      | q :: rest' => if q.val = 10 then line.reverse :: linesFrom [] rest'
                      else line.reverse :: linesFrom [] (q :: rest')
      | [] => [line.reverse]
    else if isLineBreak p then line.reverse :: linesFrom [] rest
    else linesFrom (p :: line) rest
termination_by t => t.length

def lines (t : Text) : List Text := linesFrom [] t

end Text

end HyperEvolve
