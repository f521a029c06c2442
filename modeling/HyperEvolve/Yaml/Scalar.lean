import HyperEvolve.Text.Utf8
import HyperEvolve.Yaml.Cursor
import HyperEvolve.Yaml.Token

/-!
# Scalars in a settings text

Plain, quoted and block scalars. Each reader starts at the first character of the scalar and gives
its text with the position after it.
-/

namespace HyperEvolve

namespace Yaml

/-- What a line break and the further ones after it count for: one break alone is a space. -/
def foldBreaks (first more : List Char) : List Char :=
  if first ≠ ['\n'] then first ++ more else if more.isEmpty then [' '] else more

/-! ## Plain scalars -/

/-- Whether a plain scalar ends at a character, given the one after it. -/
def endsPlain (flow : Bool) (c : Char) (after : Option Char) : Bool :=
  let closesFlow := fun d => d = ',' || d = '[' || d = ']' || d = '{' || d = '}'
  atBlank (some c) || (c = ':' && (atBlank after || (flow && after.any closesFlow))) ||
    (flow && (closesFlow c || c = '?'))

/-- The characters of a plain scalar up to the next blank. -/
def plainWord (flow : Bool) : List Char → List Char
  | [] => []
  | c :: cs => if endsPlain flow c cs.head? then [] else c :: plainWord flow cs

/-- Line breaks and the spaces between them; none at a document mark. `fuel` bounds their number. -/
def plainBreaks : (fuel : Nat) → Cursor → Option (List Char) × Cursor
  | 0, c => (some [], c)
  | fuel + 1, c =>
    match c.peek with
    | some ' ' => plainBreaks fuel c.next
    | some ch =>
      if isBreak ch then
        let (br, c) := c.lineBreak
        if c.atDocumentMark then (none, c)
        else
          let (more, c) := plainBreaks fuel c
          (more.map (br ++ ·), c)
      else (some [], c)
    | none => (some [], c)

/-- The blanks after a word of a plain scalar. -/
structure PlainGap where
  /-- What they count for; nothing when the scalar ends. -/
  text : List Char
  cursor : Cursor
  /-- Whether they cross a line break. -/
  crosses : Bool

def plainGap (c : Cursor) : PlainGap :=
  let (spaces, c) := c.span (· = ' ')
  if !(c.peek.any isBreak) then ⟨spaces, c, false⟩
  else
    let (first, c) := c.lineBreak
    if c.atDocumentMark then ⟨[], c, true⟩
    else match plainBreaks (c.rest.length + 1) c with
      | (some more, c) => ⟨foldBreaks first more, c, true⟩
      | (none, c) => ⟨[], c, true⟩

/-- A plain scalar from a given position; `gap` holds the blanks before it. -/
def plainFrom (flow : Bool) (indent : Int) : (fuel : Nat) → (gap : List Char) → Cursor →
    List Char × Cursor × Bool
  | 0, _, c => ([], c, false)
  | fuel + 1, gap, c =>
    let word := plainWord flow c.rest
    if c.peek = some '#' || word.isEmpty then ([], c, !gap.isEmpty)
    else
      let g := plainGap (c.advance word.length)
      if g.text.isEmpty || g.cursor.peek = some '#' || (!flow && (g.cursor.column : Int) < indent) then
        (gap ++ word, g.cursor, g.crosses)
      else
        let (more, c, crosses) := plainFrom flow indent fuel g.text g.cursor
        (gap ++ word ++ more, c, if more.isEmpty then g.crosses else crosses)

/-- A plain scalar, and whether it ends past a line break. -/
def plainScalar (flow : Bool) (indent : Int) (c : Cursor) : List Char × Cursor × Bool :=
  plainFrom flow indent (c.rest.length + 1) [] c

/-! ## Quoted scalars -/

def hexValue? (c : Char) : Option Nat :=
  if c.isDigit then some (c.toNat - 48)
  else if 'a' ≤ c && c ≤ 'f' then some (c.toNat - 87)
  else if 'A' ≤ c && c ≤ 'F' then some (c.toNat - 55)
  else none

/-- The value of exactly `n` hexadecimal digits. -/
def hexNumber? (n : Nat) (cs : List Char) : Option Nat :=
  let ds := cs.take n
  if ds.length < n then none
  else (ds.mapM hexValue?).map fun vs => vs.foldl (fun acc v => acc * 16 + v) 0

/-- Escapes of one letter. -/
def letterEscape? : Char → Option Char
  | '0' => some '\x00'
  | 'a' => some '\x07'
  | 'b' => some '\x08'
  | 't' => some '\t'
  | '\t' => some '\t'
  | 'n' => some '\n'
  | 'v' => some '\x0b'
  | 'f' => some '\x0c'
  | 'r' => some '\r'
  | 'e' => some '\x1b'
  | ' ' => some ' '
  | '"' => some '"'
  | '\\' => some '\\'
  | '/' => some '/'
  | 'N' => some '\u0085'
  | '_' => some '\u00a0'
  | 'L' => some '\u2028'
  | 'P' => some '\u2029'
  | _ => none

/-- How many digits a numeric escape has. -/
def numericEscape? : Char → Option Nat
  | 'x' => some 2
  | 'u' => some 4
  | 'U' => some 8
  | _ => none

def codePoint (n : Nat) : Except Fault CodePoint :=
  if h : n < 0x110000 then .ok ⟨n, h⟩
  else if n < 0x80000000 then .error .codePointRange
  else .error .codePointOverflow

/-- Line breaks inside quotes with the blanks around them; a document mark may not stand there. -/
def quotedBreaks : (fuel : Nat) → Cursor → Except Fault (List Char × Cursor)
  | 0, c => .ok ([], c)
  | fuel + 1, c =>
    if c.atDocumentMark then .error .malformed
    else
      let c := c.skip fun ch => ch = ' ' || ch = '\t'
      if c.peek.any isBreak then do
        let (br, c) := c.lineBreak
        let (more, c) ← quotedBreaks fuel c
        return (br ++ more, c)
      else .ok ([], c)

/-- Blanks inside quotes: kept within a line, folded around line breaks. -/
def quotedGap (c : Cursor) : Except Fault (List Char × Cursor) :=
  let (blanks, c) := c.span fun ch => ch = ' ' || ch = '\t'
  match c.peek with
  | none => .error .malformed
  | some ch =>
    if isBreak ch then do
      let (first, c) := c.lineBreak
      let (more, c) ← quotedBreaks (c.rest.length + 1) c
      return (foldBreaks first more, c)
    else .ok (blanks, c)

/-- The escape after a backslash. -/
def escapeSequence (c : Cursor) : Except Fault (Text × Cursor) :=
  match c.peek with
  | none => .error .malformed
  | some ch =>
    match letterEscape? ch, numericEscape? ch with
    | some d, _ => .ok (Text.ofChars [d], c.next)
    | none, some n =>
      match hexNumber? n c.next.rest with
      | none => .error .malformed
      | some v => do
        let p ← codePoint v
        return ([p], c.next.advance n)
    | none, none =>
      if isBreak ch then do
        let (more, c) ← quotedBreaks (c.rest.length + 1) c.lineBreak.2
        return (Text.ofChars more, c)
      else .error .malformed

/-- The text up to the closing quote. -/
def quotedFrom (double : Bool) : (fuel : Nat) → Cursor → Except Fault (Text × Cursor)
  | 0, _ => .error .malformed
  | fuel + 1, c =>
    match c.peek with
    | none => .error .malformed
    | some ch =>
      if atBlank (some ch) then do
        let (gap, c) ← quotedGap c
        let (more, c) ← quotedFrom double fuel c
        return (Text.ofChars gap ++ more, c)
      else if !double && ch = '\'' && c.peekAt 1 = some '\'' then do
        let (more, c) ← quotedFrom double fuel (c.advance 2)
        return (Text.ofChars ['\''] ++ more, c)
      else if ch = (if double then '"' else '\'') then .ok ([], c.next)
      else if double && ch = '\\' then do
        let (text, c) ← escapeSequence c.next
        let (more, c) ← quotedFrom double fuel c
        return (text ++ more, c)
      else do
        let (more, c) ← quotedFrom double fuel c.next
        return (Text.ofChars [ch] ++ more, c)

/-- A quoted scalar. -/
def quotedScalar (double : Bool) (c : Cursor) : Except Fault (Text × Cursor) :=
  quotedFrom double (c.rest.length + 1) c.next

/-! ## Block scalars -/

/-- What happens to the line breaks at the end. -/
inductive Chomping where
  | clip
  | strip
  | keep
deriving DecidableEq, Repr

def chomping? : Char → Option Chomping
  | '+' => some .keep
  | '-' => some .strip
  | _ => none

def increment? (c : Char) : Option Nat := if c.isDigit then some (c.toNat - 48) else none

/-- The indicators after the sign: how to end, and by how much the lines are indented. -/
def blockHeader (c : Cursor) : Except Fault (Chomping × Option Nat × Cursor) :=
  let first := c.peek.bind chomping?
  let (chomping, increment, c) := match first with
    | some ch =>
      let c := c.next
      match c.peek.bind increment? with
      | some n => (ch, some n, c.next)
      | none => (ch, none, c)
    | none =>
      match c.peek.bind increment? with
      | some n =>
        let c := c.next
        match c.peek.bind chomping? with
        | some ch => (ch, some n, c.next)
        | none => (.clip, some n, c)
      | none => (.clip, none, c)
  if increment = some 0 || !atSpace c.peek then .error .malformed else .ok (chomping, increment, c)

/-- The rest of a line, which may hold a comment only. -/
def emptyLine (c : Cursor) : Except Fault Cursor :=
  let c := c.skipSpaces.skipComment
  if atBreak c.peek then .ok c.lineBreak.2 else .error .malformed

/-- Line breaks before the first line of a block, and the greatest column among them. -/
def blockIndentation : (fuel : Nat) → (deepest : Nat) → Cursor → List Char × Nat × Cursor
  | 0, deepest, c => ([], deepest, c)
  | fuel + 1, deepest, c =>
    match c.peek with
    | some ' ' => let c := c.next; blockIndentation fuel (max deepest c.column) c
    | some ch =>
      if isBreak ch then
        let (br, c) := c.lineBreak
        let (more, deepest, c) := blockIndentation fuel deepest c
        (br ++ more, deepest, c)
      else ([], deepest, c)
    | none => ([], deepest, c)

/-- Skips spaces up to a column. -/
def skipIndent (indent : Nat) (c : Cursor) : Cursor :=
  c.advance ((c.rest.takeWhile (· = ' ')).take (indent - c.column)).length

/-- Line breaks between the lines of a block. -/
def blockBreaks (indent : Nat) : (fuel : Nat) → Cursor → List Char × Cursor
  | 0, c => ([], c)
  | fuel + 1, c =>
    let c := skipIndent indent c
    if c.peek.any isBreak then
      let (br, c) := c.lineBreak
      let (more, c) := blockBreaks indent fuel c
      (br ++ more, c)
    else ([], c)

def atBlankInLine (o : Option Char) : Bool := o = some ' ' || o = some '\t'

/-- The lines of a block, `breaks` in front of them: its text, its last line break and the breaks
after that. -/
def blockLines (folded : Bool) (indent : Nat) : (fuel : Nat) → (breaks : List Char) → Cursor →
    List Char × List Char × List Char × Cursor
  | 0, breaks, c => ([], [], breaks, c)
  | fuel + 1, breaks, c =>
    if c.column ≠ indent || c.peek.isNone then ([], [], breaks, c)
    else
      let leading := atBlankInLine c.peek
      let (line, c) := c.span (!isBreak ·)
      let (br, c) := c.lineBreak
      let (more, c) := blockBreaks indent (c.rest.length + 1) c
      if c.column = indent && c.peek.isSome then
        let joint :=
          if folded && br = ['\n'] && !leading && !atBlankInLine c.peek then
            if more.isEmpty then [' '] else []
          else br
        let (text, last, rest, c) := blockLines folded indent fuel more c
        (breaks ++ line ++ joint ++ text, last, rest, c)
      else (breaks ++ line, br, more, c)

/-- A block scalar inside a block with the given indentation. -/
def blockScalar (folded : Bool) (indent : Int) (c : Cursor) : Except Fault (List Char × Cursor) := do
  let (chomping, increment, c) ← blockHeader c.next
  let c ← emptyLine c
  let least := (max (indent + 1) 1).toNat
  let (breaks, indent, c) := match increment with
    | none =>
      let (breaks, deepest, c) := blockIndentation (c.rest.length + 1) 0 c
      (breaks, max least deepest, c)
    | some n =>
      let indent := least + n - 1
      let (breaks, c) := blockBreaks indent (c.rest.length + 1) c
      (breaks, indent, c)
  let (text, last, rest, c) := blockLines folded indent (c.rest.length + 1) breaks c
  let ending := match chomping with
    | .strip => []
    | .clip => last
    | .keep => last ++ rest
  return (text ++ ending, c)

end Yaml

end HyperEvolve
