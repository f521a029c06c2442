import HyperEvolve.Decimal.Integer
import HyperEvolve.Yaml.Scalar

/-!
# From text to tokens

Tokens are read from left to right. A key shows only at the colon after it, so the places where a key
could begin are remembered and its token is put in front later.
-/

namespace HyperEvolve

namespace Yaml

/-! ## Names, tags and directives -/

def invalid {α : Type} : Except Fault α := .error .malformed

def readName (c : Cursor) : Except Fault (String × Cursor) :=
  let (name, c) := c.span isWordChar
  if name.isEmpty then invalid else .ok (String.ofList name, c)

/-- What may follow the name of an anchor. -/
def endsAnchor (o : Option Char) : Bool :=
  atBlank o || o.any fun c => "?:,]\x7d%@".toList.contains c || c = Char.ofNat 96

/-- The name after the sign of an anchor or an alias. -/
def readAnchor (c : Cursor) : Except Fault (String × Cursor) := do
  let (name, c) ← readName c.next
  if endsAnchor c.peek then return (name, c) else invalid

def isUriChar (c : Char) : Bool := c.isAlphanum || "-;/?:@&=+$,_.!~*'()[]".toList.contains c

/-- Bytes written as percent signs with two digits each. -/
def uriBytes : (fuel : Nat) → Cursor → Except Fault (Bytes × Cursor)
  | 0, c => .ok ([], c)
  | fuel + 1, c =>
    if c.peek ≠ some '%' then .ok ([], c)
    else match hexNumber? 2 c.next.rest with
      | none => invalid
      | some n => do
        let (bs, c) ← uriBytes fuel (c.advance 3)
        return (UInt8.ofNat n :: bs, c)

/-- The characters of a tag. -/
def uriFrom : (fuel : Nat) → Cursor → Except Fault (List Char × Cursor)
  | 0, c => .ok ([], c)
  | fuel + 1, c =>
    match c.peek with
    | some '%' => do
      let (bs, c) ← uriBytes (c.rest.length + 1) c
      match Utf8.decode bs with
      | .error _ => invalid
      | .ok cs =>
        let (more, c) ← uriFrom fuel c
        return (cs ++ more, c)
    | some ch =>
      if isUriChar ch then do
        let (more, c) ← uriFrom fuel c.next
        return (ch :: more, c)
      else .ok ([], c)
    | none => .ok ([], c)

def readUri (c : Cursor) : Except Fault (String × Cursor) := do
  let (cs, after) ← uriFrom (c.rest.length + 1) c
  if after.index = c.index then invalid else return (String.ofList cs, after)

/-- A handle: an exclamation mark, or a word between two of them. -/
def readHandle (c : Cursor) : Except Fault (String × Cursor) :=
  if c.peek ≠ some '!' then invalid
  else
    let c := c.next
    if c.peek = some ' ' then .ok ("!", c)
    else
      let (name, c) := c.span isWordChar
      if c.peek = some '!' then .ok ("!" ++ String.ofList name ++ "!", c.next) else invalid

/-- A tag: its handle, if it is not given in full, and the rest. -/
def readTag (c : Cursor) : Except Fault (Option String × String × Cursor) := do
  let (handle, suffix, c) ←
    if c.peekAt 1 = some '<' then do
      let (uri, c) ← readUri (c.advance 2)
      if c.peek = some '>' then pure (none, uri, c.next) else invalid
    else if atBlank (c.peekAt 1) then pure (none, "!", c.next)
    else if ((c.rest.drop 1).takeWhile fun ch => !atSpace (some ch)).contains '!' then do
      let (handle, c) ← readHandle c
      let (uri, c) ← readUri c
      pure (some handle, uri, c)
    else do
      let (uri, c) ← readUri c.next
      pure (some "!", uri, c)
  if atSpace c.peek then return (handle, suffix, c) else invalid

def readDigits (c : Cursor) : Except Fault (Nat × Cursor) :=
  let (ds, c) := c.span Char.isDigit
  if ds.isEmpty then invalid
  else if Decimal.maxDigits < ds.length then .error (.integerLength ds.length)
  else .ok (ds.foldl (fun n d => n * 10 + (d.toNat - 48)) 0, c)

/-- A directive with the line it stands on. -/
def readDirective (c : Cursor) : Except Fault (Directive × Cursor) := do
  let (name, c) ← readName c.next
  if !atSpace c.peek then invalid
  else if name = "YAML" then
    let (major, c) ← readDigits c.skipSpaces
    if c.peek ≠ some '.' then invalid
    else
      let (_, c) ← readDigits c.next
      if !atSpace c.peek then invalid else return (.version major, ← emptyLine c)
  else if name = "TAG" then
    let (handle, c) ← readHandle c.skipSpaces
    if c.peek ≠ some ' ' then invalid
    else
      let (uri, c) ← readUri c.skipSpaces
      if !atSpace c.peek then invalid else return (.handle handle uri, ← emptyLine c)
  else return (.unknown, ← emptyLine (c.skip (!isBreak ·)))

/-! ## The state of reading -/

/-- A place where a key may have begun: the number of tokens before it, whether a key must stand
there, and its position. -/
structure KeyPlace where
  before : Nat
  required : Bool
  index : Nat
  line : Nat
  column : Nat

structure Scanner where
  cursor : Cursor
  /-- Tokens in reverse. -/
  tokens : List Token
  /-- How many brackets are open. -/
  flow : Nat
  /-- The indentation of the current block and of those around it. -/
  indent : Int
  outer : List Int
  keyAllowed : Bool
  /-- The places for keys, by the number of open brackets. -/
  places : List (Nat × KeyPlace)

namespace Scanner

def start (text : List Char) : Scanner := ⟨Cursor.start text, [], 0, -1, [], true, []⟩

def push (s : Scanner) (t : Token) : Scanner := { s with tokens := t :: s.tokens }

def move (s : Scanner) (c : Cursor) : Scanner := { s with cursor := c }

def inFlow (s : Scanner) : Bool := s.flow ≠ 0

/-- A token put in front of all but the first `before` tokens. -/
def insertAt (s : Scanner) (before : Nat) (t : Token) : Scanner :=
  let later := s.tokens.length - before
  { s with tokens := s.tokens.take later ++ t :: s.tokens.drop later }

/-- How far a key may reach. -/
def keyReach : Nat := 1024

def KeyPlace.isStale (p : KeyPlace) (c : Cursor) : Bool :=
  p.line ≠ c.line || keyReach < c.index - p.index

/-- Forgets the places that the position has left behind; a required key may not be lost. -/
def dropStale (s : Scanner) : Except Fault Scanner :=
  let (stale, live) := s.places.partition fun p => KeyPlace.isStale p.2 s.cursor
  if stale.any fun p => p.2.required then invalid else .ok { s with places := live }

/-- Forgets the place at the current depth. -/
def dropPlace (s : Scanner) : Except Fault Scanner :=
  match s.places.lookup s.flow with
  | some p =>
    if p.required then invalid else .ok { s with places := s.places.filter fun q => q.1 ≠ s.flow }
  | none => .ok s

/-- Remembers that a key may begin here. -/
def savePlace (s : Scanner) : Except Fault Scanner :=
  if s.keyAllowed then do
    let s ← s.dropPlace
    let c := s.cursor
    let required := !s.inFlow && s.indent = c.column
    return { s with places := s.places ++ [(s.flow, ⟨s.tokens.length, required, c.index, c.line, c.column⟩)] }
  else .ok s

/-- The indentations left over when a column is reached, and how many blocks end there. -/
def unwound (column : Int) (indent : Int) : List Int → Int × List Int × Nat
  | [] => (indent, [], 0)
  | o :: os =>
    if column < indent then
      let (indent, outer, n) := unwound column o os
      (indent, outer, n + 1)
    else (indent, o :: os, 0)

/-- Ends the blocks that are indented deeper than a column. -/
def unwind (s : Scanner) (column : Int) : Scanner :=
  if s.inFlow then s
  else
    let (indent, outer, n) := unwound column s.indent s.outer
    { s with indent, outer, tokens := List.replicate n .blockEnd ++ s.tokens }

/-- Opens a block at a column that is deeper than the current one; `before` tokens stand in front of
it. -/
def openBlock (s : Scanner) (column : Nat) (before : Nat) (t : Token) : Scanner :=
  if s.indent < column then
    { s.insertAt before t with indent := column, outer := s.indent :: s.outer }
  else s

/-! ## Reading one token -/

/-- Skips blanks, comments and line breaks; after a line break outside of brackets a key may begin. -/
def skipToToken : (fuel : Nat) → Scanner → Scanner
  | 0, s => s
  | fuel + 1, s =>
    let c := s.cursor.skipSpaces.skipComment
    if c.peek.any isBreak then
      skipToToken fuel { s with cursor := c.lineBreak.2, keyAllowed := s.keyAllowed || !s.inFlow }
    else s.move c

def skipMark (s : Scanner) : Scanner :=
  if s.cursor.index = 0 && s.cursor.peek = some '\ufeff' then s.move s.cursor.next else s

/-- A token that ends every block. -/
def endBlocks (s : Scanner) : Except Fault Scanner := do
  let s ← (s.unwind (-1)).dropPlace
  return { s with keyAllowed := false }

def documentMark (s : Scanner) (t : Token) : Except Fault Scanner := do
  let s ← s.endBlocks
  return (s.move (s.cursor.advance 3)).push t

def flowStart (s : Scanner) (t : Token) : Except Fault Scanner := do
  let s ← s.savePlace
  return { (s.move s.cursor.next).push t with flow := s.flow + 1, keyAllowed := true }

def flowEnd (s : Scanner) (t : Token) : Except Fault Scanner :=
  if s.flow = 0 then invalid
  else do
    let s ← s.dropPlace
    return { (s.move s.cursor.next).push t with flow := s.flow - 1, keyAllowed := false }

def flowEntry (s : Scanner) : Except Fault Scanner := do
  let s ← s.dropPlace
  return { (s.move s.cursor.next).push .flowEntry with keyAllowed := true }

/-- An entry of a block, or an explicit key: it may open a block. -/
def blockItem (s : Scanner) (opening t : Token) (keyAfter : Bool) : Except Fault Scanner :=
  if !s.inFlow && !s.keyAllowed then invalid
  else do
    let s := if s.inFlow then s else s.openBlock s.cursor.column s.tokens.length opening
    let s ← s.dropPlace
    return { (s.move s.cursor.next).push t with keyAllowed := keyAfter }

def value (s : Scanner) : Except Fault Scanner :=
  match s.places.lookup s.flow with
  | some p =>
    let s := { s with places := s.places.filter fun q => q.1 ≠ s.flow }
    let s := s.insertAt p.before .key
    let s := if s.inFlow then s else s.openBlock p.column p.before .mappingStart
    .ok { (s.move s.cursor.next).push .value with keyAllowed := false }
  | none => s.blockItem .mappingStart .value (!s.inFlow)

/-- A token that may begin a key. -/
def keyed (s : Scanner) (read : Cursor → Except Fault (Token × Cursor)) : Except Fault Scanner := do
  let s ← s.savePlace
  let (t, c) ← read s.cursor
  return { (s.move c).push t with keyAllowed := false }

def plain (s : Scanner) : Except Fault Scanner := do
  let s ← s.savePlace
  let (text, c, crosses) := plainScalar s.inFlow (s.indent + 1) s.cursor
  return { (s.move c).push (.scalar (Text.ofChars text) true) with keyAllowed := crosses }

def block (s : Scanner) (folded : Bool) : Except Fault Scanner := do
  let s ← s.dropPlace
  let (text, c) ← blockScalar folded s.indent s.cursor
  return { (s.move c).push (.scalar (Text.ofChars text) false) with keyAllowed := true }

/-- Signs that begin no plain scalar. -/
def isIndicator (c : Char) : Bool :=
  "-?:,[]\x7b\x7d#&*!|>'\"%@".toList.contains c || c = Char.ofNat 96

/-- Whether a plain scalar begins with a character, given the one after it. -/
def beginsPlain (s : Scanner) (c : Char) (after : Option Char) : Bool :=
  (!atBlank (some c) && !isIndicator c) ||
    (!atBlank after && (c = '-' || (!s.inFlow && (c = '?' || c = ':'))))

/-- The token that begins with a character. -/
def token (s : Scanner) (ch : Char) : Except Fault Scanner :=
  let c := s.cursor
  let after := c.peekAt 1
  let spaced := s.inFlow || atBlank after
  if ch = '%' && c.column = 0 then do
    let s ← s.endBlocks
    let (d, c) ← readDirective s.cursor
    return (s.move c).push (.directive d)
  else if ch = '-' && c.column = 0 && c.atSeparator '-' then s.documentMark .documentStart
  else if ch = '.' && c.column = 0 && c.atSeparator '.' then s.documentMark .documentEnd
  else if ch = '[' then s.flowStart .flowSequenceStart
  else if ch = '{' then s.flowStart .flowMappingStart
  else if ch = ']' then s.flowEnd .flowSequenceEnd
  else if ch = '}' then s.flowEnd .flowMappingEnd
  else if ch = ',' then s.flowEntry
  else if ch = '-' && atBlank after then s.blockItem .sequenceStart .blockEntry true
  else if ch = '?' && spaced then s.blockItem .mappingStart .key (!s.inFlow)
  else if ch = ':' && spaced then s.value
  else if ch = '*' then s.keyed fun c => do let (n, c) ← readAnchor c; return (.reference n, c)
  else if ch = '&' then s.keyed fun c => do let (n, c) ← readAnchor c; return (.anchor n, c)
  else if ch = '!' then s.keyed fun c => do let (h, t, c) ← readTag c; return (.tag h t, c)
  else if ch = '|' && !s.inFlow then s.block false
  else if ch = '>' && !s.inFlow then s.block true
  else if ch = '\'' then s.keyed fun c => do let (t, c) ← quotedScalar false c; return (.scalar t false, c)
  else if ch = '"' then s.keyed fun c => do let (t, c) ← quotedScalar true c; return (.scalar t false, c)
  else if s.beginsPlain ch after then s.plain
  else invalid

/-- How many of the tokens are settled: a place that may still become a key holds back the tokens from
there on. -/
def settled (s : Scanner) : Nat := s.places.foldl (fun n p => min n p.2.before) s.tokens.length

/-- The next token, none at the end. -/
def step (s : Scanner) : Except Fault (Option Scanner) := do
  let s ← (skipToToken (s.cursor.rest.length + 1) s.skipMark).dropStale
  let s := s.unwind s.cursor.column
  match s.cursor.peek with
  | none => return none
  | some ch => return some (← s.token ch)

/-- The tokens of a text that is at its end. -/
def finish (s : Scanner) : Except Fault (List Token) := do
  let s ← (skipToToken (s.cursor.rest.length + 1) s.skipMark).dropStale
  let s ← (s.unwind s.cursor.column).endBlocks
  return s.tokens.reverse

/-- Reads tokens to the end. A fault other than one of form stands as the last token behind those that
were settled before it. -/
def run : (fuel : Nat) → Scanner → Except Fault (List Token)
  | 0, _ => invalid
  | fuel + 1, s => do
    let s ← s.dropStale
    match s.step with
    | .ok (some s) => run fuel s
    | .ok none => s.finish
    | .error .malformed => invalid
    | .error f => return s.tokens.reverse.take s.settled ++ [.fault f]

end Scanner

/-- The tokens of a text, in which only some characters may stand. -/
def tokens (text : Text) : Except Fault (List Token) :=
  if text.isScalar && text.chars.all isAllowed then Scanner.run (text.length + 1) (.start text.chars)
  else invalid

end Yaml

end HyperEvolve
