import HyperEvolve.Text.CodePoint

/-!
# Bytes as text

Strict decoding names the first fault with its byte range; lenient decoding puts U+FFFD for each
faulty range. A range is the longest start of a sequence that could still have been completed.
Encoding is strict as well: a surrogate that stands alone has no bytes.
-/

namespace HyperEvolve

abbrev Bytes := List UInt8

namespace Utf8

inductive Reason where
  | invalidStart
  | invalidContinuation
  | unexpectedEnd
deriving DecidableEq, Repr

/-- What stands at the head of the input: a character with the number of bytes after the first,
or a fault with the number of further bytes in its range. -/
inductive Head where
  | char (c : Char) (more : Nat)
  | fault (reason : Reason) (more : Nat)

def isContinuation (b : UInt8) : Bool := 0x80 ≤ b && b < 0xC0

def low6 (b : UInt8) : Nat := b.toNat % 64

/-- Whether `second` may follow `first`: neither overlong forms, surrogates nor numbers past the
last code point are sequences. -/
def secondFits (first second : UInt8) : Bool :=
  isContinuation second && !(first == 0xE0 && second < 0xA0) && !(first == 0xED && 0xA0 ≤ second) &&
    !(first == 0xF0 && second < 0x90) && !(first == 0xF4 && 0x90 ≤ second)

def head (first : UInt8) (rest : Bytes) : Head :=
  if first < 0x80 then .char (Char.ofNat first.toNat) 0
  else if first < 0xC2 then .fault .invalidStart 0
  else if first < 0xE0 then
    match rest with
    | [] => .fault .unexpectedEnd 0
    | b :: _ =>
      if isContinuation b then .char (Char.ofNat ((first.toNat % 32) * 64 + low6 b)) 1
      else .fault .invalidContinuation 0
  else if first < 0xF0 then
    match rest with
    | [] => .fault .unexpectedEnd 0
    | b :: rest' =>
      if !secondFits first b then .fault .invalidContinuation 0
      else match rest' with
        | [] => .fault .unexpectedEnd 1
        | c :: _ =>
          if isContinuation c then
            .char (Char.ofNat ((first.toNat % 16) * 4096 + low6 b * 64 + low6 c)) 2
          else .fault .invalidContinuation 1
  else if first < 0xF5 then
    match rest with
    | [] => .fault .unexpectedEnd 0
    | b :: rest' =>
      if !secondFits first b then .fault .invalidContinuation 0
      else match rest' with
        | [] => .fault .unexpectedEnd 1
        | c :: rest'' =>
          if !isContinuation c then .fault .invalidContinuation 1
          else match rest'' with
            | [] => .fault .unexpectedEnd 2
            | d :: _ =>
              if isContinuation d then
                .char (Char.ofNat ((first.toNat % 8) * 262144 + low6 b * 4096 + low6 c * 64 + low6 d)) 3
              else .fault .invalidContinuation 2
  else .fault .invalidStart 0

end Utf8

/-- Why bytes are no text in the named encoding: the range from `start` up to `stop`. -/
structure DecodeFault where
  encoding : String
  first : UInt8
  start : Nat
  stop : Nat
  reason : String
deriving DecidableEq, Repr

namespace DecodeFault

def hexDigit (n : Nat) : Char := "0123456789abcdef".toList.getD n '0'

def hexByte (b : UInt8) : String :=
  String.ofList ['0', 'x', hexDigit (b.toNat / 16), hexDigit (b.toNat % 16)]

def message (f : DecodeFault) : String :=
  let place :=
    if f.stop = f.start + 1 then s!"byte {hexByte f.first} in position {f.start}"
    else s!"bytes in position {f.start}-{f.stop - 1}"
  s!"'{f.encoding}' codec can't decode {place}: {f.reason}"

end DecodeFault

namespace Utf8

def Reason.text : Reason → String
  | .invalidStart => "invalid start byte"
  | .invalidContinuation => "invalid continuation byte"
  | .unexpectedEnd => "unexpected end of data"

def decodeFrom (pos : Nat) : Bytes → Except DecodeFault (List Char)
  | [] => .ok []
  | b :: rest =>
    match head b rest with
    | .char c more => (decodeFrom (pos + 1 + more) (rest.drop more)).map (c :: ·)
    | .fault r more => .error ⟨"utf-8", b, pos, pos + 1 + more, r.text⟩
termination_by bs => bs.length

/-- The text that the bytes encode, or the first fault. -/
def decode (bs : Bytes) : Except DecodeFault (List Char) := decodeFrom 0 bs

/-- The text with U+FFFD in place of every faulty range. -/
def decodeLossy : Bytes → List Char
  | [] => []
  | b :: rest =>
    match head b rest with
    | .char c more => c :: decodeLossy (rest.drop more)
    | .fault _ more => Char.ofNat 0xFFFD :: decodeLossy (rest.drop more)
termination_by bs => bs.length

def encode (s : String) : Bytes := s.toUTF8.data.toList

/-- Three bytes that stand for a surrogate where surrogates may pass. -/
def surrogate? : Bytes → Option CodePoint
  | 0xED :: b :: c :: _ =>
    if 0xA0 ≤ b && isContinuation b && isContinuation c then
      some (.ofNat (0xD000 + low6 b * 64 + low6 c))
    else none
  | _ => none

/-- The text that the bytes encode when surrogates may pass, or the first fault. -/
def decodePassing (pos : Nat) : Bytes → Except DecodeFault Text
  | [] => .ok []
  | b :: rest =>
    match surrogate? (b :: rest) with
    | some p => (decodePassing (pos + 3) (rest.drop 2)).map (p :: ·)
    | none =>
      match head b rest with
      | .char c more => (decodePassing (pos + 1 + more) (rest.drop more)).map (.ofChar c :: ·)
      | .fault r more => .error ⟨"utf-8", b, pos, pos + 1 + more, r.text⟩
termination_by bs => bs.length

end Utf8

/-- Surrogates from `start` up to `stop` that have no bytes. -/
structure EncodeFault where
  first : CodePoint
  start : Nat
  stop : Nat
deriving DecidableEq, Repr

namespace EncodeFault

/-- The number of a code point in a message, with two, four or eight digits. -/
def shownPoint (n : Nat) : String :=
  let digits (count : Nat) : String :=
    String.ofList ((List.range count).reverse.map fun i => DecodeFault.hexDigit (n / Nat.pow 16 i % 16))
  if n < 0x100 then "\\x" ++ digits 2
  else if n < 0x10000 then "\\u" ++ digits 4
  else "\\U" ++ digits 8

/-- What cannot be encoded and where. -/
def shownPlace (f : EncodeFault) : String :=
  if f.stop = f.start + 1 then s!"character '{shownPoint f.first.val}' in position {f.start}"
  else s!"characters in position {f.start}-{f.stop - 1}"

def message (f : EncodeFault) : String :=
  s!"'utf-8' codec can't encode {f.shownPlace}: surrogates not allowed"

/-- The message about a text that had to be in ASCII. -/
def asciiMessage (f : EncodeFault) : String :=
  s!"'ascii' codec can't encode {f.shownPlace}: ordinal not in range(128)"

end EncodeFault

namespace Utf8

/-- The bytes of a code point that is no surrogate. -/
def point (p : CodePoint) : Bytes := encode (String.singleton p.toChar)

/-- A byte that a surrogate stands for in a name of the operating system. -/
def escapedByte? (p : CodePoint) : Option UInt8 :=
  if 0xDC80 ≤ p.val && p.val ≤ 0xDCFF then some (UInt8.ofNat (p.val - 0xDC00)) else none

/-- The bytes of a text; `byte?` gives those surrogates a byte that have one. A fault covers the
surrogates up to the next code point that is none. -/
def encodeWith (byte? : CodePoint → Option UInt8) (pos : Nat) : Text → Except EncodeFault Bytes
  | [] => .ok []
  | p :: rest =>
    if p.isSurrogate then
      match byte? p with
      | some b => (encodeWith byte? (pos + 1) rest).map (b :: ·)
      | none => .error ⟨p, pos, pos + 1 + (rest.takeWhile CodePoint.isSurrogate).length⟩
    else (encodeWith byte? (pos + 1) rest).map (point p ++ ·)

/-- The bytes of a text, or the first surrogates in it. -/
def encodeText (t : Text) : Except EncodeFault Bytes := encodeWith (fun _ => none) 0 t

/-- The bytes of a name of the operating system. -/
def encodeName (t : Text) : Except EncodeFault Bytes := encodeWith escapedByte? 0 t

end Utf8

end HyperEvolve
