import HyperEvolve.Text.Utf8

/-!
# Encodings of a document

The encoding of a document given as bytes shows in its first bytes: a byte order mark, or the zeros
that its first characters leave in the wider encodings.
-/

namespace HyperEvolve

inductive Encoding where
  | utf8
  | utf8Marked
  | utf16 (bigEndian marked : Bool)
  | utf32 (bigEndian marked : Bool)
deriving DecidableEq, Repr

namespace Encoding

def detect : Bytes → Encoding
  | 0x00 :: 0x00 :: 0xFE :: 0xFF :: _ => .utf32 true true
  | 0xFF :: 0xFE :: 0x00 :: 0x00 :: _ => .utf32 false true
  | 0xFE :: 0xFF :: _ => .utf16 true true
  | 0xFF :: 0xFE :: _ => .utf16 false true
  | 0xEF :: 0xBB :: 0xBF :: _ => .utf8Marked
  | a :: b :: c :: d :: _ =>
    if a = 0 then if b = 0 then .utf32 true false else .utf16 true false
    else if b = 0 then if c = 0 && d = 0 then .utf32 false false else .utf16 false false
    else .utf8
  | [a, b] => if a = 0 then .utf16 true false else if b = 0 then .utf16 false false else .utf8
  | _ => .utf8

/-- Pairs of bytes as units; the rest is a byte that is left over. -/
def units16 (bigEndian : Bool) : Bytes → List Nat × Bytes
  | a :: b :: r =>
    let (us, left) := units16 bigEndian r
    ((if bigEndian then a.toNat * 256 + b.toNat else b.toNat * 256 + a.toNat) :: us, left)
  | left => ([], left)

/-- Code points of units; a surrogate that stands alone is kept. -/
def points16 : List Nat → Text
  | [] => []
  | [u] => [.ofNat u]
  | u :: v :: r =>
    if 0xD800 ≤ u && u < 0xDC00 && 0xDC00 ≤ v && v < 0xE000 then
      .ofNat (0x10000 + (u - 0xD800) * 1024 + (v - 0xDC00)) :: points16 r
    else .ofNat u :: points16 (v :: r)

def name16 (bigEndian : Bool) : String := if bigEndian then "utf-16-be" else "utf-16-le"

def name32 (bigEndian : Bool) : String := if bigEndian then "utf-32-be" else "utf-32-le"

def decode16 (bigEndian : Bool) (skip : Nat) (bs : Bytes) : Except DecodeFault Text :=
  match units16 bigEndian (bs.drop skip) with
  | (us, []) => .ok (points16 us)
  | (_, b :: _) => .error ⟨name16 bigEndian, b, bs.length - 1, bs.length, "truncated data"⟩

def decode32From (bigEndian : Bool) (pos : Nat) : Bytes → Except DecodeFault Text
  | a :: b :: c :: d :: r =>
    let n := if bigEndian then ((a.toNat * 256 + b.toNat) * 256 + c.toNat) * 256 + d.toNat
      else ((d.toNat * 256 + c.toNat) * 256 + b.toNat) * 256 + a.toNat
    if n < 0x110000 then
      (decode32From bigEndian (pos + 4) r).map (CodePoint.ofNat n :: ·)
    else .error ⟨name32 bigEndian, a, pos, pos + 4, "code point not in range(0x110000)"⟩
  | [] => .ok []
  | left@(a :: _) => .error ⟨name32 bigEndian, a, pos, pos + left.length, "truncated data"⟩

/-- The text of a document, without its byte order mark. Surrogates may pass. -/
def decode (bs : Bytes) : Except DecodeFault Text :=
  match detect bs with
  | .utf8 => Utf8.decodePassing 0 bs
  | .utf8Marked => Utf8.decodePassing 0 (bs.drop 3)
  | .utf16 bigEndian marked => decode16 bigEndian (if marked then 2 else 0) bs
  | .utf32 bigEndian marked =>
    let skip := if marked then 4 else 0
    decode32From bigEndian skip (bs.drop skip)

end Encoding

end HyperEvolve
