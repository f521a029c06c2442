import HyperEvolve.Service.HostTables
import HyperEvolve.Service.Punycode
import HyperEvolve.Text.Canonical

/-!
# Names of hosts outside ASCII

A name is a list of labels. Each label is checked by the rules for internationalized names and written
in letters, digits and hyphens; one that is already so written is checked for what it stands for, and
has to be the way in which that is written.
-/

namespace HyperEvolve

namespace HostName

/-- The dot and its forms in other scripts. -/
def isDot (p : CodePoint) : Bool := [0x2E, 0x3002, 0xFF0E, 0xFF61].contains p.val

/-- The pieces between dots. -/
def labels : Text → List Text
  | [] => [[]]
  | p :: rest =>
    if isDot p then [] :: labels rest
    else match labels rest with
      | l :: ls => (p :: l) :: ls
      | [] => [[p]]

/-! ## Code points that need a neighbourhood -/

def isVirama (p : CodePoint) : Bool := Canonical.classOf p.val = 9

/-- The first letter past transparent ones joins in one of the given ways. -/
def joins (ways : List Joining) (t : Text) : Bool :=
  (t.dropWhile fun p => joining p.val = .transparent).head?.any fun p => ways.contains (joining p.val)

/-- A joiner follows a virama; one that keeps letters apart may also stand between letters that would
join. -/
def joinerFits (n : Nat) (before after : Text) : Bool :=
  before.head?.any isVirama ||
    (n = 0x200C && joins [.left, .dual] before && joins [.right, .dual] after)

def isNumeral (first : Nat) (p : CodePoint) : Bool := first ≤ p.val && p.val ≤ first + 9

def isOf (s : Script) (p : CodePoint) : Bool := script? p.val = some s

/-- Whether a code point with a rule of its own may stand in a label, between the text before it, in
reverse, and the text after it. -/
def contextFits (label before : Text) (p : CodePoint) (after : Text) : Bool :=
  let n := p.val
  if n = 0x200C || n = 0x200D then joinerFits n before after
  else if n = 0xB7 then before.head?.any (·.is 'l') && after.head?.any (·.is 'l')
  else if n = 0x375 then after.head?.any (isOf .greek)
  else if n = 0x5F3 || n = 0x5F4 then before.head?.any (isOf .hebrew)
  else if n = 0x30FB then label.any fun q => q.val ≠ n && isOf .kanaOrHan q
  else if isNumeral 0x660 p then !label.any (isNumeral 0x6F0)
  else if isNumeral 0x6F0 p then !label.any (isNumeral 0x660)
  else false

def pointsFit (label : Text) (before : Text) : Text → Bool
  | [] => true
  | p :: rest =>
    (allowed.contains p.val || contextFits label before p rest) && pointsFit label (p :: before) rest

/-! ## Direction -/

/-- A label with letters from right to left begins with a letter, keeps to its direction, ends with a
letter or a number past marks, and does not mix two kinds of numbers. -/
def directionFits (label : Text) : Bool :=
  let ds := label.map fun p => direction p.val
  let final := (ds.reverse.dropWhile (· = .mark)).head?
  if !ds.any fun d => d = .right || d = .arabicLetter || d = .arabicNumber then true
  else match ds.head? with
    | some .right | some .arabicLetter =>
      !ds.contains .left && !(ds.contains .number && ds.contains .arabicNumber) &&
        final.any fun d => d = .right || d = .arabicLetter || d = .number || d = .arabicNumber
    | _ => false

/-! ## Labels -/

def hyphensFit (label : Text) : Bool :=
  let isHyphen (p : CodePoint) := p.is '-'
  !label.head?.any isHyphen && !label.getLast?.any isHyphen &&
    ((label.drop 2).take 2).countP isHyphen ≠ 2

/-- Whether a label may be part of a name. -/
def isLabel (label : Text) : Bool :=
  !label.isEmpty && hyphensFit label && !label.head?.any (fun p => marks.contains p.val) &&
    pointsFit label [] label && Canonical.isComposed label && directionFits label

/-- What announces a label that is written in letters, digits and hyphens. -/
def mark : Text := Text.ofString "xn--"

/-- The label as it stands on the wire. -/
def encodeLabel? (label : Text) : Option Text :=
  let encoded : Option Text :=
    if label.all Punycode.isBasic then
      match Text.after? "xn--" label with
      | some written =>
        if written.isEmpty || written.getLast?.any (·.is '-') then none
        else (Punycode.read written).bind fun l =>
          if isLabel l && Punycode.write l = written then some label else none
      | none => if isLabel label then some label else none
    else if isLabel label then some (mark ++ Punycode.write label)
    else none
  encoded.filter fun l => l.length ≤ 63

/-- The name as it stands on the wire, none when it is no name. A dot at the end is kept. -/
def encode? (name : Text) : Option Text := do
  let ls := labels name
  let rooted := 1 < ls.length && ls.getLast? = some []
  let encoded ← (if rooted then ls.dropLast else ls).mapM encodeLabel?
  let dot : Text := [.ofChar '.']
  let wire := Text.join dot encoded ++ if rooted then dot else []
  if wire.length ≤ (if rooted then 254 else 253) then some wire else none

end HostName

end HyperEvolve
