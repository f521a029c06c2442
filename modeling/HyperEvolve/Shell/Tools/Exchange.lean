import HyperEvolve.Shell.Pattern
import HyperEvolve.Shell.Tool

/-!
# Exchanging bytes

A set of bytes is written as a text: bytes, ranges, classes, and bytes that are repeated. A tool maps the
bytes of one set to those of another, drops them, or drops their repetitions.
-/

namespace HyperEvolve

namespace Shell

namespace Exchange

/-! ## Written sets -/

/-- A byte of a written set, with the mark that a backslash stood in front of it. -/
structure Marked where
  byte : UInt8
  escaped : Bool

def Marked.is (m : Marked) (c : Char) : Bool := !m.escaped && m.byte.toNat = c.toNat

/-- One construct of a set. A count of zero stands for as many as are needed. -/
inductive Construct where
  | one (b : UInt8)
  | range (first last : UInt8)
  | named (name : String)
  | equal (b : UInt8)
  | repeated (b : UInt8) (count : Nat)
deriving DecidableEq, Repr

def classBytes (name : String) : List UInt8 :=
  match characterClasses.lookup name with
  | some p => (List.range 128).filterMap fun n => if p (Char.ofNat n) then some (UInt8.ofNat n) else none
  | none => []

def Construct.bytes : Construct → List UInt8
  | .one b | .equal b => [b]
  | .range a b => (List.range (b.toNat + 1 - a.toNat)).map fun k => UInt8.ofNat (a.toNat + k)
  | .named name => classBytes name
  | .repeated b n => List.replicate n b

def octalDigit? (b : UInt8) : Option Nat := if 48 ≤ b && b ≤ 55 then some (b.toNat - 48) else none

def escapedByte : UInt8 → UInt8
  | 97 => 7
  | 98 => 8
  | 102 => 12
  | 110 => 10
  | 114 => 13
  | 116 => 9
  | 118 => 11
  | b => b

def charOf (b : UInt8) : String := String.singleton (Char.ofNat b.toNat)

/-- The number in up to three octal digits, and how many of them are taken. A third digit that would lead
beyond a byte is left. -/
def octalNumber (bs : Bytes) : Nat × Nat :=
  let ds := (bs.take 3).map octalDigit?
  match ds with
  | some x :: some y :: some z :: _ => if 64 * x + 8 * y + z < 256 then (64 * x + 8 * y + z, 3) else (8 * x + y, 2)
  | some x :: some y :: _ => (8 * x + y, 2)
  | some x :: _ => (x, 1)
  | _ => (0, 0)

/-- What is said about a number that could be read in two ways. -/
def octalWarning (bs : Bytes) : List String :=
  match bs with
  | a :: b :: c :: _ =>
    if (octalNumber bs).2 = 2 && (octalDigit? c).isSome then
      let (pair, last) := (charOf a ++ charOf b, charOf c)
      ["warning: the ambiguous octal escape \\" ++ pair ++ last ++
        " is being\n\tinterpreted as the 2-byte sequence \\0" ++ pair ++ ", " ++ last]
    else []
  | _ => []

/-- A set with its escapes read, and what is to be said about them. -/
def unescaped : Bytes → List Marked × List String
  | [] => ([], [])
  | [92] => ([⟨92, false⟩], ["warning: an unescaped backslash at end of string is not portable"])
  | 92 :: a :: rest =>
    let (n, k) := octalNumber (a :: rest)
    let (ms, ws) := unescaped (rest.drop (k - 1))
    if k = 0 then (⟨escapedByte a, true⟩ :: ms, ws)
    else (⟨UInt8.ofNat n, true⟩ :: ms, octalWarning (a :: rest) ++ ws)
  | b :: rest =>
    let (ms, ws) := unescaped rest
    (⟨b, false⟩ :: ms, ws)
termination_by bs => bs.length

/-- A byte as it is shown in complaints. -/
def shownByte (b : UInt8) : String := if 32 ≤ b && b < 127 then charOf b else octalEscape b

def shownBytes (ms : List Marked) : String :=
  String.join (ms.map fun m => ((letterOf? (Char.ofNat m.byte.toNat)).map fun l => "\\" ++ String.singleton l).getD
    (shownByte m.byte))

/-- A star, digits and a closing bracket. -/
def isRepeat : List Marked → Bool
  | star :: rest =>
    star.is '*' && (rest.dropWhile fun m => !m.escaped && 48 ≤ m.byte && m.byte ≤ 57).head?.any (·.is ']')
  | [] => false

/-- How often a byte is repeated: a number in octal digits if it begins with a zero. -/
def repeatCount (ms : List Marked) : Except String Nat :=
  let cs := ms.map fun m => Char.ofNat m.byte.toNat
  let base := if cs.head? = some '0' then 8 else 10
  let fault := .error s!"invalid repeat count {shownWord (shownBytes ms)} in [c*n] construct"
  if cs.all fun c => c.isDigit && c.toNat - 48 < base then
    let n := cs.foldl (fun n c => n * base + (c.toNat - 48)) 0
    if n < 0x8000000000000000 then .ok n else fault
  else fault

/-- A repeated byte after an opening bracket, and how many bytes are taken with the bracket. -/
def repetition? (body : List Marked) : Except String (Option (Construct × Nat)) :=
  match body with
  | b :: star :: rest =>
    let digits := rest.takeWhile fun m => !m.escaped && !m.is ']'
    if star.is '*' && (rest.drop digits.length).head?.any (·.is ']') then do
      return some (.repeated b.byte (← repeatCount digits), digits.length + 4)
    else return none
  | _ => return none

/-- What stands between a sign and the same sign in front of a closing bracket. -/
def enclosed? (sign : Char) : List Marked → Option (List Marked)
  | a :: b :: rest => if a.is sign && b.is ']' then some [] else (enclosed? sign (b :: rest)).map (a :: ·)
  | _ => none

/-- A construct after an opening bracket, and how many bytes are taken with the bracket. -/
def bracketed? (body : List Marked) : Except String (Option (Construct × Nat)) :=
  match body with
  | sign :: rest =>
    let mark := if sign.is ':' then some ':' else if sign.is '=' then some '=' else none
    match mark, mark.bind fun m => enclosed? m rest with
    | some ':', some inner =>
      let name := String.ofList (inner.map fun m => Char.ofNat m.byte.toNat)
      if inner.isEmpty then .error "missing character class name '[::]'"
      else if (characterClasses.lookup name).isSome then .ok (some (.named name, inner.length + 4))
      else if isRepeat rest then repetition? body
      else .error s!"invalid character class {shownWord (shownBytes inner)}"
    | some '=', some inner =>
      match inner with
      | [] => .error "missing equivalence class character '[==]'"
      | [b] => .ok (some (.equal b.byte, 5))
      | _ =>
        if isRepeat rest then repetition? body
        else .error s!"{shownBytes inner}: equivalence class operand must be a single character"
    | _, _ => repetition? body
  | [] => .ok none

/-- The constructs of a set; `fuel` bounds their number. The last two bytes stand for themselves. -/
def constructs : (fuel : Nat) → List Marked → Except String (List Construct)
  | 0, _ => .ok []
  | fuel + 1, a :: b :: c :: rest => do
    match ← if a.is '[' then bracketed? (b :: c :: rest) else pure none with
    | some (k, n) => return k :: (← constructs fuel ((b :: c :: rest).drop (n - 1)))
    | none =>
      if !b.is '-' then return .one a.byte :: (← constructs fuel (b :: c :: rest))
      else if c.byte < a.byte then
        throw (s!"range-endpoints of '{shownByte a.byte}-{shownByte c.byte}' are in reverse " ++
          "collating sequence order")
      else return .range a.byte c.byte :: (← constructs fuel rest)
  | _ + 1, ms => .ok (ms.map fun m => .one m.byte)

/-! ## Sets side by side -/

/-- The two classes of letters between which bytes are converted. -/
inductive Case where
  | lower
  | upper
deriving DecidableEq, Repr

def Construct.case? : Construct → Option Case
  | .named "lower" => some .lower
  | .named "upper" => some .upper
  | _ => none

/-- A byte of a set with the case class it belongs to, if any, and the mark that it is the first of its
construct. -/
structure Item where
  byte : UInt8
  case? : Option Case
  first : Bool

def items (ks : List Construct) : List Item :=
  ks.flatMap fun k => (k.bytes.zipIdx).map fun p => ⟨p.1, k.case?, p.2 = 0⟩

def size (ks : List Construct) : Nat := ks.foldl (fun n k => n + k.bytes.length) 0

def isOpen : Construct → Bool
  | .repeated _ 0 => true
  | _ => false

/-- The rest of a construct is passed over. -/
def skipConstruct (xs : List Item) : List Item := xs.dropWhile fun x => !x.first

/-- Whether every case class of the second set stands beside one of the first; `fuel` bounds the steps. -/
def isAligned : (fuel : Nat) → (first second : List Item) → Bool
  | 0, _, _ | _, _, [] => true
  | fuel + 1, xs, y :: ys =>
    if y.first && y.case?.isSome && !xs.head?.any fun x => x.first && x.case?.isSome then false
    else match xs with
      | [] => true
      | _ :: xs =>
        if y.case?.isSome then isAligned fuel (skipConstruct xs) (skipConstruct ys)
        else isAligned fuel xs ys

def caseClasses (ks : List Construct) : Nat := ks.countP fun k => k.case?.isSome

/-- What a tool is asked to do with bytes. -/
structure Work where
  complement : Bool
  deletes : Bool
  squeezes : Bool
  truncates : Bool

/-- The number of bytes outside a set. -/
def outside (ks : List Construct) : List UInt8 :=
  let inside := ks.flatMap Construct.bytes
  ((List.range 256).map UInt8.ofNat).filter fun b => !inside.contains b

/-- The byte with which a set that is too short is filled up. -/
def filler? (ks : List Construct) : Option UInt8 :=
  match ks.getLast? with
  | some (.one b) | some (.range _ b) | some (.repeated b _) | some (.equal b) => some b
  | _ => none

def isUniform : List UInt8 → Bool
  | [] => false
  | b :: bs => bs.all (· = b)

/-- The open repetition of a set is filled up to a size. -/
def fillOpen (wanted : Nat) (ks : List Construct) : List Construct :=
  if wanted < size ks then ks
  else ks.map fun k => match k with
    | .repeated b 0 => .repeated b (wanted - size ks)
    | k => k

/-- The second set as it is used for an exchange: checked against the first, and as long as it is. -/
def matched (w : Work) (first second : List Construct) : Except String (List Construct) := do
  let wanted := if w.complement then (outside first).length else size first
  if second.any fun | .equal _ => true | _ => false then
    throw "[=c=] expressions may not appear in string2 when translating"
  if second.any fun k => (match k with | .named _ => true | _ => false) && k.case?.isNone then
    throw "when translating, the only character classes that may appear in\nstring2 are 'upper' and 'lower'"
  let cased := !w.complement && second.any fun k => k.case?.isSome
  if cased && !isAligned (size first + size second + 1) (items first) (items second) then
    throw "misaligned [:upper:] and/or [:lower:] construct"
  let saved := if cased then 25 * caseClasses second else 0
  let wanted := wanted - saved
  let there := size second - saved
  let second ← if wanted ≤ there || w.truncates then pure second
    else if there = 0 then throw "when not truncating set1, string2 must be non-empty"
    else match filler? second with
      | some b => pure (second ++ [.repeated b (wanted - there)])
      | none => throw ("when translating with string1 longer than string2,\n" ++
          "the latter string must not end with a character class")
  let classed := first.any fun | .named _ => true | _ => false
  let bytes := second.flatMap Construct.bytes
  if w.complement && classed && !(bytes.length = wanted && isUniform bytes) then
    throw ("when translating with complemented character classes,\n" ++
      "string2 must map all characters in the domain to one")
  return second

/-- Checks two sets, and fills up the second. -/
def checked (w : Work) (first : List Construct) (second : Option (List Construct)) :
    Except String (Option (List Construct)) := do
  if first.any isOpen then throw "the [c*] repeat construct may not appear in string1"
  match second with
  | none => return none
  | some second =>
    let wanted := if w.complement then (outside first).length else size first
    let opens := second.countP isOpen
    if 1 < opens then throw "only one [c*] repeat construct may appear in string2"
    if w.deletes then
      if 0 < opens then throw "the [c*] construct may appear in string2 only when translating"
      return some second
    return some (← matched w first (fillOpen wanted second))

/-! ## Tables -/

abbrev ByteMap := Array UInt8

def identityMap : ByteMap := Array.ofFn fun i : Fin 256 => UInt8.ofNat i.val

/-- Letters of one case go to those of the other. -/
def convertCase (t : ByteMap) (source : Case) : ByteMap :=
  (classBytes (match source with | .lower => "lower" | .upper => "upper")).foldl (fun (t : ByteMap) b =>
    t.setIfInBounds b.toNat (match source with | .lower => b - 32 | .upper => b + 32)) t

/-- The table that sends one set to another; `fuel` bounds the steps. -/
def mapping : (fuel : Nat) → ByteMap → (first second : List Item) → ByteMap
  | 0, t, _, _ | _, t, [], _ | _, t, _, [] => t
  | fuel + 1, t, x :: xs, y :: ys =>
    let t := match x.case?, y.case? with
      | some .lower, some .upper => convertCase t .lower
      | some .upper, some .lower => convertCase t .upper
      | _, _ => t.setIfInBounds x.byte.toNat y.byte
    if y.case?.isSome then mapping fuel t (skipConstruct xs) (skipConstruct ys) else mapping fuel t xs ys

def table (w : Work) (first second : List Construct) : ByteMap :=
  if w.complement then
    (((outside first).zip (second.flatMap Construct.bytes))).foldl (fun (t : ByteMap) p =>
      t.setIfInBounds p.1.toNat p.2) identityMap
  else mapping (size first + 1) identityMap (items first) (items second)

/-- Drops repetitions of bytes of a set. -/
def squeeze (inSet : UInt8 → Bool) : (last : Option UInt8) → Bytes → Bytes
  | _, [] => []
  | last, b :: bs => if last = some b && inSet b then squeeze inSet last bs else b :: squeeze inSet (some b) bs

/-- The work of a tool on its input. -/
def apply (w : Work) (first : List Construct) (second : Option (List Construct)) (input : Bytes) : Bytes :=
  let inFirst (b : UInt8) := (first.flatMap Construct.bytes).contains b != w.complement
  let inSecond (b : UInt8) := ((second.getD []).flatMap Construct.bytes).contains b
  if w.deletes then
    let kept := input.filter fun b => !inFirst b
    if w.squeezes then squeeze inSecond none kept else kept
  else match second with
    | none => squeeze inFirst none input
    | some second =>
      let t := table w first second
      let moved := input.map fun b => t.getD b.toNat b
      if w.squeezes then squeeze inSecond none moved else moved

end Exchange

namespace Tools

open Exchange

/-- The sets among the operands: one to delete or to squeeze, two for anything else. -/
def setOperands (c : Call) (w : Work) (operands : List String) : Except String (String × Option String) :=
  let least := if w.deletes = w.squeezes then 2 else 1
  let most := if w.deletes && !w.squeezes then 1 else 2
  match operands with
  | [] => .error ("missing operand" ++ c.hint)
  | a :: rest =>
    if operands.length < least then
      .error (s!"missing operand after {shownWord a}\n" ++
        (if w.squeezes then "Two strings must be given when both deleting and squeezing repeats."
          else "Two strings must be given when translating.") ++ c.hint)
    else if most < operands.length then
      .error ("extra operand " ++ shownWord (operands.getD most "") ++
        (if operands.length = 2 then
          "\nOnly one string may be given when deleting without squeezing repeats." else "") ++ c.hint)
    else .ok (a, rest.head?)

/-- Exchanges, deletes or squeezes bytes. -/
def tr : Tool := fun c =>
  let rules := [⟨'c', "complement", .nothing⟩, ⟨'d', "delete", .nothing⟩, ⟨'s', "squeeze-repeats", .nothing⟩,
    ⟨'t', "truncate-set1", .nothing⟩] ++ flags "AC"
  c.withLeadingOptions rules 1 fun o =>
    let w : Work := ⟨o.has 'c' || o.has 'C', o.has 'd', o.has 's', o.has 't'⟩
    match setOperands c w o.operands with
    | .error e => c.fails e 1
    | .ok (a, b) =>
      let read (s : String) := unescaped (Utf8.encode s)
      let parse (ms : List Marked) := constructs (ms.length + 1) ms
      let (first, warnings) := read a
      let (second, moreWarnings) := (b.map read).getD ([], [])
      let sets := do
        let first ← (parse first).mapError fun e => (e, false)
        let second ← (if b.isSome then (parse second).map some else pure none).mapError fun e => (e, true)
        let second ← (checked w first second).mapError fun e => (e, true)
        return (first, second)
      let warned (all : Bool) := (if all then warnings ++ moreWarnings else warnings).foldl
        (fun (e : Effect) t => e.complain (c.name ++ ": " ++ t) 0) (Effect.quiet c 0)
      match sets with
      | .error (e, all) => (warned all).complain (c.name ++ ": " ++ e) 1
      | .ok (first, second) => ((warned true).write (apply w first second c.input)).drain c

end Tools

end Shell

end HyperEvolve
