import HyperEvolve.Shell.Arithmetic
import HyperEvolve.Shell.Tool

/-!
# Beginnings and ends

Tools that copy the first or the last part of what they read, counted in lines or in bytes.
-/

namespace HyperEvolve

namespace Shell

namespace Tools

/-! ## Counts -/

/-- The power of a unit that a letter stands for. -/
def unitPower? (c : Char) : Option Nat :=
  [('k', 1), ('K', 1), ('m', 2), ('M', 2), ('G', 3), ('T', 4), ('P', 5), ('E', 6), ('Z', 7), ('Y', 8)].lookup c

/-- The factor that a unit stands for: powers of 1024, or of 1000 if a letter says so. -/
def factor? : List Char → Option Nat
  | [] => some 1
  | ['b'] => some 512
  | [c] | [c, 'i', 'B'] => (unitPower? c).map (Nat.pow 1024)
  | [c, 'B'] | [c, 'D'] => (unitPower? c).map (Nat.pow 1000)
  | _ => none

/-- What is wrong with a count. -/
inductive CountFault where
  | form
  | tooLarge
deriving DecidableEq, Repr

/-- A count with a unit, which may stand alone. -/
def countOf (s : String) : Except CountFault Nat :=
  let cs := s.toList.dropWhile fun c => c = ' ' || (9 ≤ c.toNat && c.toNat ≤ 13)
  let cs := if cs.head? = some '+' then cs.drop 1 else cs
  let (n, k) := Arithmetic.digitsIn 10 cs
  let alone := k = 0 && cs.head?.any fun c => c = 'b' || (unitPower? c).isSome
  if k = 0 && !(alone && cs.length = s.length) then .error .form
  else match factor? (cs.drop k) with
    | none => .error .form
    | some f =>
      let n := (if alone then 1 else n) * f
      if n < 0x10000000000000000 then .ok n else .error .tooLarge

/-- How much is copied: lines or bytes, counted from the near end or from the far one. -/
structure Portion where
  bytes : Bool
  fromFar : Bool
  count : Nat

/-- A count in a complaint about it. -/
def countComplaint (bytes : Bool) (v : String) (fault : CountFault) : String :=
  let what := if bytes then "bytes" else "lines"
  s!"invalid number of {what}: {shownWord v}" ++
    (if fault = .tooLarge then ": Value too large for defined data type" else "")

/-- Lines with their ends. -/
def recordsOf (ending : UInt8) (bs : Bytes) : List Bytes :=
  if ending = 10 then splitLines bs
  else
    let (lines, last) := bs.foldl (fun (acc : List Bytes × Bytes) b =>
      if b = ending then ((b :: acc.2).reverse :: acc.1, []) else (acc.1, b :: acc.2)) ([], [])
    (if last.isEmpty then lines else last.reverse :: lines).reverse

/-- The first part; counted from the far end, all but the last. -/
def headOf (ending : UInt8) (p : Portion) (bs : Bytes) : Bytes :=
  if p.bytes then bs.take (if p.fromFar then bs.length - p.count else p.count)
  else
    let ls := recordsOf ending bs
    (ls.take (if p.fromFar then ls.length - p.count else p.count)).flatten

/-- The last part; counted from the far end, all from there on. -/
def tailOf (ending : UInt8) (p : Portion) (bs : Bytes) : Bytes :=
  if p.bytes then bs.drop (if p.fromFar then p.count - 1 else bs.length - p.count)
  else
    let ls := recordsOf ending bs
    (ls.drop (if p.fromFar then p.count - 1 else ls.length - p.count)).flatten

/-! ## Copying -/

/-- How many bytes are read at once. -/
def blockSize : Nat := 8192

/-- What a tool that reads in blocks takes of a stream when it needs some bytes of it. -/
def blocksFor (needed available : Nat) : Nat :=
  min available ((needed + blockSize - 1) / blockSize * blockSize)

/-- When the name of an operand is written above its part. -/
inductive Titles where
  | several
  | always
  | never
deriving DecidableEq, Repr

/-- How a tool copies parts of its operands. -/
structure PortionPlan where
  portion : Portion
  titles : Titles
  ending : UInt8
  operands : List String

/-- A part of each operand, under its name when there are several. A tool that stops where its part ends
leaves the rest of the input. -/
def portions (c : Call) (plan : PortionPlan) (part : Bytes → Bytes) (stops : Bool) : Effect :=
  let (contents, used) := operandContents c plan.operands
  let titled := plan.titles = .always || (plan.titles = .several && 1 < contents.length)
  let title (first : Bool) (name : String) : Bytes :=
    let shown := if name = "-" then "standard input" else name
    if titled then Utf8.encode ((if first then "" else "\n") ++ s!"==> {shown} <==\n") else []
  let step (acc : Effect × Bool) (x : String × Except Errno Bytes) : Effect × Bool :=
    match x.2 with
    | .error .isDirectory =>
      ((acc.1.write (title acc.2 x.1)).complain
        s!"{c.name}: error reading {inQuotes x.1}: {Errno.isDirectory.text}" 1, false)
    | .error e =>
      (acc.1.complain s!"{c.name}: cannot open {inQuotes x.1} for reading: {e.text}" 1, acc.2)
    | .ok bs => (acc.1.write (title acc.2 x.1 ++ part bs), false)
  let e := (contents.foldl step ({ Effect.quiet c 0 with used }, true)).1
  if stops && plan.operands.all inputNames.contains then
    let needed := (part c.input).length
    let count := if plan.portion.count = 0 then 0
      else if c.seekable || plan.portion.bytes then needed
      else blocksFor (max needed 1) c.input.length
    { e with used := count }
  else e

/-- What options say about titles and the ends of lines, the last one deciding. -/
def planOf (o : Options) (portion : Portion) : PortionPlan :=
  let titles := match o.given.reverse.find? fun g => g.1 = 'q' || g.1 = 'v' with
    | some ('q', _) => .never
    | some _ => .always
    | none => .several
  ⟨portion, titles, if o.has 'z' then 0 else 10, o.operands⟩

def portionRules : List OptionRule :=
  [⟨'n', "lines", .value⟩, ⟨'c', "bytes", .value⟩, ⟨'q', "quiet", .nothing⟩, ⟨'q', "silent", .nothing⟩,
    ⟨'v', "verbose", .nothing⟩, ⟨'z', "zero-terminated", .nothing⟩]

/-- Digits, which are no options but in front of all others. -/
def digitRules : List OptionRule := "0123456789".toList.map fun c => ⟨c, "", .maybe⟩

/-- The last count among the options, each of which has to be right. A sign in front of it is kept
apart. -/
def givenPortion (sign : Char) (drops : List Char) (o : Options) : Except String Portion :=
  (o.given.filter fun g => g.1 = 'n' || g.1 = 'c').foldlM (fun _ g =>
    let bytes := g.1 = 'c'
    let far := g.2.toList.head? = some sign
    let v := if g.2.toList.head?.any drops.contains then String.ofList (g.2.toList.drop 1) else g.2
    match countOf v with
    | .ok n => .ok ⟨bytes, far, n⟩
    | .error fault => .error (countComplaint bytes v fault)) ⟨false, false, 10⟩

/-- A count written as an option of its own, in front of all others: digits and letters that say what is
counted. -/
def oldHead (word : String) : Except String (Option (List (Char × String))) :=
  match word.toList with
  | '-' :: d :: ds =>
    if !d.isDigit then .ok none
    else
      let digits := (d :: ds).takeWhile Char.isDigit
      let letters := (d :: ds).drop digits.length
      match letters.find? fun c => !"cbkmlqvz".toList.contains c with
      | some c => .error s!"invalid trailing option -- {String.singleton c}"
      | none =>
        let unit := letters.reverse.find? fun c => "cbkm".toList.contains c || c = 'l'
        let bytes := unit.any (· ≠ 'l')
        let factor := match unit with
          | some 'b' => "b"
          | some 'k' => "k"
          | some 'm' => "m"
          | _ => ""
        .ok (some ((if bytes then 'c' else 'n', String.ofList digits ++ factor) ::
          (letters.filter fun c => c = 'q' || c = 'v' || c = 'z').map fun c => (c, "")))
  | _ => .ok none

/-- The first lines or bytes. -/
def head : Tool := fun c =>
  match (c.args.head?.map oldHead).getD (.ok none) with
  | .error e => c.fails (e ++ c.hint) 1
  | .ok old =>
    let c' := if old.isSome then { c with args := c.args.drop 1 } else c
    c'.withOptions (portionRules ++ digitRules) 1 fun o =>
      match o.given.find? fun g => g.1.isDigit with
      | some (d, _) => c.fails (s!"invalid trailing option -- {String.singleton d}" ++ c.hint) 1
      | none =>
        let o := { o with given := old.getD [] ++ o.given }
        match givenPortion '-' ['-'] o with
        | .error e => c.fails e 1
        | .ok p =>
          let plan := planOf o p
          portions c plan (headOf plan.ending p) (!p.fromFar)

/-- A count as the only option, with at most one operand: a sign, digits and a letter that says what is
counted. -/
def oldTail (args : List String) : Option (Portion × List String) :=
  let shaped := match args with
    | [_] => true
    | [_, f] => !(f.startsWith "-" && f ≠ "-") || f = "--"
    | [_, dashes, _] => dashes = "--"
    | _ => false
  match shaped, args with
  | true, word :: rest =>
    match word.toList with
    | sign :: cs =>
      let digits := cs.takeWhile Char.isDigit
      let letters := cs.drop digits.length
      let plain := sign = '-' && (cs.isEmpty || cs = ['c'])
      let rest := rest.filter (· ≠ "--")
      let (n, _) := Arithmetic.digitsIn 10 digits
      let n := if digits.isEmpty then 10 else n
      if (sign ≠ '+' && sign ≠ '-') || plain then none
      else match letters with
        | [] | ['l'] => some (⟨false, sign = '+', n⟩, rest)
        | ['c'] => some (⟨true, sign = '+', n⟩, rest)
        | ['b'] => some (⟨true, sign = '+', n * 512⟩, rest)
        | _ => none
    | [] => none
  | _, _ => none

/-- The last lines or bytes. -/
def tail : Tool := fun c =>
  match oldTail c.args with
  | some (p, operands) => portions c ⟨p, .several, 10, operands⟩ (tailOf 10 p) false
  | none =>
    let rules := portionRules ++ digitRules ++ flags "fF" ++
      [⟨'s', "sleep-interval", .value⟩, ⟨'f', "follow", .maybe⟩, ⟨'F', "retry", .nothing⟩]
    c.withOptions rules 1 fun o =>
      match o.given.find? fun g => g.1.isDigit with
      | some (d, _) => c.fails s!"option used in invalid context -- {String.singleton d}" 1
      | none =>
        match givenPortion '+' ['-'] o with
        | .error e => c.fails e 1
        | .ok p =>
          let plan := planOf o p
          portions c plan (tailOf plan.ending p) false

end Tools

end Shell

end HyperEvolve
