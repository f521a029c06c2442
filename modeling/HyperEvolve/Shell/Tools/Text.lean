import HyperEvolve.Shell.Escape
import HyperEvolve.Shell.Format
import HyperEvolve.Shell.Pattern
import HyperEvolve.Shell.Tool

/-!
# Tools for texts

Tools that copy, cut, count, order or exchange what they read.
-/

namespace HyperEvolve

namespace Shell

namespace Tools

/-! ## Copying -/

structure CatRules where
  number : Bool
  numberFilled : Bool
  squeeze : Bool
  ends : Bool
  tabs : Bool
  controls : Bool

/-- A byte as it is shown when control characters are. -/
def shownByte (r : CatRules) (b : UInt8) : Bytes :=
  if b = 9 then if r.tabs then [94, 73] else [9]
  else if !r.controls || b = 10 then [b]
  else
    let (mark, b) : Bytes × UInt8 := if 128 ≤ b then ([77, 45], b - 128) else ([], b)
    mark ++ (if b < 32 then [94, b + 64] else if b = 127 then [94, 63] else [b])

def numberText (n : Nat) : Bytes :=
  let ds := Nat.toDigits 10 n
  Utf8.encode (String.ofList (List.replicate (6 - ds.length) ' ' ++ ds ++ ['\t']))

/-- Lines as shown, from a number on; `blank` says that the line before was empty. -/
def catLines (r : CatRules) : (number : Nat) → (blank : Bool) → List Bytes → List Bytes
  | _, _, [] => []
  | n, blank, l :: ls =>
    let isEmpty := l = [10]
    if isEmpty && blank && r.squeeze then catLines r n true ls
    else
      let counts := if r.numberFilled then !isEmpty else r.number
      let body := (chomp l).flatMap (shownByte r)
      let ending : Bytes := if l.getLast? = some 10 then if r.ends then [36, 10] else [10] else []
      ((if counts then numberText n else []) ++ body ++ ending) ::
        catLines r (if counts then n + 1 else n) isEmpty ls

/-- Copies its operands. -/
def cat : Tool := fun c =>
  let rules := [⟨'n', "number", .nothing⟩, ⟨'b', "number-nonblank", .nothing⟩, ⟨'s', "squeeze-blank", .nothing⟩,
    ⟨'E', "show-ends", .nothing⟩, ⟨'T', "show-tabs", .nothing⟩, ⟨'A', "show-all", .nothing⟩,
    ⟨'v', "show-nonprinting", .nothing⟩] ++ flags "etu"
  c.withOptions rules 1 fun o =>
    let has := o.has
    let r : CatRules := ⟨has 'n', has 'b', has 's', has 'E' || has 'A' || has 'e',
      has 'T' || has 'A' || has 't', has 'v' || has 'A' || has 'e' || has 't'⟩
    let plain := o.given.all (·.1 = 'u')
    let (contents, used) := operandContents c o.operands
    let start := { Effect.quiet c 0 with used }
    if plain then
      contents.foldl (fun e x =>
        match x.2 with
        | .ok bs => e.write bs
        | .error errno => e.complain (c.name ++ ": " ++ fileComplaint x.1 errno) 1) start
    else
      let (bs, e) := gather c o.operands fileComplaint 1
      e.write (catLines r 1 false (splitLines bs)).flatten

def tac : Tool := fun c =>
  c.withOptions [] 1 fun o =>
    let complaint name (e : Errno) := s!"failed to open '{name}' for reading: {e.text}"
    let (bs, e) := gather c o.operands complaint 1
    e.write (splitLines bs).reverse.flatten

def rev : Tool := fun c =>
  c.withOptions [] 1 fun o =>
    let (bs, e) := gather c o.operands (fun n e => s!"cannot open {n}: {e.text}") 1
    let line (l : Bytes) : Bytes :=
      Utf8.encode (String.ofList (Utf8.decodeLossy (chomp l)).reverse) ++
        (if l.getLast? = some 10 then [10] else [])
    e.write ((splitLines bs).map line).flatten

/-! ## Counting -/

/-- What is counted of a text. -/
structure Counts where
  lines : Nat
  words : Nat
  chars : Nat
  bytes : Nat
  /-- The width of the widest line. -/
  width : Nat

def isSpaceByte (b : UInt8) : Bool := b = 32 || (9 ≤ b && b ≤ 13)

/-- Characters that are neither blank nor shown belong to no word and end none. -/
def countWords : (inside : Bool) → Bytes → Nat
  | _, [] => 0
  | inside, b :: bs =>
    if isSpaceByte b then countWords false bs
    else if b < 32 || b = 127 then countWords inside bs
    else (if inside then 0 else 1) + countWords true bs

/-- Ranges of characters that take two columns. -/
def wideRanges : List (Nat × Nat) :=
  [(0x1100, 0x115F), (0x2E80, 0x303E), (0x3041, 0xA4CF), (0xAC00, 0xD7A3), (0xF900, 0xFAFF), (0xFE30, 0xFE6F),
    (0xFF00, 0xFF60), (0xFFE0, 0xFFE6), (0x1F300, 0x1F64F), (0x1F900, 0x1F9FF), (0x20000, 0x3FFFD)]

def columnsOf (c : Char) : Nat :=
  let n := c.toNat
  if n < 32 || (127 ≤ n && n < 160) || (0x300 ≤ n && n ≤ 0x36F) then 0
  else if wideRanges.any fun r => r.1 ≤ n && n ≤ r.2 then 2
  else 1

/-- The width of the widest line; `column` is where the line under way stands. -/
def widest : (column most : Nat) → List Char → Nat
  | column, most, [] => max column most
  | column, most, c :: cs =>
    if c = '\n' || c = '\r' || c = '\x0c' then widest 0 (max column most) cs
    else if c = '\t' then widest (column + 8 - column % 8) most cs
    else widest (column + columnsOf c) most cs

def Counts.of (bs : Bytes) : Counts :=
  ⟨bs.count 10, countWords false bs, (bs.filter fun b => b < 128 || 192 ≤ b).length, bs.length,
    widest 0 0 (Utf8.decodeLossy bs)⟩

def Counts.add (a b : Counts) : Counts :=
  ⟨a.lines + b.lines, a.words + b.words, a.chars + b.chars, a.bytes + b.bytes, max a.width b.width⟩

def Counts.zero : Counts := ⟨0, 0, 0, 0, 0⟩

/-- The numbers that options ask for, in a fixed order. -/
def Counts.columns (k : Counts) (o : Options) : List Nat :=
  let shows (letter : Char) := if o.given.isEmpty then letter ≠ 'm' && letter ≠ 'L' else o.has letter
  [('l', k.lines), ('w', k.words), ('m', k.chars), ('c', k.bytes), ('L', k.width)].filterMap fun x =>
    if shows x.1 then some x.2 else none

/-- Counts lines, words, characters and bytes. -/
def wc : Tool := fun c =>
  let rules := [⟨'l', "lines", .nothing⟩, ⟨'w', "words", .nothing⟩, ⟨'m', "chars", .nothing⟩,
    ⟨'c', "bytes", .nothing⟩, ⟨'L', "max-line-length", .nothing⟩]
  c.withOptions rules 1 fun o =>
    let (contents, used) := operandContents c o.operands
    let sizes := contents.filterMap fun x => x.2.toOption.map List.length
    let irregular := contents.any fun x =>
      (inputNames.contains x.1 && !c.seekable) || (match x.2 with | .error .isDirectory => true | _ => false)
    let one := contents.length = 1 && (Counts.zero.columns o).length = 1
    let digits := (Nat.toDigits 10 (sizes.foldl Nat.add 0)).length
    let width := if one then 1 else if irregular then max 7 digits else digits
    let line (k : Counts) (name : String) : Bytes :=
      let numbers := (k.columns o).map fun n =>
        let ds := Nat.toDigits 10 n
        String.ofList (List.replicate (width - ds.length) ' ' ++ ds)
      Utf8.encode (" ".intercalate numbers ++ (if name.isEmpty then "" else " " ++ name) ++ "\n")
    let named (name : String) := if o.operands.isEmpty then "" else name
    let e := contents.foldl (fun (e : Effect) x =>
      match x.2 with
      | .ok bs => e.write (line (Counts.of bs) (named x.1))
      | .error errno =>
        let e := e.complain (c.name ++ ": " ++ fileComplaint x.1 errno) 1
        if errno = .isDirectory then e.write (line Counts.zero (named x.1)) else e)
      { Effect.quiet c 0 with used }
    if 1 < contents.length then
      let total := (contents.filterMap fun x => x.2.toOption.map Counts.of).foldl Counts.add Counts.zero
      e.write (line total "total")
    else e

/-! ## Names -/

def withoutSlashes (s : String) : List Char := (s.toList.reverse.dropWhile (· = '/')).reverse

def lastName (s : String) : String :=
  let cs := withoutSlashes s
  if cs.isEmpty then if s.isEmpty then "" else "/"
  else String.ofList (cs.reverse.takeWhile (· ≠ '/')).reverse

def basename : Tool := fun c =>
  let shown (s ending : String) : String :=
    let b := lastName s
    if ending ≠ "" && b ≠ ending && b.endsWith ending then String.ofList (b.toList.take (b.length - ending.length))
    else b
  let args := if c.args.head? = some "--" then c.args.drop 1 else c.args
  match args with
  | [] => c.fails ("missing operand" ++ c.hint) 1
  | [s] => c.writes (Utf8.encode (shown s "" ++ "\n"))
  | [s, ending] => c.writes (Utf8.encode (shown s ending ++ "\n"))
  | _ :: _ :: x :: _ => c.fails (s!"extra operand {shownWord x}" ++ c.hint) 1

def dirname : Tool := fun c =>
  let shown (s : String) : String :=
    let above := ((withoutSlashes s).reverse.dropWhile (· ≠ '/')).dropWhile (· = '/')
    if !above.isEmpty then String.ofList above.reverse else if s.startsWith "/" then "/" else "."
  let args := if c.args.head? = some "--" then c.args.drop 1 else c.args
  if args.isEmpty then c.fails ("missing operand" ++ c.hint) 1
  else c.writes (Utf8.encode (String.join (args.map fun a => shown a ++ "\n")))

/-! ## Writing and waiting -/

def echo : Tool := fun c => c.writes (echoed toolEcho c.args)

def printf : Tool := fun c =>
  let args := if c.args.head? = some "--" then c.args.drop 1 else c.args
  match args with
  | [] => c.fails ("missing operand" ++ c.hint) 1
  | format :: rest =>
    let (bs, complaints, status) := Format.write Format.tool format rest
    complaints.foldl (fun e t => e.complain (c.name ++ ": " ++ t) status) { c.writes bs with status }

/-- The words over and over again, as far as anyone may read. It does not come to an end. -/
def yes : Tool := fun c =>
  let line := Utf8.encode ((if c.args.isEmpty then "y" else " ".intercalate c.args) ++ "\n")
  { c.writes (List.replicate 65536 line).flatten with seconds := forever }

/-- A number of seconds with a unit. -/
def duration? (arg : String) : Option Float :=
  let cs := arg.toList
  let whole := cs.takeWhile Char.isDigit
  let rest := cs.drop whole.length
  let (places, rest) := match rest with
    | '.' :: rest' =>
      let ds := rest'.takeWhile Char.isDigit
      (ds, rest'.drop ds.length)
    | _ => ([], rest)
  let ds := whole ++ places
  let factor? : Option Nat := match rest with
    | [] | ['s'] => some 1
    | ['m'] => some 60
    | ['h'] => some 3600
    | ['d'] => some 86400
    | _ => none
  match factor? with
  | some f =>
    if ds.isEmpty then none
    else some (Decimal.nearest ((Arithmetic.digitsIn 10 ds).1 * f) (Nat.pow 10 places.length))
  | none => none

def sleep : Tool := fun c =>
  match c.args.find? fun a => (duration? a).isNone with
  | some a => c.fails (s!"invalid time interval {shownWord a}" ++ c.hint) 1
  | none =>
    if c.args.isEmpty then c.fails ("missing operand" ++ c.hint) 1
    else { Effect.quiet c 0 with seconds := (c.args.filterMap duration?).foldl (· + ·) 0 }

/-! ## Base 64 -/

def base64Digits : List Char :=
  "ABCDEFGHIJKLMNOPQRSTUVWXYZabcdefghijklmnopqrstuvwxyz0123456789+/".toList

def base64Digit (n : Nat) : Char := base64Digits.getD (n % 64) 'A'

def encode64 : Bytes → List Char
  | a :: b :: c :: rest =>
    let n := a.toNat * 65536 + b.toNat * 256 + c.toNat
    [base64Digit (n / 262144), base64Digit (n / 4096), base64Digit (n / 64), base64Digit n] ++ encode64 rest
  | [a, b] =>
    let n := a.toNat * 65536 + b.toNat * 256
    [base64Digit (n / 262144), base64Digit (n / 4096), base64Digit (n / 64), '=']
  | [a] =>
    let n := a.toNat * 65536
    [base64Digit (n / 262144), base64Digit (n / 4096), '=', '=']
  | [] => []

/-- The bytes of complete groups of four digits, and whether there is nothing else. -/
def decode64 : List Char → Bytes × Bool
  | a :: b :: c :: d :: rest =>
    match base64Digits.idxOf? a, base64Digits.idxOf? b, base64Digits.idxOf? c, base64Digits.idxOf? d with
    | some a, some b, some c, some d =>
      let n := a * 262144 + b * 4096 + c * 64 + d
      let (more, ok) := decode64 rest
      ([UInt8.ofNat (n / 65536), UInt8.ofNat (n / 256), UInt8.ofNat n] ++ more, ok)
    | some a, some b, some c, none =>
      if d ≠ '=' then ([], false)
      else
        let n := a * 262144 + b * 4096 + c * 64
        ([UInt8.ofNat (n / 65536), UInt8.ofNat (n / 256)], rest.isEmpty)
    | some a, some b, none, none =>
      if c ≠ '=' || d ≠ '=' then ([], false)
      else ([UInt8.ofNat ((a * 262144 + b * 4096) / 65536)], rest.isEmpty)
    | _, _, _, _ => ([], false)
  | [] => ([], true)
  | _ => ([], false)

def wrapped (width : Nat) : (fuel : Nat) → List Char → List Char
  | 0, cs => cs
  | fuel + 1, cs =>
    if cs.isEmpty then []
    else cs.take width ++ '\n' :: wrapped width fuel (cs.drop width)

def base64 : Tool := fun c =>
  c.withOptions [⟨'d', "decode", .nothing⟩, ⟨'w', "wrap", .value⟩, ⟨'i', "ignore-garbage", .nothing⟩] 1 fun o =>
    let (bs, e) := gather c o.operands fileComplaint 1
    if o.has 'd' then
      let cs := (bs.filter (· ≠ 10)).map fun b => Char.ofNat b.toNat
      let (out, ok) := decode64 cs
      let e := e.write out
      if ok then e else e.complain (c.name ++ ": invalid input") 1
    else
      let cs := encode64 bs
      let width := ((o.value? 'w').bind String.toNat?).getD 76
      e.write (Utf8.encode (String.ofList (if width = 0 then cs else wrapped width (cs.length + 1) cs)))

end Tools

end Shell

end HyperEvolve
