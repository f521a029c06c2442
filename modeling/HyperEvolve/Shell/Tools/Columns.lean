import HyperEvolve.Shell.Escape
import HyperEvolve.Shell.Tools.Portion

/-!
# Columns of lines

Tools that cut columns out of lines, put lines side by side, or break them at a width.
-/

namespace HyperEvolve

namespace Shell

namespace Tools

/-! ## Lists of columns -/

/-- Columns from a first to a last one; an open range has no last one. -/
structure ColumnRange where
  first : Nat
  last : Option Nat
deriving DecidableEq, Repr

/-- What columns are called in complaints. -/
structure ColumnWords where
  range : String
  zero : String
  wrong : String
  large : String

def fieldWords : ColumnWords :=
  ⟨"invalid field range", "fields are numbered from 1", "invalid field value ", "field number "⟩

def byteWords : ColumnWords :=
  ⟨"invalid byte or character range", "byte/character positions are numbered from 1",
    "invalid byte/character position ", "byte/character offset "⟩

/-- One range of a list: a number, or two with a dash between them of which one may be left out. -/
def columnRange (words : ColumnWords) (part : List Char) : Except String ColumnRange :=
  let number (ds : List Char) : Nat := (Arithmetic.digitsIn 10 ds).1
  let low := part.takeWhile Char.isDigit
  match part.drop low.length with
  | [] => if number low = 0 then .error words.zero else .ok ⟨number low, some (number low)⟩
  | _ :: high =>
    if !low.isEmpty && number low = 0 then .error words.zero
    else if low.isEmpty && high.isEmpty then .error "invalid range with no endpoint: -"
    else
      let first := if low.isEmpty then 1 else number low
      if high.isEmpty then .ok ⟨first, none⟩
      else if number high < first then .error "invalid decreasing range"
      else .ok ⟨first, some (number high)⟩

/-- The first fault in the form of a range, where reading stops. -/
def columnFault? (words : ColumnWords) : (dash : Bool) → (whole : List Char) → Option String
  | _, [] => none
  | dash, c :: cs =>
    if c = ',' || c = ' ' || c = '\t' then none
    else if c = '-' then if dash then some words.range else columnFault? words true cs
    else if c.isDigit then columnFault? words dash cs
    else some (words.wrong ++ shownWord (String.ofList (c :: cs)))

/-- A number that is too large for a column. -/
def largeNumber? (words : ColumnWords) (part : List Char) : Option String :=
  let numbers := [part.takeWhile Char.isDigit, (part.dropWhile (· ≠ '-')).drop 1]
  (numbers.find? fun ds => 0xFFFFFFFFFFFFFFFF ≤ (Arithmetic.digitsIn 10 ds).1).map fun ds =>
    words.large ++ shownWord (String.ofList ds) ++ " is too large"

/-- A list of ranges, with commas or blanks between them; `fuel` bounds their number. The first fault
from the left counts. -/
def columnRanges (words : ColumnWords) : (fuel : Nat) → List Char → Except String (List ColumnRange)
  | 0, _ => .ok []
  | fuel + 1, cs => do
    let isEnd (c : Char) : Bool := c = ',' || c = ' ' || c = '\t'
    let part := cs.takeWhile fun c => !isEnd c
    let sound := part.takeWhile fun c => c.isDigit || c = '-'
    if let some e := largeNumber? words sound then throw e
    if sound.head? = some '0' && sound.contains '-' && (Arithmetic.digitsIn 10 sound).1 = 0 then throw words.zero
    if let some e := columnFault? words false cs then throw e
    let r ← columnRange words part
    match cs.drop part.length with
    | [] => return [r]
    | _ :: rest => return r :: (← columnRanges words fuel rest)

/-- Ranges in order, those that meet joined. -/
def joinRanges (rs : List ColumnRange) : List ColumnRange :=
  let step (acc : List ColumnRange) (r : ColumnRange) : List ColumnRange :=
    match acc with
    | [] => [r]
    | p :: ps =>
      match p.last with
      | none => acc
      | some l => if r.first ≤ l then { p with last := r.last.map (max l ·) } :: ps else r :: acc
  ((rs.mergeSort fun a b => a.first ≤ b.first).foldl step []).reverse

/-- The ranges between those of a list. -/
def otherRanges (rs : List ColumnRange) : List ColumnRange :=
  let (out, next) := rs.foldl (fun (acc : List ColumnRange × Option Nat) r =>
    match acc.2 with
    | none => acc
    | some n =>
      (if n < r.first then acc.1 ++ [⟨n, some (r.first - 1)⟩] else acc.1, r.last.map (max n <| · + 1))) ([], some 1)
  match next with
  | some n => out ++ [⟨n, none⟩]
  | none => out

def inRanges (rs : List ColumnRange) (n : Nat) : Bool := rs.any fun r => r.first ≤ n && r.last.all (n ≤ ·)

/-! ## Cutting -/

/-- Fields between a byte. -/
def splitAtByte (d : UInt8) (bs : Bytes) : List Bytes :=
  bs.foldr (fun b acc =>
    match acc with
    | f :: fs => if b = d then [] :: f :: fs else (b :: f) :: fs
    | [] => [[b]]) [[]]

def joinBytes (d : Bytes) : List Bytes → Bytes
  | [] => []
  | [x] => x
  | x :: xs => x ++ d ++ joinBytes d xs

/-- A line without the byte that ends it. -/
def withoutEnd (ending : UInt8) (line : Bytes) : Bytes :=
  if line.getLast? = some ending then line.dropLast else line

/-- Bytes of a line in some ranges, with something between the ranges if that is asked for. -/
def cutBytes (rs : List ColumnRange) (between : Option Bytes) (line : Bytes) : Bytes :=
  let kept := (line.zipIdx 1).filter fun p => inRanges rs p.2
  match kept with
  | [] => []
  | p :: ps =>
    p.1 :: ps.flatMap fun q =>
      (if rs.any fun r => r.first = q.2 then between.getD [] else []) ++ [q.1]

/-- The letters for options that have only a long name. -/
def complementLetter : Char := '\x02'
def outputLetter : Char := '\x03'

/-- Why columns cannot be cut as the options say, found before the list is read. -/
def cutFault? (o : Options) : Option String :=
  let lists := o.given.filter fun g => g.1 = 'b' || g.1 = 'c' || g.1 = 'f'
  let firstSecond := (o.given.zipIdx.filter fun g => g.1.1 = 'b' || g.1.1 = 'c' || g.1.1 = 'f')[1]?
  let badDelimiter := o.given.zipIdx.find? fun g => g.1.1 = 'd' && 1 < g.1.2.utf8ByteSize
  let two := "only one list may be specified"
  let wide := "the delimiter must be a single character"
  match firstSecond, badDelimiter with
  | some (_, i), some (_, j) => some (if i < j then two else wide)
  | some _, none => some two
  | none, some _ => some wide
  | none, none =>
    match lists with
    | [] => some "you must specify a list of bytes, characters, or fields"
    | (letter, _) :: _ =>
      if letter = 'f' then none
      else if o.has 'd' then some "an input delimiter may be specified only when operating on fields"
      else if o.has 's' then some "suppressing non-delimited lines makes sense\n\tonly when operating on fields"
      else none

/-- Cuts bytes or fields out of lines. -/
def cut : Tool := fun c =>
  let rules := [⟨'b', "bytes", .value⟩, ⟨'c', "characters", .value⟩, ⟨'f', "fields", .value⟩,
    ⟨'d', "delimiter", .value⟩, ⟨'s', "only-delimited", .nothing⟩, ⟨'z', "zero-terminated", .nothing⟩,
    ⟨complementLetter, "complement", .nothing⟩, ⟨outputLetter, "output-delimiter", .value⟩] ++ flags "n"
  c.withOptions rules 1 fun o =>
    let bytesOf (s : String) : Bytes := if s.isEmpty then [0] else Utf8.encode s
    match cutFault? o with
    | some e => c.fails (e ++ c.hint) 1
    | none =>
      let (letter, list) := (o.given.find? fun g => g.1 = 'b' || g.1 = 'c' || g.1 = 'f').getD ('f', "")
      let fields := letter = 'f'
      match columnRanges (if fields then fieldWords else byteWords) (list.length + 1) list.toList with
      | .error e => c.fails (e ++ c.hint) 1
      | .ok rs =>
        let rs := joinRanges rs
        let rs := if o.has complementLetter then otherRanges rs else rs
        let ending : UInt8 := if o.has 'z' then 0 else 10
        let delimiter : UInt8 := ((o.value? 'd').map bytesOf).getD [9] |>.headD 9
        let between := (o.value? outputLetter).map bytesOf
        let (bs, e) := gather c o.operands fileComplaint 1
        let line (l : Bytes) : Option Bytes :=
          let body := withoutEnd ending l
          if !fields then some (cutBytes rs between body)
          else
            let fs := splitAtByte delimiter body
            if !l.contains delimiter then if o.has 's' then none else some body
            else some (joinBytes (between.getD [delimiter])
              ((fs.zipIdx 1).filterMap fun p => if inRanges rs p.2 then some p.1 else none))
        let records := if fields && delimiter = ending then (if bs.isEmpty then [] else [bs])
          else recordsOf ending bs
        e.write ((records.filterMap line).flatMap (· ++ [ending]))

/-! ## Lines side by side -/

/-- The delimiters of a list with its escapes; one that stands for nothing is empty. -/
def pasteDelimiters : List Char → Except Unit (List Bytes)
  | [] => .ok []
  | ['\\'] => .error ()
  | '\\' :: c :: cs => do
    let d : Bytes := match c with
      | '0' => []
      | 'b' => [8]
      | 'f' => [12]
      | 'n' => [10]
      | 'r' => [13]
      | 't' => [9]
      | 'v' => [11]
      | c => charBytes c
    return d :: (← pasteDelimiters cs)
  | c :: cs => do return (charBytes c).map ([·]) ++ (← pasteDelimiters cs)

/-- Pieces with delimiters between them, used one after the other and again from the start. -/
def interleave (ds : Array Bytes) : (index : Nat) → List Bytes → Bytes
  | _, [] => []
  | _, [x] => x
  | i, x :: xs => x ++ ds.getD (i % ds.size) [] ++ interleave ds (i + 1) xs

/-- Lines of several files side by side; `fuel` bounds the number of lines. -/
def sideBySide (ds : Array Bytes) : (fuel : Nat) → List (List Bytes) → List Bytes
  | 0, _ => []
  | fuel + 1, files =>
    if files.all List.isEmpty then []
    else interleave ds 0 (files.map fun ls => ls.headD []) :: sideBySide ds fuel (files.map (List.drop 1))

/-- Deals lines out to places that all read the same input. -/
def dealt (places index : Nat) (ls : List Bytes) : List Bytes :=
  (ls.zipIdx.filter fun p => p.2 % places = index).map Prod.fst

/-- Puts lines side by side, or all lines of a file into one. -/
def paste : Tool := fun c =>
  let rules := [⟨'d', "delimiters", .value⟩, ⟨'s', "serial", .nothing⟩, ⟨'z', "zero-terminated", .nothing⟩]
  c.withOptions rules 1 fun o =>
    let list := (o.value? 'd').getD "\t"
    match pasteDelimiters list.toList with
    | .error () => c.fails s!"delimiter list ends with an unescaped backslash: {list}" 1
    | .ok ds =>
      let ds := if ds.isEmpty then #[[]] else ds.toArray
      let ending : UInt8 := if o.has 'z' then 0 else 10
      let linesOf (bs : Bytes) := (recordsOf ending bs).map (withoutEnd ending)
      let operands := if o.operands.isEmpty then ["-"] else o.operands
      if o.has 's' then
        let (contents, used) := operandContents c operands
        contents.foldl (fun (e : Effect) x =>
          match x.2 with
          | .ok bs => e.write (interleave ds 0 (linesOf bs) ++ [ending])
          | .error errno => e.complain (c.name ++ ": " ++ fileComplaint x.1 errno) 1)
          { Effect.quiet c 0 with used }
      else
        let shared := operands.countP (· = "-")
        let all := linesOf c.input
        let (files, _) := operands.foldl (fun (acc : List (Except (String × Errno) (List Bytes)) × Nat) name =>
          if name = "-" then (acc.1 ++ [.ok (dealt shared acc.2 all)], acc.2 + 1)
          else match contentAt c.tree name with
            | .ok bs => (acc.1 ++ [.ok (linesOf bs)], acc.2)
            | .error errno => (acc.1 ++ [.error (name, errno)], acc.2)) ([], 0)
        match files.mapM id with
        | .error (name, errno) => c.fails (fileComplaint name errno) 1
        | .ok files =>
          let most := (files.map List.length).foldl max 0
          let out := (sideBySide ds (most + 1) files).flatMap (· ++ [ending])
          { Effect.quiet c 0 with used := if shared = 0 then 0 else c.input.length }.write out

/-! ## Lines of a width -/

/-- The column after a byte. -/
def nextColumn (bytes : Bool) (column : Nat) (b : UInt8) : Nat :=
  if bytes then column + 1
  else if b = 8 then column - 1
  else if b = 13 then 0
  else if b = 9 then column + 8 - column % 8
  else column + 1

/-- Where a line that is full may be broken: after its last blank. -/
def breakAt (line : Bytes) : Option Nat :=
  let tail := (line.reverse.takeWhile fun b => b ≠ 32 && b ≠ 9).length
  if tail = line.length then none else some (line.length - tail)

/-- A line broken so that no piece is wider than a width; `fuel` bounds the bytes that are looked at. -/
def foldLine (bytes spaces : Bool) (width : Nat) : (fuel : Nat) → (piece : Bytes) → (column : Nat) → Bytes →
    List Bytes
  | 0, piece, _, rest => [piece ++ rest]
  | _ + 1, piece, _, [] => if piece.isEmpty then [] else [piece]
  | fuel + 1, piece, column, b :: rest =>
    let next := nextColumn bytes column b
    if next ≤ width then foldLine bytes spaces width fuel (piece ++ [b]) next rest
    else match if spaces then breakAt piece else none with
      | some n =>
        let left := piece.drop n
        let column := left.foldl (nextColumn bytes) 0
        piece.take n :: foldLine bytes spaces width fuel left column (b :: rest)
      | none =>
        if piece.isEmpty then foldLine bytes spaces width fuel [b] next rest
        else piece :: foldLine bytes spaces width fuel [] 0 (b :: rest)

def columnsComplaint (width : String) (large : Bool) : String :=
  s!"invalid number of columns: {shownWord width}" ++
    (if large then ": Value too large for defined data type" else "")

/-- Breaks lines at a width. -/
def fold : Tool := fun c =>
  let rules := [⟨'b', "bytes", .nothing⟩, ⟨'s', "spaces", .nothing⟩, ⟨'w', "width", .value⟩] ++
    flags "0123456789"
  c.withOptions rules 1 fun o =>
    let digits := String.ofList ((o.given.map Prod.fst).filter Char.isDigit)
    let width := (o.value? 'w').getD (if digits.isEmpty then "80" else digits)
    match countOf width with
    | .error fault => c.fails (columnsComplaint width (fault = .tooLarge)) 1
    | .ok 0 => c.fails (columnsComplaint width false ++ ": Numerical result out of range") 1
    | .ok w =>
      let (contents, used) := operandContents c o.operands
      contents.foldl (fun (e : Effect) x =>
        match x.2 with
        | .ok bs =>
          e.write ((splitLines bs).flatMap fun l =>
            joinBytes [10] (foldLine (o.has 'b') (o.has 's') w (3 * l.length + 4) [] 0 (chomp l)) ++
              (if l.getLast? = some 10 then [10] else []))
        | .error errno => e.complain (c.name ++ ": " ++ fileComplaint x.1 errno) 1)
        { Effect.quiet c 0 with used }

end Tools

end Shell

end HyperEvolve
