import HyperEvolve.Shell.Format
import HyperEvolve.Shell.Tools.Columns

/-!
# Lines in order

Tools that sort lines by keys, drop repeated lines, and compare sorted files.
-/

namespace HyperEvolve

namespace Shell

namespace Order

/-! ## Values of keys -/

def isBlankByte (b : UInt8) : Bool := b = 32 || b = 9

def skipBlankBytes (bs : Bytes) : Bytes := bs.dropWhile isBlankByte

def isDigitByte (b : UInt8) : Bool := 48 ≤ b && b ≤ 57

def isLetterByte (b : UInt8) : Bool := (65 ≤ b && b ≤ 90) || (97 ≤ b && b ≤ 122)

def upperByte (b : UInt8) : UInt8 := if 97 ≤ b && b ≤ 122 then b - 32 else b

def compareBytes : Bytes → Bytes → Ordering
  | [], [] => .eq
  | [], _ => .lt
  | _, [] => .gt
  | a :: as, b :: bs => if a < b then .lt else if b < a then .gt else compareBytes as bs

/-- A number with places after the point: the digits as a whole number, and how many are places. -/
structure PlacedNumber where
  digits : Int
  places : Nat

def PlacedNumber.compare (a b : PlacedNumber) : Ordering :=
  Ord.compare (a.digits * Int.pow 10 b.places) (b.digits * Int.pow 10 a.places)

/-- The digits of a number at the start of a text, those of its places, and what follows. -/
def numberParts (bs : Bytes) : Bytes × Bytes × Bytes :=
  let whole := bs.takeWhile isDigitByte
  match bs.drop whole.length with
  | 46 :: rest =>
    let places := rest.takeWhile isDigitByte
    (whole, places, rest.drop places.length)
  | rest => (whole, [], rest)

/-- The decimal number at the start of a text past blanks; nothing counts as zero. -/
def leadingNumber (bs : Bytes) : PlacedNumber :=
  let bs := skipBlankBytes bs
  let negative := bs.head? = some 45
  let (whole, places, _) := numberParts (if negative then bs.drop 1 else bs)
  let n : Nat := (whole ++ places).foldl (fun n b => n * 10 + (b.toNat - 48)) 0
  ⟨if negative then -n else n, places.length⟩

/-- The rank of the unit after a number, negative for a negative one; a number that is zero has none. -/
def unitRank (bs : Bytes) : Int :=
  let bs := skipBlankBytes bs
  let negative := bs.head? = some 45
  let (whole, places, rest) := numberParts (if negative then bs.drop 1 else bs)
  if (whole ++ places).all (· = 48) then 0
  else
    let rank : Nat := ((rest.head?.bind fun b =>
      "KMGTPEZY".toList.idxOf? (if b = 107 then 'K' else Char.ofNat b.toNat)).map (· + 1)).getD 0
    if negative then -rank else rank

/-- A number as programs read it, with fractions, exponents and infinities. -/
inductive ReadNumber where
  | none
  | nan
  | finite (digits : Int) (exponent : Int)
  | infinite (negative : Bool)

/-- The number at the start of a text, by its mantissa and its exponent to the base two. -/
def readNumber (bs : Bytes) : ReadNumber :=
  if bs.isEmpty then .none
  else match Format.floating Decimal.extended (bs.map fun b => Char.ofNat b.toNat) with
  | (_, .notNumeric) => .none
  | (.nan, _) => .nan
  | (.infinite negative, _) => .infinite negative
  | (.finite negative m e, _) => .finite (if negative then -m else m) e

/-- Texts without a number come first, then what is no number, then all numbers. -/
def ReadNumber.rank : ReadNumber → Nat
  | .none => 0
  | .nan => 1
  | .infinite true => 2
  | .finite _ _ => 3
  | .infinite false => 4

def ReadNumber.compare (a b : ReadNumber) : Ordering :=
  match a, b with
  | .finite m e, .finite n f =>
    let least := min e f
    Ord.compare (m * Int.pow 2 (e - least).toNat) (n * Int.pow 2 (f - least).toNat)
  | a, b => Ord.compare a.rank b.rank

def months : List String :=
  ["JAN", "FEB", "MAR", "APR", "MAY", "JUN", "JUL", "AUG", "SEP", "OCT", "NOV", "DEC"]

/-- The number of the month whose name begins a text past blanks, zero for none. -/
def monthNumber (bs : Bytes) : Nat :=
  let name := String.ofList (((skipBlankBytes bs).take 3).map fun b => Char.ofNat (upperByte b).toNat)
  ((months.idxOf? name).map (· + 1)).getD 0

/-! ## Versions -/

/-- The rank of a byte outside numbers: a tilde before the end, then the end, letters and other signs. -/
def versionRank : Option UInt8 → Int
  | none => -1
  | some b =>
    if isDigitByte b then 0
    else if isLetterByte b then b.toNat
    else if b = 126 then -2
    else b.toNat + 256

/-- Compares the part in front of numbers byte by byte; `fuel` bounds the bytes. -/
def compareSigns : (fuel : Nat) → Bytes → Bytes → Ordering × Bytes × Bytes
  | 0, a, b => (.eq, a, b)
  | fuel + 1, a, b =>
    let inside (x : Bytes) := x.head?.any fun b => !isDigitByte b
    if !inside a && !inside b then (.eq, a, b)
    else match Ord.compare (versionRank a.head?) (versionRank b.head?) with
      | .eq => compareSigns fuel (a.drop 1) (b.drop 1)
      | o => (o, a, b)

/-- Compares texts in turn by signs and by numbers; `fuel` bounds the turns. -/
def compareVersionParts : (fuel : Nat) → Bytes → Bytes → Ordering
  | 0, _, _ => .eq
  | fuel + 1, a, b =>
    if a.isEmpty && b.isEmpty then .eq
    else match compareSigns (a.length + b.length + 1) a b with
      | (.eq, a, b) =>
        let a := a.dropWhile (· = 48)
        let b := b.dropWhile (· = 48)
        let x := a.takeWhile isDigitByte
        let y := b.takeWhile isDigitByte
        match Ord.compare x.length y.length with
        | .eq =>
          match compareBytes x y with
          | .eq => compareVersionParts fuel (a.drop x.length) (b.drop y.length)
          | o => o
        | o => o
      | (o, _, _) => o

/-- The length of a name without the endings that begin with a dot and a letter; `fuel` bounds the
bytes. -/
def stemLength : (fuel : Nat) → (position stem : Nat) → Bytes → Nat
  | 0, _, stem, _ | _, _, stem, [] => stem
  | fuel + 1, position, _, _ :: rest =>
    let ending := endings (rest.length + 1) rest
    stemLength fuel (position + 1 + ending) (position + 1) (rest.drop ending)
where
  endings : (fuel : Nat) → Bytes → Nat
    | fuel + 1, 46 :: b :: rest =>
      if isLetterByte b || b = 126 then
        let n := (rest.takeWhile fun b => isLetterByte b || isDigitByte b || b = 126).length
        n + 2 + endings fuel (rest.drop n)
      else 0
    | _, _ => 0

def compareVersions (a b : Bytes) : Ordering :=
  let dotted (x : Bytes) : Bool := x.head? = some 46
  let standing (x : Bytes) : Nat :=
    if x.isEmpty then 0 else if x = [46] then 1 else if x = [46, 46] then 2 else if dotted x then 3 else 4
  match Ord.compare (standing a) (standing b) with
  | .eq =>
    let n := stemLength (a.length + 1) 0 0 a
    let m := stemLength (b.length + 1) 0 0 b
    let fuel := a.length + b.length + 1
    match compareVersionParts fuel (a.take n) (b.take m) with
    | .eq => compareVersionParts fuel a b
    | o => o
  | o => o

/-! ## Keys -/

/-- How the texts of a key are compared. -/
inductive Measure where
  | numeric
  | general
  | human
  | month
  | version
deriving DecidableEq, Repr

/-- Which bytes of a key are passed over. -/
inductive Ignored where
  | nothing
  /-- All but letters, digits and blanks. -/
  | signs
  | unprintable
deriving DecidableEq, Repr

/-- How keys are ordered. Blanks may be passed over where a key begins and where it ends. -/
structure KeyOrder where
  startBlanks : Bool
  endBlanks : Bool
  ignored : Ignored
  foldCase : Bool
  measures : List Measure
  reverse : Bool
deriving DecidableEq, Repr

def plainOrder : KeyOrder := ⟨false, false, .nothing, false, [], false⟩

/-- Whether an ordering is the usual one but for its direction. -/
def KeyOrder.isPlain (o : KeyOrder) : Bool := { o with reverse := false } = plainOrder

/-- Where a key begins and ends, in fields and bytes counted from zero. -/
structure Key where
  startField : Nat
  startByte : Nat
  /-- None when the key goes on to the end of the line. -/
  stop : Option (Nat × Nat)
  order : KeyOrder

/-- What is left of a line past a number of fields. With a separator it goes too, but for the last one
of a key that ends with its field. -/
def pastFields (separator : Option UInt8) (keepLast : Bool) : (fields : Nat) → Bytes → Bytes
  | 0, bs => bs
  | _, [] => []
  | n + 1, bs =>
    match separator with
    | some d =>
      let rest := bs.dropWhile (· ≠ d)
      if n = 0 && keepLast then rest else pastFields separator keepLast n (rest.drop 1)
    | none => pastFields separator keepLast n ((skipBlankBytes bs).dropWhile fun b => !isBlankByte b)

/-- The text of a key in a line. -/
def Key.text (k : Key) (separator : Option UInt8) (line : Bytes) : Bytes :=
  let start := pastFields separator false k.startField line
  let start := if k.order.startBlanks then skipBlankBytes start else start
  let start := start.drop k.startByte
  match k.stop with
  | none => start
  | some (field, bytes) =>
    let stop := if bytes = 0 then pastFields separator true (field + 1) line
      else
        let rest := pastFields separator false field line
        (if k.order.endBlanks then skipBlankBytes rest else rest).drop bytes
    start.take (start.length - stop.length)

def Ignored.drops (i : Ignored) (b : UInt8) : Bool :=
  match i with
  | .nothing => false
  | .signs => !(isLetterByte b || isDigitByte b || isBlankByte b)
  | .unprintable => b < 32 || 127 ≤ b

/-- Compares the texts of a key. -/
def KeyOrder.compare (o : KeyOrder) (a b : Bytes) : Ordering :=
  let shaped (x : Bytes) : Bytes :=
    let x := if o.ignored = .nothing then x else x.filter fun b => !o.ignored.drops b
    if o.foldCase then x.map upperByte else x
  let a := shaped a
  let b := shaped b
  match o.measures.head? with
  | none => compareBytes a b
  | some .numeric => (leadingNumber a).compare (leadingNumber b)
  | some .general => (readNumber a).compare (readNumber b)
  | some .human =>
    match Ord.compare (unitRank a) (unitRank b) with
    | .eq => (leadingNumber a).compare (leadingNumber b)
    | r => r
  | some .month => Ord.compare (monthNumber a) (monthNumber b)
  | some .version => compareVersions a b

def turned (reverse : Bool) (o : Ordering) : Ordering := if reverse then o.swap else o

def Key.compare (separator : Option UInt8) (k : Key) (a b : Bytes) : Ordering :=
  turned k.order.reverse (k.order.compare (k.text separator a) (k.text separator b))

/-- Compares lines by keys, the first one that differs deciding. -/
def compareKeys (separator : Option UInt8) (keys : List Key) (a b : Bytes) : Ordering :=
  keys.foldl (fun o k => o.then (k.compare separator a b)) .eq

/-! ## Written keys -/

/-- The place of a blank option, which counts for the start of a key, for its end, or for both. -/
structure BlankPlace where
  start : Bool
  stop : Bool

/-- Adds what a letter says about an order, none for a letter that says nothing. -/
def addLetter (p : BlankPlace) (o : KeyOrder) (c : Char) : Option KeyOrder :=
  let measured (m : Measure) := { o with measures := if o.measures.contains m then o.measures else o.measures ++ [m] }
  match c with
  | 'b' => some { o with startBlanks := o.startBlanks || p.start, endBlanks := o.endBlanks || p.stop }
  | 'd' => some { o with ignored := .signs }
  | 'f' => some { o with foldCase := true }
  | 'g' => some (measured .general)
  | 'h' => some (measured .human)
  | 'i' => some (if o.ignored = .nothing then { o with ignored := .unprintable } else o)
  | 'M' => some (measured .month)
  | 'n' => some (measured .numeric)
  | 'r' => some { o with reverse := true }
  | 'V' => some (measured .version)
  | _ => none

/-- Letters at the start of a text, and what follows them. -/
def addLetters (p : BlankPlace) (o : KeyOrder) : List Char → KeyOrder × List Char
  | [] => (o, [])
  | c :: cs =>
    match addLetter p o c with
    | some o => addLetters p o cs
    | none => (o, c :: cs)

/-- A number in a key, and what follows it. -/
def keyNumber (what : String) (cs : List Char) : Except String (Nat × List Char) :=
  let (n, k) := Arithmetic.digitsIn 10 cs
  if k = 0 then .error s!"{what}: invalid count at start of {shownWord (String.ofList cs)}"
  else .ok (min n 0x10000000000000000, cs.drop k)

/-- Reads a key. -/
def readKey (spec : String) : Except String Key := do
  let fault (what : String) : Except String Unit :=
    throw s!"{what}: invalid field specification {shownWord spec}"
  let (field, rest) ← keyNumber "invalid number at field start" spec.toList
  if field = 0 then fault "field number is zero"
  let (byte, rest) ← match rest with
    | '.' :: rest => do
      let (n, rest) ← keyNumber "invalid number after '.'" rest
      if n = 0 then fault "character offset is zero"
      pure (n - 1, rest)
    | _ => pure (0, rest)
  let (order, rest) := addLetters ⟨true, false⟩ plainOrder rest
  let (stop, order, rest) ← match rest with
    | ',' :: rest => do
      let (last, rest) ← keyNumber "invalid number after ','" rest
      if last = 0 then fault "field number is zero"
      let (n, rest) ← match rest with
        | '.' :: rest => keyNumber "invalid number after '.'" rest
        | _ => pure (0, rest)
      let (order, rest) := addLetters ⟨false, true⟩ order rest
      pure (some (last - 1, n), order, rest)
    | _ => pure (none, order, rest)
  if !rest.isEmpty then fault "stray character in field spec"
  return ⟨field - 1, byte, stop, order⟩

/-- The letters of orders that do not go together, none if they do. -/
def conflict? (o : KeyOrder) : Option String :=
  let version := o.measures.contains .version || o.ignored ≠ .nothing
  let others := (o.measures.filter (· ≠ .version)).length
  if others + (if version then 1 else 0) ≤ 1 then none
  else
    let letter (holds : Bool) (c : Char) : List Char := if holds then [c] else []
    some (String.ofList (letter (o.ignored = .signs) 'd' ++ letter o.foldCase 'f' ++
      letter (o.measures.contains .general) 'g' ++ letter (o.measures.contains .human) 'h' ++
      letter (o.ignored = .unprintable) 'i' ++ letter (o.measures.contains .month) 'M' ++
      letter (o.measures.contains .numeric) 'n' ++ letter (o.measures.contains .version) 'V'))

end Order

namespace Tools

open HyperEvolve.Shell.Order

/-! ## Sorting -/

/-- The letter for options that change nothing in what is written. -/
def sortLongLetter : Char := '\x02'

def sortRules : List OptionRule :=
  [⟨'b', "ignore-leading-blanks", .nothing⟩, ⟨'c', "", .nothing⟩, ⟨'c', "check", .maybe⟩, ⟨'d', "dictionary-order", .nothing⟩,
    ⟨'f', "ignore-case", .nothing⟩, ⟨'g', "general-numeric-sort", .nothing⟩,
    ⟨'h', "human-numeric-sort", .nothing⟩, ⟨'i', "ignore-nonprinting", .nothing⟩, ⟨'k', "key", .value⟩,
    ⟨'m', "merge", .nothing⟩, ⟨'M', "month-sort", .nothing⟩, ⟨'n', "numeric-sort", .nothing⟩,
    ⟨'o', "output", .value⟩, ⟨'r', "reverse", .nothing⟩, ⟨'s', "stable", .nothing⟩,
    ⟨'S', "buffer-size", .value⟩, ⟨'t', "field-separator", .value⟩, ⟨'T', "temporary-directory", .value⟩,
    ⟨'u', "unique", .nothing⟩, ⟨'V', "version-sort", .nothing⟩, ⟨'z', "zero-terminated", .nothing⟩,
    ⟨sortLongLetter, "compress-program", .value⟩, ⟨sortLongLetter, "parallel", .value⟩,
    ⟨sortLongLetter, "batch-size", .value⟩] ++ flags "C"

/-- What options say about sorting. -/
structure SortPlan where
  whole : KeyOrder
  keys : List Key
  separator : Option UInt8
  unique : Bool
  stable : Bool
  ending : UInt8
  /-- Only looks whether the lines are in order, and says where they are not if the mark is set. -/
  check : Option Bool
  output : Option String

/-- The byte between fields. -/
def separatorOf (s : String) : Except String UInt8 :=
  match Utf8.encode s with
  | [] => .error "empty tab"
  | [b] => .ok b
  | bs => if s = "\\0" then .ok 0 else .error s!"multi-character tab {shownWord (text bs)}"

/-- Adds one option to a plan. -/
def addSortOption (p : SortPlan) (g : Char × String) : Except String SortPlan := do
  match g.1 with
  | 'k' => return { p with keys := p.keys ++ [← readKey g.2] }
  | 't' =>
    let d ← separatorOf g.2
    if p.separator.any (· ≠ d) then throw "incompatible tabs"
    return { p with separator := some d }
  | 'u' => return { p with unique := true }
  | 's' => return { p with stable := true }
  | 'z' => return { p with ending := 0 }
  | 'c' => return { p with check := some true }
  | 'C' => return { p with check := some false }
  | 'o' =>
    if p.output.any (· ≠ g.2) then throw "multiple output files specified"
    return { p with output := some g.2 }
  | c => return { p with whole := (addLetter ⟨true, true⟩ p.whole c).getD p.whole }

/-- Keys without an order of their own take that of the whole; without keys, the order of the whole line
is a key if it is not the usual one. -/
def settleKeys (p : SortPlan) : Except String SortPlan := do
  let keys := if p.keys.isEmpty then if p.whole.isPlain then [] else [⟨0, 0, none, p.whole⟩]
    else p.keys.map fun k => if k.order = plainOrder then { k with order := p.whole } else k
  match keys.findSome? fun k => conflict? k.order with
  | some letters => throw s!"options '-{letters}' are incompatible"
  | none => return { p with keys }

def sortPlan (o : Options) : Except String SortPlan := do
  settleKeys (← o.given.foldlM addSortOption ⟨plainOrder, [], none, false, false, 10, none, none⟩)

/-- Compares lines; those that are equal by their keys are compared as a whole, unless the plan says
otherwise. -/
def SortPlan.compare (p : SortPlan) (a b : Bytes) : Ordering :=
  let byKeys := compareKeys p.separator p.keys a b
  if byKeys ≠ .eq || (!p.keys.isEmpty && (p.unique || p.stable)) then byKeys
  else turned p.whole.reverse (compareBytes a b)

/-- The first of each run of lines that are equal. -/
def firstOfRuns (same : Bytes → Bytes → Bool) : (last : Option Bytes) → List Bytes → List Bytes
  | _, [] => []
  | last, l :: ls => if last.any (same · l) then firstOfRuns same last ls else l :: firstOfRuns same (some l) ls

/-- The first line that is out of order, with its number. -/
def disorder? (p : SortPlan) : (number : Nat) → List Bytes → Option (Nat × Bytes)
  | n, a :: b :: rest =>
    let o := p.compare a b
    if o = .gt || (p.unique && o = .eq) then some (n + 1, b) else disorder? p (n + 1) (b :: rest)
  | _, _ => none

/-- Sorts lines, or looks whether they are sorted. -/
def sort : Tool := fun c =>
  c.withOptions sortRules 2 fun o =>
    let given := o.given.map fun g =>
      if g.1 = 'c' && (g.2 = "quiet" || g.2 = "silent") then ('C', "") else g
    match sortPlan { o with given } with
    | .error e => c.fails e 2
    | .ok p =>
      if p.check.isSome && 1 < o.operands.length then
        let letter := if p.check = some true then "c" else "C"
        let second := o.operands.getD 1 ""
        c.fails (s!"extra operand {inQuotes second} not allowed with -{letter}") 2
      else if p.check.isSome && p.output.isSome then
        c.fails (if p.check = some true then "options '-co' are incompatible" else "options '-Co' are incompatible") 2
      else
        let (contents, used) := operandContents c o.operands
        let start := { Effect.quiet c 0 with used }
        let failed := contents.findSome? fun x => match x.2 with
          | .error errno => some (x.1, errno)
          | .ok _ => none
        match failed with
        | some (name, errno) =>
          let what := if errno = .isDirectory then "read failed" else if p.check.isSome then "open failed" else "cannot read"
          start.complain s!"{c.name}: {what}: {quotedName name}: {errno.text}" 2
        | none =>
          let files := contents.map fun x =>
            (recordsOf p.ending (x.2.toOption.getD [])).map (withoutEnd p.ending)
          match p.check with
          | some loud =>
            match disorder? p 1 files.flatten with
            | none => start
            | some (n, line) =>
              let name := o.operands.headD "-"
              if loud then
                { start with
                  writes := [(.complaints, Utf8.encode s!"{c.name}: {name}:{n}: disorder: " ++ line ++ [10])]
                  status := 1 }
              else { start with status := 1 }
          | none =>
            let before (a b : Bytes) : Bool := p.compare a b ≠ .gt
            let sorted := if o.has 'm' then files.foldl (fun acc ls => acc.merge ls before) []
              else files.flatten.mergeSort before
            let sorted := if p.unique then firstOfRuns (fun a b => p.compare a b = .eq) none sorted else sorted
            let out := sorted.flatMap (· ++ [p.ending])
            match p.output with
            | none => start.write out
            | some name =>
              match storeAt start.tree name out with
              | .ok tree => { start with tree }
              | .error errno => start.complain s!"{c.name}: open failed: {quotedName name}: {errno.text}" 2

/-! ## Repeated lines -/

/-- Runs of lines that are the same, each with all its lines. -/
def lineRuns (same : Bytes → Bytes → Bool) : List Bytes → List (List Bytes)
  | [] => []
  | l :: ls =>
    match lineRuns same ls with
    | (m :: ms) :: rs => if same l m then (l :: m :: ms) :: rs else [l] :: (m :: ms) :: rs
    | rs => [l] :: rs

/-- Drops fields, each with the blanks in front of it. -/
def pastWords : (fields : Nat) → Bytes → Bytes
  | 0, bs => bs
  | n + 1, bs => pastWords n ((skipBlankBytes bs).dropWhile fun b => !isBlankByte b)

/-- Where an empty line stands between runs. -/
inductive RunGaps where
  | nowhere
  | before
  | between
  | after
  | around
deriving DecidableEq, Repr

/-- Which lines of a run are written. -/
structure RunPlan where
  fields : Nat
  bytes : Nat
  most : Option Nat
  foldCase : Bool
  counted : Bool
  /-- Lines that are not repeated. -/
  single : Bool
  /-- The first line of a run that is repeated. -/
  first : Bool
  /-- The other lines of such a run. -/
  others : Bool
  gaps : RunGaps

def RunPlan.key (p : RunPlan) (line : Bytes) : Bytes :=
  let rest := (pastWords p.fields line).drop p.bytes
  let rest := match p.most with
    | some n => rest.take n
    | none => rest
  if p.foldCase then rest.map upperByte else rest

/-- A number among the options. -/
def runNumber (o : Options) (letter : Char) (what : String) : Except String (Option Nat) :=
  match o.value? letter with
  | none => .ok none
  | some v =>
    let cs := v.toList.dropWhile fun c => c = ' ' || (9 ≤ c.toNat && c.toNat ≤ 13)
    let cs := if cs.head? = some '+' then cs.drop 1 else cs
    if cs.isEmpty || !cs.all Char.isDigit then .error s!"{v}: invalid number of {what}"
    else .ok (some (Arithmetic.digitsIn 10 cs).1)

/-- The option that writes all runs whole. -/
def groupLetter : Char := '\x02'

/-- A word for gaps, which may be shortened. -/
def runGaps (choices : List (String × RunGaps)) (fallback : RunGaps) (option word : String) :
    Except String RunGaps :=
  if word.isEmpty then .ok fallback
  else match choices.filter fun x => x.1.startsWith word with
    | [x] => .ok x.2
    | found =>
      let what := if found.isEmpty then "invalid" else "ambiguous"
      .error (s!"{what} argument {shownWord word} for {shownWord option}\nValid arguments are:" ++
        String.join (choices.map fun x => "\n  - " ++ shownWord x.1))

def repeatedGaps : List (String × RunGaps) := [("none", .nowhere), ("prepend", .before), ("separate", .between)]

def groupGaps : List (String × RunGaps) :=
  [("prepend", .before), ("append", .after), ("separate", .between), ("both", .around)]

def runPlan (c : Call) (o : Options) : Except String RunPlan := do
  let fields ← runNumber o 'f' "fields to skip"
  let bytes ← runNumber o 's' "bytes to skip"
  let most ← runNumber o 'w' "bytes to compare"
  let gaps ← match o.value? groupLetter, o.value? 'D' with
    | some w, _ => (runGaps groupGaps .between "--group" w).mapError (· ++ c.hint)
    | none, some w => (runGaps repeatedGaps .nowhere "--all-repeated" w).mapError (· ++ c.hint)
    | none, none => pure .nowhere
  if o.has groupLetter && ['c', 'd', 'D', 'u'].any o.has then
    throw ("--group is mutually exclusive with -c/-d/-D/-u" ++ c.hint)
  if o.has 'D' && o.has 'c' then
    throw ("printing all duplicated lines and repeat counts is meaningless" ++ c.hint)
  return ⟨fields.getD 0, bytes.getD 0, most, o.has 'i', o.has 'c', !(o.has 'd' || o.has 'D'), !o.has 'u',
    o.has 'D' || o.has groupLetter, gaps⟩

/-- The lines that are written of a run. -/
def RunPlan.shown (p : RunPlan) (run : List Bytes) : List Bytes :=
  let ds := Nat.toDigits 10 run.length
  let number := String.ofList (List.replicate (7 - ds.length) ' ' ++ ds ++ [' '])
  let shows := if run.length = 1 then p.single else p.first
  (if shows then [(if p.counted then Utf8.encode number else []) ++ run.headD []] else []) ++
    (if p.others then run.drop 1 else [])

/-- Runs with empty lines between them. -/
def RunPlan.spaced (p : RunPlan) (runs : List (List Bytes)) : List Bytes :=
  let blank : List Bytes := [[]]
  match p.gaps with
  | .nowhere => runs.flatten
  | .before => runs.flatMap (blank ++ ·)
  | .after => runs.flatMap (· ++ blank)
  | .between => (runs.take 1).flatten ++ (runs.drop 1).flatMap (blank ++ ·)
  | .around => if runs.isEmpty then [] else runs.flatMap (blank ++ ·) ++ blank

/-- Writes one line of each run of equal lines. -/
def uniq : Tool := fun c =>
  let rules := [⟨'c', "count", .nothing⟩, ⟨'d', "repeated", .nothing⟩, ⟨'D', "", .nothing⟩,
    ⟨'D', "all-repeated", .maybe⟩, ⟨'u', "unique", .nothing⟩, ⟨'i', "ignore-case", .nothing⟩,
    ⟨'f', "skip-fields", .value⟩, ⟨'s', "skip-chars", .value⟩, ⟨'w', "check-chars", .value⟩,
    ⟨'z', "zero-terminated", .nothing⟩, ⟨groupLetter, "group", .maybe⟩]
  c.withOptions rules 1 fun o =>
    match o.operands with
    | _ :: _ :: x :: _ => c.fails (s!"extra operand {shownWord x}" ++ c.hint) 1
    | operands =>
      match runPlan c o with
      | .error e => c.fails e 1
      | .ok p =>
        let ending : UInt8 := if o.has 'z' then 0 else 10
        let (bs, e) := gather c (operands.take 1) fileComplaint 1
        if e.status ≠ 0 then e
        else
          let lines := (recordsOf ending bs).map (withoutEnd ending)
          let runs := (lineRuns (fun a b => p.key a = p.key b) lines).map p.shown
          let out := (p.spaced (runs.filter fun r => !r.isEmpty)).flatMap (· ++ [ending])
          match operands.drop 1 with
          | name :: _ =>
            if name = "-" then e.write out
            else match storeAt e.tree name out with
              | .ok tree => { e with tree }
              | .error errno => e.complain s!"{c.name}: {quotedName name}: {errno.text}" 1
          | [] => e.write out

/-! ## Comparing sorted files -/

/-- The lines of two sorted files, each with the column it belongs to; `fuel` bounds their number. -/
def mergeColumns : (fuel : Nat) → (first second : List Bytes) → List (Nat × Bytes)
  | 0, _, _ => []
  | _ + 1, [], bs => bs.map (1, ·)
  | _ + 1, as, [] => as.map (0, ·)
  | fuel + 1, a :: as, b :: bs =>
    match compareBytes a b with
    | .lt => (0, a) :: mergeColumns fuel as (b :: bs)
    | .gt => (1, b) :: mergeColumns fuel (a :: as) bs
    | .eq => (2, a) :: mergeColumns fuel as bs

def isSorted : List Bytes → Bool
  | a :: b :: rest => compareBytes a b ≠ .gt && isSorted (b :: rest)
  | _ => true

/-- Lines of two sorted files in three columns. -/
def comm : Tool := fun c =>
  let rules := [⟨outputLetter, "output-delimiter", .value⟩, ⟨'z', "zero-terminated", .nothing⟩] ++ flags "123"
  c.withOptions rules 1 fun o =>
    match o.operands with
    | [] => c.fails ("missing operand" ++ c.hint) 1
    | [a] => c.fails (s!"missing operand after {shownWord a}" ++ c.hint) 1
    | _ :: _ :: x :: _ => c.fails (s!"extra operand {shownWord x}" ++ c.hint) 1
    | operands =>
      let ending : UInt8 := if o.has 'z' then 0 else 10
      let (contents, used) := operandContents c operands
      match contents with
      | [(_, .ok a), (_, .ok b)] =>
        let linesOf (bs : Bytes) := (recordsOf ending bs).map (withoutEnd ending)
        let (a, b) := (linesOf a, linesOf b)
        let tab := ((o.value? outputLetter).map Utf8.encode).getD [9]
        let shows (k : Nat) : Bool := !o.has (Char.ofNat (49 + k))
        let margin (k : Nat) : Bytes := ((List.range k).filter shows).flatMap fun _ => tab
        let line (x : Nat × Bytes) : Bytes := if shows x.1 then margin x.1 ++ x.2 ++ [ending] else []
        let e := { Effect.quiet c 0 with used }.write ((mergeColumns (a.length + b.length + 1) a b).flatMap line)
        let faults := (if isSorted a then [] else [1]) ++ (if isSorted b then [] else [2])
        let e := faults.foldl (fun (e : Effect) n => e.complain s!"{c.name}: file {n} is not in sorted order" 1) e
        if faults.isEmpty then e else e.complain s!"{c.name}: input is not in sorted order" 1
      | contents =>
        match contents.findSome? fun x => match x.2 with
          | .error errno => some (x.1, errno)
          | .ok _ => none with
        | some (name, errno) => c.fails (fileComplaint name errno) 1
        | none => Effect.quiet c 1

end Tools

end Shell

end HyperEvolve
