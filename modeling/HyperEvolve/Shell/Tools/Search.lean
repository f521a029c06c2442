import HyperEvolve.Shell.Regex
import HyperEvolve.Shell.Tools.Portion

/-!
# Searching lines

A tool that selects the lines in which an expression matches.
-/

namespace HyperEvolve

namespace Shell

namespace Tools

/-! ## Selecting -/

/-- How lines are selected. -/
structure Selection where
  expressions : List Regex
  mode : Regex.Mode
  inverted : Bool
  wholeLine : Bool
  wholeWord : Bool

namespace Selection

/-- The expression with the marks that hold it to whole words or lines. -/
def framed (s : Selection) (r : Regex) : Regex :=
  if s.wholeLine then .both .start (.both r .finish)
  else if s.wholeWord then .both (.edge .fresh) (.both r (.edge .closed))
  else r

/-- The first match from a place on, the longest one of several expressions. -/
def firstMatch (s : Selection) (before : Option Char) (line : List Char) : Option Regex.Match :=
  let found := s.expressions.filterMap fun r => (s.framed r).search s.mode before line
  found.foldl (fun best m =>
    match best with
    | some b =>
      if m.skipped.length < b.skipped.length ||
        (m.skipped.length = b.skipped.length && b.taken.length < m.taken.length) then some m else some b
    | none => some m) none

def selects (s : Selection) (line : List Char) : Bool := (s.firstMatch none line).isSome != s.inverted

/-- All matches in a line that are not empty, each with the number of characters in front of it; `fuel`
bounds their number. -/
def allMatches (s : Selection) : (fuel : Nat) → (position : Nat) → (before : Option Char) → List Char →
    List (Nat × List Char)
  | 0, _, _, _ => []
  | fuel + 1, position, before, line =>
    match s.firstMatch before line with
    | none => []
    | some m =>
      let start := position + m.skipped.length
      if m.taken.isEmpty then
        match line.drop m.skipped.length with
        | c :: rest => s.allMatches fuel (start + 1) (some c) rest
        | [] => []
      else (start, m.taken) :: s.allMatches fuel (start + m.taken.length) m.taken.getLast?
        (line.drop (m.skipped.length + m.taken.length))

end Selection

/-! ## Lines with their surroundings -/

/-- A line of a file: its number, the number of bytes in front of it, and whether it is selected. -/
structure SearchedLine where
  number : Nat
  offset : Nat
  bytes : Bytes
  chars : List Char
  selected : Bool

/-- How much is written around selected lines. -/
structure Surroundings where
  before : Nat
  after : Nat
  /-- Whether a mark stands between pieces that do not touch. -/
  marked : Bool

/-- Whether a line is written: it is selected, or near a selected one. -/
def isShown (k : Surroundings) (selected : List Nat) (n : Nat) : Bool :=
  selected.any fun m => m ≤ n + k.before && n ≤ m + k.after

/-- The lines that are looked at: up to the last that may be selected, and what follows it as long as no
other one is. -/
def upToLimit (limit : Option Nat) (ls : List SearchedLine) : List SearchedLine :=
  match limit with
  | none => ls
  | some k =>
    match ((ls.filter (·.selected)).map (·.number))[k]? with
    | some next => if k = 0 then [] else ls.takeWhile fun l => l.number < next
    | none => if k = 0 then [] else ls

/-! ## The tool -/

/-- The letters for options that have only a long name. -/
def labelLetter : Char := '\x02'
def colorLetter : Char := '\x03'
def caseLetter : Char := '\x04'

def grepRules : List OptionRule :=
  [⟨'v', "invert-match", .nothing⟩, ⟨'i', "ignore-case", .nothing⟩, ⟨'c', "count", .nothing⟩,
    ⟨'n', "line-number", .nothing⟩, ⟨'q', "quiet", .nothing⟩, ⟨'q', "silent", .nothing⟩,
    ⟨'o', "only-matching", .nothing⟩, ⟨'E', "extended-regexp", .nothing⟩, ⟨'F', "fixed-strings", .nothing⟩,
    ⟨'G', "basic-regexp", .nothing⟩, ⟨'P', "perl-regexp", .nothing⟩, ⟨'x', "line-regexp", .nothing⟩,
    ⟨'w', "word-regexp", .nothing⟩, ⟨'l', "files-with-matches", .nothing⟩,
    ⟨'L', "files-without-match", .nothing⟩, ⟨'h', "no-filename", .nothing⟩, ⟨'H', "with-filename", .nothing⟩,
    ⟨'s', "no-messages", .nothing⟩, ⟨'e', "regexp", .value⟩, ⟨'f', "file", .value⟩, ⟨'m', "max-count", .value⟩,
    ⟨'a', "text", .nothing⟩, ⟨'A', "after-context", .value⟩, ⟨'B', "before-context", .value⟩,
    ⟨'C', "context", .value⟩, ⟨'b', "byte-offset", .nothing⟩, ⟨'z', "null-data", .nothing⟩, ⟨'Z', "null", .nothing⟩,
    ⟨labelLetter, "label", .value⟩, ⟨colorLetter, "color", .maybe⟩, ⟨colorLetter, "colour", .maybe⟩,
    ⟨caseLetter, "no-ignore-case", .nothing⟩, ⟨'U', "binary", .nothing⟩, ⟨'I', "", .nothing⟩] ++
    flags "yTu0123456789"

/-- A number of lines around selected ones. -/
def contextLength (v : String) : Except String Nat :=
  match countOf v with
  | .ok n => .ok n
  | .error .tooLarge => .ok 0x7FFFFFFFFFFFFFFF
  | .error .form => .error s!"{v}: invalid context length argument"

/-- What is said about matching lines in a file that is no text. -/
structure SearchPlan where
  selection : Selection
  around : Surroundings
  limit : Option Nat
  ending : UInt8

def surroundings (o : Options) : Except String Surroundings := do
  let digits := String.ofList ((o.given.map Prod.fst).filter Char.isDigit)
  let both ← match o.value? 'C' with
    | some v => (contextLength v).map some
    | none => if digits.isEmpty then pure none else (contextLength digits).map some
  let after ← (o.value? 'A').mapM contextLength
  let before ← (o.value? 'B').mapM contextLength
  return ⟨before.getD (both.getD 0), after.getD (both.getD 0), both.isSome || after.isSome || before.isSome⟩

/-- The greatest number of lines to select. -/
def selectionLimit (o : Options) : Except String (Option Nat) :=
  match o.value? 'm' with
  | none => .ok none
  | some v =>
    if v.startsWith "-" && (countOf (String.ofList (v.toList.drop 1))).toOption.isSome then .ok none
    else match countOf v with
      | .ok n => .ok (some n)
      | .error .tooLarge => .ok none
      | .error .form => .error "invalid max count"

/-- A class that is written without the brackets of its choice. -/
def isBareClass (t : String) : Bool :=
  t.startsWith "[:" && t.endsWith ":]" && 4 < t.length && ((t.toList.drop 2).dropLast.dropLast).all Char.isAlpha

/-- The expressions that options and operands give. -/
def searchExpressions (dialect : Option Regex.Dialect) (sources : List String) : Except String (List Regex) :=
  (sources.flatMap fun s => s.splitOn "\n").mapM fun t =>
    match dialect with
    | none => .ok (.literal t.toList)
    | some d =>
      if isBareClass t then .error "character class syntax is [[:space:]], not [:space:]"
      else (Regex.read d t.toList).mapError Regex.Fault.message

/-- Whether a content is no text. -/
def isBinary (ending : UInt8) (bs : Bytes) : Bool :=
  (ending ≠ 0 && bs.contains 0) || (Utf8.decode bs).toOption.isNone

/-- The lines of a content. -/
def searchedLines (p : SearchPlan) (bs : Bytes) : List SearchedLine :=
  let step (acc : List SearchedLine × Nat × Nat) (l : Bytes) :=
    let body := if l.getLast? = some p.ending then l.dropLast else l
    let chars := Utf8.decodeLossy body
    (⟨acc.2.1, acc.2.2, body, chars, p.selection.selects chars⟩ :: acc.1, acc.2.1 + 1, acc.2.2 + l.length)
  ((recordsOf p.ending bs).foldl step ([], 1, 0)).1.reverse

/-- Numbers in front of a line, each with a mark that says whether the line is selected. -/
def searchLabel (o : Options) (name : Option String) (number offset : Nat) (mark : String) : String :=
  (match name with
    | some n => n ++ (if o.has 'Z' then "\x00" else mark)
    | none => "") ++
    (if o.has 'n' then s!"{number}{mark}" else "") ++ (if o.has 'b' then s!"{offset}{mark}" else "")

/-- The lines that are written of a file. -/
def shownLines (o : Options) (p : SearchPlan) (name : Option String) (ls : List SearchedLine) : Bytes :=
  let selected := (ls.filter (·.selected)).map (·.number)
  let line (l : SearchedLine) : Bytes :=
    let label (offset : Nat) := Utf8.encode (searchLabel o name l.number offset (if l.selected then ":" else "-"))
    if o.has 'o' then
      if !l.selected || p.selection.inverted then []
      else (p.selection.allMatches (l.chars.length + 1) 0 none l.chars).flatMap fun m =>
        let before := (Utf8.encode (String.ofList (l.chars.take m.1))).length
        label (l.offset + before) ++ Utf8.encode (String.ofList m.2) ++ [p.ending]
    else label l.offset ++ l.bytes ++ [p.ending]
  let shown := ls.filter fun l => isShown p.around selected l.number
  let step (acc : Bytes × Option Nat) (l : SearchedLine) : Bytes × Option Nat :=
    let gap := p.around.marked && acc.2.any fun n => n + 1 < l.number
    (acc.1 ++ (if gap then [45, 45, 10] else []) ++ line l, some l.number)
  (shown.foldl step ([], none)).1

/-- Selects lines. The status says whether there was one. -/
def grepWith (dialects : List Char) (c : Call) : Effect :=
  let usage := "Usage: grep [OPTION]... PATTERNS [FILE]...\nTry 'grep --help' for more information."
  match readOptions grepRules c.args with
  | .error e => c.fails (e ++ "\n" ++ usage) 2
  | .ok o =>
    let kinds := dialects ++ (o.given.map Prod.fst).filter fun g => ['E', 'F', 'G', 'P'].contains g
    let kind := kinds.headD 'G'
    let dialect := if kind = 'F' then none else some (if kind = 'G' then Regex.basic else Regex.extended)
    let given := o.given.filterMap fun g =>
      if g.1 = 'e' then some (.ok g.2)
      else if g.1 = 'f' then
        some ((contentAt c.tree g.2).map (fun bs => text (withoutNewline bs)) |>.mapError fun e => (g.2, e))
      else none
    let plan : Except String (Option (SearchPlan × List String)) := do
      if kinds.any (· ≠ kind) then throw "conflicting matchers specified"
      let around ← surroundings o
      let limit ← selectionLimit o
      let given ← given.mapM fun g => g.mapError fun (e : String × Errno) => e.1 ++ ": " ++ e.2.text
      let (sources, operands) := match given, o.operands with
        | [], w :: ws => ([w], ws)
        | gs, ws => (gs, ws)
      if sources.isEmpty then return none
      let expressions ← searchExpressions dialect sources
      let ignoreCase := (o.given.reverse.find? fun g => g.1 = 'i' || g.1 = 'y' || g.1 = caseLetter).any
        fun g => g.1 ≠ caseLetter
      let s : Selection := ⟨expressions, ⟨ignoreCase, false⟩, o.has 'v', o.has 'x', o.has 'w'⟩
      return some (⟨s, around, limit, if o.has 'z' then 0 else 10⟩, operands)
    if o.has helpLetter then c.help
    else match plan with
      | .error e => c.fails e 2
      | .ok none => (Effect.quiet c 2).complain usage 2
      | .ok (some (p, operands)) =>
        let (contents, used) := operandContents c operands
        let named := (1 < contents.length || o.has 'H') && !o.has 'h'
        let step (acc : Effect × Bool) (x : String × Except Errno Bytes) : Effect × Bool :=
          let shown := if x.1 = "-" then (o.value? labelLetter).getD "(standard input)" else x.1
          match x.2 with
          | .error errno =>
            (if o.has 's' then { acc.1 with status := 2 }
              else acc.1.complain (c.name ++ ": " ++ x.1 ++ ": " ++ errno.text) 2, acc.2)
          | .ok bs =>
            let ls := upToLimit p.limit (searchedLines p bs)
            let count := ls.countP (·.selected)
            let any := acc.2 || 0 < count
            let nameEnd := if o.has 'Z' then "\x00" else "\n"
            let out : Bytes :=
              if o.has 'q' then []
              else if o.has 'l' || o.has 'L' then
                if (0 < count) = o.has 'l' then Utf8.encode (shown ++ nameEnd) else []
              else if o.has 'c' then
                Utf8.encode ((if named then shown ++ (if o.has 'Z' then "\x00" else ":") else "") ++ s!"{count}\n")
              else if 0 < count && !o.has 'a' && isBinary p.ending bs then
                Utf8.encode s!"{c.name}: {shown}: binary file matches\n"
              else shownLines o p (if named then some shown else none) ls
            (if out.isEmpty then acc.1 else acc.1.write out, any)
        let (e, any) := contents.foldl step ({ Effect.quiet c 0 with used }, false)
        if any && (e.status = 0 || o.has 'q') then { e with status := 0 }
        else if e.status ≠ 0 then e
        else { e with status := 1 }
where
  withoutNewline (bs : Bytes) : Bytes := if bs.getLast? = some 10 then bs.dropLast else bs

def grep : Tool := grepWith []

/-- The tool for the extended form, and the one for texts without signs. -/
def egrep : Tool := fun c => grepWith ['E'] { c with name := "grep" }
def fgrep : Tool := fun c => grepWith ['F'] { c with name := "grep" }

end Tools

end Shell

end HyperEvolve
