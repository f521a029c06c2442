import HyperEvolve.Shell.Tools.Text

/-!
# Programs that run others

What such a program makes of its arguments and its input: the commands that it runs, and under which
circumstances.
-/

namespace HyperEvolve

namespace Shell

namespace Runner

/-- Why a program runs nothing: its complaint and a status. -/
structure Fault where
  text : String
  status : Nat

def hint (name : String) : String := "Try '" ++ name ++ " --help' for more information."

def hinted (name text : String) (status : Nat) : Fault := ⟨name ++ ": " ++ text ++ "\n" ++ hint name, status⟩

/-! ## Changed variables -/

/-- A command with the variables it gets. -/
structure Environment where
  /-- Nothing is handed on. -/
  clears : Bool
  drops : List String
  assigns : List (String × String)
  command : List String

def environmentRules : List OptionRule :=
  [⟨'i', "ignore-environment", .nothing⟩, ⟨'u', "unset", .value⟩, ⟨'0', "null", .nothing⟩, ⟨'v', "debug", .nothing⟩]

/-- The name and the value in a word with a sign between them. -/
def binding? (word : String) : Option (String × String) :=
  let name := word.toList.takeWhile (· ≠ '=')
  if name.length < word.length then some (String.ofList name, String.ofList (word.toList.drop (name.length + 1)))
  else none

def environment (name : String) (args : List String) : Except Fault Environment :=
  match leadingOptions environmentRules args with
  | .error text => .error (hinted name text 125)
  | .ok o =>
    let clears := o.operands.head? = some "-"
    let words := if clears then o.operands.drop 1 else o.operands
    let assigns := (words.takeWhile fun w => w.toList.contains '=').filterMap binding?
    .ok ⟨clears || o.has 'i', (o.given.filter (·.1 = 'u')).map Prod.snd, assigns, words.drop assigns.length⟩

/-! ## Commands made of the input -/

/-- What is read of an input that is cut into words. -/
structure Cut where
  /-- Finished lines, the latest first. -/
  lines : List (List String)
  /-- Finished words of the line under way, in reverse. -/
  words : List String
  /-- The word under way, in reverse, if one has begun. -/
  word : Option (List Char)

def Cut.endWord (k : Cut) : Cut :=
  match k.word with
  | some cs => { k with words := String.ofList cs.reverse :: k.words, word := none }
  | none => k

def Cut.endLine (k : Cut) : Cut :=
  let k := k.endWord
  if k.words.isEmpty then k else { k with lines := k.words.reverse :: k.lines, words := [] }

def Cut.add (k : Cut) (cs : List Char) : Cut := { k with word := some (cs.reverse ++ k.word.getD []) }

/-- Cuts an input into words and lines. Quotes and backslashes protect; with `whole` only the ends of
lines divide words. A quote without an end is a fault. -/
def cutWords (whole : Bool) : (k : Cut) → List Char → Except Char Cut
  | k, [] => .ok k.endLine
  | k, '\\' :: c :: cs => cutWords whole (k.add [c]) cs
  | k, c :: cs =>
    if c = '\n' then cutWords whole k.endLine cs
    else if (c = ' ' || c = '\t') && (!whole || k.word.isNone) then cutWords whole k.endWord cs
    else if c = '\'' || c = '"' then
      let inside := cs.takeWhile fun d => d ≠ c && d ≠ '\n'
      match h : cs.drop inside.length with
      | d :: rest =>
        if d = c then
          have : rest.length ≤ cs.length := by
            have := congrArg List.length h
            simp only [List.length_drop, List.length_cons] at this
            omega
          cutWords whole (k.add inside) rest
        else .error c
      | [] => .error c
    else cutWords whole (k.add [c]) cs
termination_by _ cs => cs.length

def unmatched (name : String) (c : Char) : Fault :=
  ⟨name ++ ": unmatched " ++ (if c = '\'' then "single" else "double") ++
    " quote; by default quotes are special to " ++ name ++ " unless you use the -0 option", 1⟩

def batchRules : List OptionRule :=
  [⟨'n', "max-args", .value⟩, ⟨'I', "replace", .value⟩, ⟨'L', "max-lines", .value⟩, ⟨'d', "delimiter", .value⟩,
    ⟨'0', "null", .nothing⟩, ⟨'r', "no-run-if-empty", .nothing⟩, ⟨'t', "verbose", .nothing⟩, ⟨'x', "exit", .nothing⟩]

/-- Runs of at most `n` items. -/
def chunks (n : Nat) : (fuel : Nat) → List String → List (List String)
  | 0, _ | _, [] => []
  | fuel + 1, xs => xs.take n :: chunks n fuel (xs.drop n)

def limit? (name : String) (o : Options) (letter : Char) : Except Fault (Option Nat) :=
  match o.value? letter with
  | none => .ok none
  | some v =>
    match v.toNat? with
    | some (n + 1) => .ok (some (n + 1))
    | some 0 => .error (hinted name s!"value 0 for -{String.singleton letter} option should be >= 1" 1)
    | none => .error (hinted name s!"invalid number \"{v}\" for -{String.singleton letter} option" 1)

/-- The lines of words in an input. -/
def itemLines (name : String) (o : Options) (input : Bytes) : Except Fault (List (List String)) :=
  let delimiter? : Option Char :=
    if o.has '0' then some '\x00'
    else (o.value? 'd').map fun d => if d = "\\n" then '\n' else if d = "\\0" then '\x00' else d.toList.headD '\n'
  match delimiter? with
  | some d =>
    let parts := (text input).splitOn (String.singleton d)
    .ok ((if parts.getLast? = some "" then parts.dropLast else parts).map ([·]))
  | none =>
    match cutWords (o.has 'I') ⟨[], [], none⟩ (text input).toList with
    | .ok k => .ok k.lines.reverse
    | .error quote => .error (unmatched name quote)

/-- The commands that a program makes of its arguments and the words of its input. -/
def commands (name : String) (args : List String) (input : Bytes) : Except Fault (List (List String)) := do
  let o ← match leadingOptions batchRules args with
    | .ok o => .ok o
    | .error text => .error (hinted name text 1)
  let command := if o.operands.isEmpty then ["echo"] else o.operands
  let most ← limit? name o 'n'
  let mostLines ← limit? name o 'L'
  let lines ← itemLines name o input
  match o.value? 'I' with
  | some mark =>
    return lines.flatten.map fun item => command.map fun w => item.intercalate (w.splitOn mark)
  | none =>
    if lines.isEmpty then return if o.has 'r' then [] else [command]
    let groups := match most, mostLines with
      | some n, _ => chunks n lines.flatten.length lines.flatten
      | none, some n => (List.range ((lines.length + n - 1) / n)).map fun i => ((lines.drop (i * n)).take n).flatten
      | none, none => [lines.flatten]
    return groups.map (command ++ ·)

/-! ## Bounds -/

/-- A command with the time it may take and the status if it takes longer. -/
structure Bound where
  seconds : Float
  late : Nat
  command : List String

def bound (name : String) (args : List String) : Except Fault Bound := do
  let rules := [⟨'s', "signal", .value⟩, ⟨'k', "kill-after", .value⟩, ⟨'v', "verbose", .nothing⟩,
    ⟨'p', "preserve-status", .nothing⟩, ⟨'f', "foreground", .nothing⟩]
  match leadingOptions rules args with
  | .error text => .error (hinted name text 125)
  | .ok o =>
    match o.operands with
    | span :: w :: ws =>
      match Tools.duration? span with
      | some d =>
        let kills := o.value? 's' = some "KILL" || o.value? 's' = some "9"
        .ok ⟨d, if kills then 137 else 124, w :: ws⟩
      | none => .error (hinted name ("invalid time interval " ++ shownWord span) 125)
    | _ => .error ⟨hint name, 125⟩

/-- The command that is run with another priority. -/
def lowered (name : String) (args : List String) : Except Fault (List String) :=
  match leadingOptions [⟨'n', "adjustment", .value⟩] args with
  | .error text => .error (hinted name text 125)
  | .ok o => .ok o.operands

end Runner

end Shell

end HyperEvolve
