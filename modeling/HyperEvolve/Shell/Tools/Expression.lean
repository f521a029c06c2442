import HyperEvolve.Shell.Regex
import HyperEvolve.Shell.Tool

/-!
# Expressions in words

A tool that takes each of its arguments for an operand or an operator, and writes the value. Values are
texts; those that look like whole numbers can be calculated with.
-/

namespace HyperEvolve

namespace Shell

namespace Expression

/-- The words that are left, and the one that was taken last. -/
structure Words where
  rest : List String
  last : String

inductive Fault where
  | missingAfter (word : String)
  | unexpected (word : String)
  | closingAfter (word : String)
  | closingInstead (word : String)
  | closingFirst
  | notWhole
  | divisionByZero
  | regex (text : String)
deriving DecidableEq, Repr

def Fault.message : Fault → String
  | .missingAfter w => "syntax error: missing argument after " ++ shownWord w
  | .unexpected w => "syntax error: unexpected argument " ++ shownWord w
  | .closingAfter w => "syntax error: expecting ')' after " ++ shownWord w
  | .closingInstead w => "syntax error: expecting ')' instead of " ++ shownWord w
  | .closingFirst => "syntax error: unexpected ')'"
  | .notWhole => "non-integer argument"
  | .divisionByZero => "division by zero"
  | .regex t => t

abbrev Calc := StateT Words (Except Fault)

/-- The whole number that a text looks like. -/
def whole? (s : String) : Option Int :=
  let (negative, ds) := match s.toList with
    | '-' :: cs => (true, cs)
    | cs => (false, cs)
  if ds.isEmpty || !ds.all Char.isDigit then none
  else
    let n : Nat := ds.foldl (fun n c => n * 10 + (c.toNat - 48)) 0
    some (if negative then -n else n)

/-- Whether a value counts as nothing: no text, or zero. -/
def isNull (s : String) : Bool := s.isEmpty || (whole? s = some 0)

def truthText (b : Bool) : String := if b then "1" else "0"

/-- Takes a word if it is the next one. -/
def take (w : String) : Calc Bool := do
  let s ← get
  if s.rest.head? = some w then
    set ({ rest := s.rest.drop 1, last := w } : Words)
    return true
  return false

/-- Takes the next word. -/
def next : Calc String := do
  let s ← get
  match s.rest with
  | w :: ws =>
    set ({ rest := ws, last := w } : Words)
    return w
  | [] => throw (.missingAfter s.last)

/-- Matches an expression at the start of a text: the text of its first group, or without groups the
length of the match. -/
def matched (s pattern : String) : Except Fault String :=
  match Regex.read Regex.basic pattern.toList with
  | .error e => .error (.regex e.message)
  | .ok r =>
    let grouped := r.hasGroup
    match r.matchAt Regex.exact (Regex.Spot.start none s.toList) with
    | none => .ok (if grouped then "" else "0")
    | some t =>
      .ok (if grouped then String.ofList (t.group 1)
        else toString (s.length - t.left))

/-- The place of the first character of a text that is one of some others, counted from one. -/
def indexOf (s chars : String) : Nat :=
  ((s.toList.findIdx? chars.toList.contains).map (· + 1)).getD 0

def part (s : String) (start length : Int) : String :=
  if start ≤ 0 || length ≤ 0 then ""
  else String.ofList ((s.toList.drop (start.toNat - 1)).take length.toNat)

/-- Operators by how closely they bind, the loosest first. -/
def operators : List (List String) :=
  [["|"], ["&"], ["<", "<=", "=", "==", "!=", ">=", ">"], ["+", "-"], ["*", "/", "%"], [":"]]

def compared (op a b : String) : Bool :=
  let o : Ordering := match whole? a, whole? b with
    | some x, some y => compare x y
    | _, _ => compareOfLessAndEq a b
  match op with
  | "<" => o = .lt
  | "<=" => o ≠ .gt
  | "=" | "==" => o = .eq
  | "!=" => o ≠ .eq
  | ">=" => o ≠ .lt
  | _ => o = .gt

def calculated (op a b : String) : Except Fault String :=
  match whole? a, whole? b with
  | some x, some y =>
    match op with
    | "+" => .ok (toString (x + y))
    | "-" => .ok (toString (x - y))
    | "*" => .ok (toString (x * y))
    | "/" => if y = 0 then .error .divisionByZero else .ok (toString (x.tdiv y))
    | _ => if y = 0 then .error .divisionByZero else .ok (toString (x.tmod y))
  | _, _ => .error .notWhole

/-- The value of two operands with an operator between them. -/
def combined (op a b : String) : Except Fault String :=
  match op with
  | "|" => .ok (if !isNull a then a else if isNull b then "0" else b)
  | "&" => .ok (if isNull a || isNull b then "0" else a)
  | ":" => matched a b
  | _ => if (operators.getD 2 []).contains op then .ok (truthText (compared op a b)) else calculated op a b

mutual
/-- Operands with operators of one level between them. -/
def chain : (fuel : Nat) → (level : Nat) → (live : Bool) → Calc String
  | 0, _, _ => return ""
  | fuel + 1, level, live => do
    let a ← if level = 6 then operand fuel live else chain fuel (level + 1) live
    if level = 6 then return a else more fuel level live a

def more : (fuel : Nat) → (level : Nat) → (live : Bool) → String → Calc String
  | 0, _, _, a => return a
  | fuel + 1, level, live, a => do
    let s ← get
    match s.rest with
    | op :: _ =>
      if !(operators.getD level []).contains op then return a
      let _ ← next
      let counts := live && (if op = "|" then isNull a else if op = "&" then !isNull a else true)
      let b ← chain fuel (level + 1) counts
      let v ← if live then combined op a b else pure a
      more fuel level live v
    | [] => return a

/-- A word, a function of words, or an expression in parentheses. -/
def operand : (fuel : Nat) → (live : Bool) → Calc String
  | 0, _ => return ""
  | fuel + 1, live => do
    if ← take "+" then next
    else if ← take "length" then
      let s ← operand fuel live
      return toString s.length
    else if ← take "match" then
      let s ← operand fuel live
      let r ← operand fuel live
      if live then matched s r else return s
    else if ← take "index" then
      let s ← operand fuel live
      let r ← operand fuel live
      return toString (indexOf s r)
    else if ← take "substr" then
      let s ← operand fuel live
      let i ← operand fuel live
      let n ← operand fuel live
      return match whole? i, whole? n with
        | some i, some n => part s i n
        | _, _ => ""
    else if ← take "(" then
      let v ← chain fuel 0 live
      let s ← get
      match s.rest with
      | [] => throw (.closingAfter s.last)
      | w :: _ => if ← take ")" then return v else throw (.closingInstead w)
    else if ← take ")" then throw .closingFirst
    else next
end

/-- The value of an expression that takes all words. -/
def value (words : List String) : Except Fault String := do
  let (v, s) ← (chain (16 * words.length + 32) 0 true).run ⟨words, ""⟩
  match s.rest with
  | [] => return v
  | w :: _ => throw (.unexpected w)

end Expression

namespace Tools

/-- Writes the value of an expression; the status says whether it is nothing. -/
def expr : Tool := fun c =>
  let words := if c.args.head? = some "--" then c.args.drop 1 else c.args
  match words with
  | [] => c.fails ("missing operand" ++ c.hint) 2
  | _ =>
    if words = ["--help"] || words = ["--version"] then c.help
    else match Expression.value words with
      | .error f => c.fails f.message 2
      | .ok v => { c.writes (Utf8.encode (v ++ "\n")) with status := if Expression.isNull v then 1 else 0 }

end Tools

end Shell

end HyperEvolve
