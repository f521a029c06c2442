import HyperEvolve.Shell.Arithmetic
import HyperEvolve.Shell.Tool

/-!
# Conditions

Tests of texts, numbers and files, joined by negation, conjunction and disjunction. The words of a
condition are read twice: as the shell reads them, which looks at one word and the next to tell signs
from operands, and as the tool of the same name does, which counts them first.
-/

namespace HyperEvolve

namespace Shell

namespace Condition

inductive Fault where
  | number (word : String)
  | unexpected (word : String)
  | argument (sign : String)
  | unclosed
  | missingAfter (word : String)
  | extra (word : String)
  | unaryExpected (word : String)
  | binaryExpected (word : String)
  | closing (found : Option String)
deriving DecidableEq, Repr

/-- The complaint of the shell. -/
def Fault.message : Fault → String
  | .number w => "Illegal number: " ++ w
  | .unexpected w => (if w.isEmpty then "" else w ++ ": ") ++ "unexpected operator"
  | .argument sign => sign ++ ": argument expected"
  | .unclosed => "closing paren expected"
  | .missingAfter w => "missing argument after " ++ shownWord w
  | .extra w => "extra argument " ++ shownWord w
  | .unaryExpected w => shownWord w ++ ": unary operator expected"
  | .binaryExpected w => shownWord w ++ ": binary operator expected"
  | .closing none => shownWord ")" ++ " expected"
  | .closing (some w) => shownWord ")" ++ " expected, found " ++ shownWord w

/-- The complaint of the tool. -/
def Fault.toolMessage : Fault → String
  | .number w => "invalid integer " ++ shownWord w
  | f => f.message

/-! ## Single tests -/

def isBlank (c : Char) : Bool := c = ' ' || (9 ≤ c.toNat && c.toNat ≤ 13)

/-- A number with an optional sign, which blanks may surround. -/
def number (bounded : Bool) (word : String) : Except Fault Int :=
  let (negative, cs) := match word.toList.dropWhile isBlank with
    | '-' :: cs => (true, cs)
    | '+' :: cs => (false, cs)
    | cs => (false, cs)
  let (n, k) := Arithmetic.digitsIn 10 cs
  let rest := (cs.drop k).dropWhile isBlank
  let value : Int := if negative then -n else n
  if k = 0 || !rest.isEmpty || (bounded && wrap64 value ≠ value) then .error (.number word)
  else .ok value

/-- Files that are open as descriptors count as plain ones. -/
def fileTest (t : FileTree) (sign : String) (name : String) : Bool :=
  match entryAt t name with
  | .error _ => false
  | .ok e =>
    match sign with
    | "-e" | "-r" | "-w" | "-O" | "-G" => true
    | "-f" => match e with
      | .file _ | .program _ => true
      | _ => false
    | "-d" => e = .directory
    | "-s" => match e with
      | .file content => !content.isEmpty
      | .void => false
      | _ => true
    | "-x" => match e with
      | .directory | .program _ => true
      | _ => false
    | "-c" => e = .void
    | _ => false

def unary (t : FileTree) (sign word : String) : Bool :=
  match sign with
  | "-n" => !word.isEmpty
  | "-z" => word.isEmpty
  | "-t" => false
  | _ => fileTest t sign word

def binary (bounded : Bool) (a sign b : String) : Except Fault Bool := do
  let numbers : Except Fault (Int × Int) := do return (← number bounded a, ← number bounded b)
  match sign with
  | "=" | "==" => return a = b
  | "!=" => return a ≠ b
  | "<" => return a < b
  | ">" => return b < a
  | "-eq" => return (← numbers).1 = (← numbers).2
  | "-ne" => return (← numbers).1 ≠ (← numbers).2
  | "-lt" => return (← numbers).1 < (← numbers).2
  | "-le" => return (← numbers).1 ≤ (← numbers).2
  | "-gt" => return (← numbers).2 < (← numbers).1
  | "-ge" => return (← numbers).2 ≤ (← numbers).1
  | _ => return false

def unarySigns : List String :=
  ["-e", "-f", "-d", "-r", "-w", "-x", "-s", "-c", "-b", "-p", "-h", "-L", "-S", "-u", "-g", "-k", "-O", "-G",
    "-t", "-n", "-z"]

def binarySigns : List String :=
  ["=", "!=", "<", ">", "-eq", "-ne", "-lt", "-le", "-gt", "-ge", "-nt", "-ot", "-ef"]

/-! ## Conditions of the shell -/

/-- What the first of some words stands for. -/
inductive Sign where
  | unary
  | binary
  | negation
  | conjunction
  | disjunction
  | opening
  | closing
  | operand
  | ending
deriving DecidableEq, Repr

def signOf (word : String) : Sign :=
  match word with
  | "!" => .negation
  | "-a" => .conjunction
  | "-o" => .disjunction
  | "(" => .opening
  | ")" => .closing
  | _ => if unarySigns.contains word then .unary else if binarySigns.contains word then .binary else .operand

/-- A sign before a single test is an operand if nothing follows it, or if the word after it is a sign
between two operands. -/
def signAt : List String → Sign
  | [] => .ending
  | w :: rest =>
    match signOf w with
    | .unary =>
      match rest with
      | [] => .operand
      | [_] => .unary
      | next :: _ => if signOf next = .binary then .operand else .unary
    | .opening => if rest.isEmpty then .operand else .opening
    | s => s

mutual
/-- Conditions joined by a disjunction. The words given back begin with the last one that was used. -/
def disjunction : (fuel : Nat) → FileTree → Sign → List String → Except Fault (Bool × List String)
  | 0, _, _, ws => .ok (false, ws)
  | fuel + 1, t, sign, ws => do
    let (a, ws) ← conjunction fuel t sign ws
    if signAt ws.tail = .disjunction then
      let ws := ws.drop 2
      let (b, ws) ← disjunction fuel t (signAt ws) ws
      return (a || b, ws)
    else return (a, ws)

def conjunction : (fuel : Nat) → FileTree → Sign → List String → Except Fault (Bool × List String)
  | 0, _, _, ws => .ok (false, ws)
  | fuel + 1, t, sign, ws => do
    let (a, ws) ← negation fuel t sign ws
    if signAt ws.tail = .conjunction then
      let ws := ws.drop 2
      let (b, ws) ← conjunction fuel t (signAt ws) ws
      return (a && b, ws)
    else return (a, ws)

def negation : (fuel : Nat) → FileTree → Sign → List String → Except Fault (Bool × List String)
  | 0, _, _, ws => .ok (false, ws)
  | fuel + 1, t, sign, ws => do
    if sign = .negation then
      let next := signAt ws.tail
      let (a, ws) ← negation fuel t next (if next = .ending then ws else ws.tail)
      return (!a, ws)
    else primary fuel t sign ws

def primary : (fuel : Nat) → FileTree → Sign → List String → Except Fault (Bool × List String)
  | 0, _, _, ws => .ok (false, ws)
  | fuel + 1, t, sign, ws =>
    match sign, ws with
    | .ending, _ | _, [] => .ok (false, ws)
    | .opening, _ :: rest => do
      let next := signAt rest
      if next = .closing then return (false, rest)
      let (a, ws) ← disjunction fuel t next rest
      if signAt ws.tail = .closing then return (a, ws.tail) else throw .unclosed
    | .unary, w :: rest =>
      match rest with
      | [] => .error (.argument w)
      | operand :: _ => .ok (unary t w operand, rest)
    | _, w :: rest => do
      if signAt rest = .binary then
        match rest with
        | sign :: operand :: more => return (← binary true w sign operand, operand :: more)
        | sign :: [] => throw (.argument sign)
        | [] => return (!w.isEmpty, ws)
      else return (!w.isEmpty, ws)
end

/-- The value of all words. Only the last word that was used may stand at the end. -/
def whole (t : FileTree) (sign : Sign) (ws : List String) : Except Fault Bool := do
  let (r, rest) ← disjunction (4 * ws.length + 4) t sign ws
  match rest with
  | w :: _ :: _ => throw (.unexpected w)
  | _ => return r

/-- Whether a condition of the shell holds; no words hold nothing. Three or four words are looked at
as a whole first. -/
def holds (t : FileTree) (ws : List String) : Except Fault Bool := do
  match ws with
  | [] => return false
  | [a, b, c] =>
    if signOf b = .binary then whole t .operand ws
    else if a = "(" && c = ")" then whole t (signAt [b]) [b]
    else if a = "!" then return !(← whole t (signAt [b, c]) [b, c])
    else whole t (signAt ws) ws
  | [a, b, c, d] =>
    if a = "(" && d = ")" then whole t (signAt [b, c]) [b, c]
    else if a = "!" then
      if signOf c = .binary then return !(← whole t .operand [b, c, d])
      else if b = "(" && d = ")" then return !(← whole t (signAt [c]) [c])
      else if b = "!" then return !(← whole t (signAt [c, d]) [c, d])
      else return !(← whole t (signAt [b, c, d]) [b, c, d])
    else whole t (signAt ws) ws
  | _ => whole t (signAt ws) ws

/-! ## Conditions of the tool -/

namespace Counted

def isBinary (w : String) : Bool := w = "==" || binarySigns.contains w

/-- Whether a word has the look of a sign before a single test. -/
def looksUnary (w : String) : Bool := w.length = 2 && w.startsWith "-"

def knownUnary (w : String) : Bool := w = "-N" || unarySigns.contains w

/-- One to three words have one reading each. `last` is the last word there is. -/
def one : List String → Bool × List String
  | w :: ws => (!w.isEmpty, ws)
  | [] => (false, [])

def two (t : FileTree) (last : String) : List String → Except Fault (Bool × List String)
  | "!" :: w :: ws => .ok (w.isEmpty, ws)
  | sign :: w :: ws =>
    if !looksUnary sign then .error (.missingAfter last)
    else if knownUnary sign then .ok (unary t sign w, ws)
    else .error (.unaryExpected sign)
  | _ => .error (.missingAfter last)

mutual
def three : (fuel : Nat) → FileTree → (last : String) → List String → Except Fault (Bool × List String)
  | 0, _, last, _ => .error (.missingAfter last)
  | fuel + 1, t, last, ws =>
    match ws with
    | a :: b :: c :: rest =>
      if isBinary b then do return (← binary false a b c, rest)
      else if a = "!" then do
        let (r, rest) ← two t last (b :: c :: rest)
        return (!r, rest)
      else if a = "(" && c = ")" then .ok (!b.isEmpty, rest)
      else if b = "-a" || b = "-o" then disjunction fuel t last ws
      else .error (.binaryExpected b)
    | _ => .error (.missingAfter last)

/-- The value of the next `n` words, or of more if they go on. -/
def counted : (fuel : Nat) → FileTree → (last : String) → (n : Nat) → List String → Except Fault (Bool × List String)
  | 0, _, last, _, _ => .error (.missingAfter last)
  | fuel + 1, t, last, n, ws =>
    match n, ws with
    | 1, _ => .ok (one ws)
    | 2, _ => two t last ws
    | 3, _ => three fuel t last ws
    | 4, "!" :: rest => do
      let (r, rest) ← three fuel t last rest
      return (!r, rest)
    | 4, ["(", a, b, ")"] => do
      let (r, rest) ← two t last [a, b, ")"]
      return (r, rest.tail)
    | _, _ => disjunction fuel t last ws

def disjunction : (fuel : Nat) → FileTree → (last : String) → List String → Except Fault (Bool × List String)
  | 0, _, last, _ => .error (.missingAfter last)
  | fuel + 1, t, last, ws => do
    match ← conjunction fuel t last ws with
    | (a, "-o" :: ws) =>
      let (b, ws) ← disjunction fuel t last ws
      return (a || b, ws)
    | r => return r

def conjunction : (fuel : Nat) → FileTree → (last : String) → List String → Except Fault (Bool × List String)
  | 0, _, last, _ => .error (.missingAfter last)
  | fuel + 1, t, last, ws => do
    match ← term fuel t last ws with
    | (a, "-a" :: ws) =>
      let (b, ws) ← conjunction fuel t last ws
      return (a && b, ws)
    | r => return r

def term : (fuel : Nat) → FileTree → (last : String) → List String → Except Fault (Bool × List String)
  | 0, _, last, _ => .error (.missingAfter last)
  | fuel + 1, t, last, ws =>
    match ws with
    | [] => .error (.missingAfter last)
    | "!" :: rest => do
      let (r, rest) ← term fuel t last rest
      return (!r, rest)
    | "(" :: rest => do
      if rest.isEmpty then throw (.missingAfter last)
      let inner := (rest.tail.takeWhile (· ≠ ")")).length + 1
      let n := if 4 < inner then rest.length else inner
      match ← counted fuel t last n rest with
      | (r, ")" :: rest) => return (r, rest)
      | (_, found) => throw (.closing found.head?)
    | a :: b :: c :: rest =>
      if isBinary b then do return (← binary false a b c, rest)
      else single fuel t last a (b :: c :: rest)
    | a :: rest => single fuel t last a rest

/-- A word that is no operand of a sign between two of them. -/
def single : (fuel : Nat) → FileTree → (last : String) → String → List String → Except Fault (Bool × List String)
  | 0, _, last, _, _ => .error (.missingAfter last)
  | _ + 1, t, last, a, rest =>
    if !looksUnary a then .ok (!a.isEmpty, rest)
    else if !knownUnary a then .error (.unaryExpected a)
    else match rest with
      | w :: rest => .ok (unary t a w, rest)
      | [] => .error (.missingAfter last)
end

/-- Whether a condition of the tool holds. -/
def holds (t : FileTree) (ws : List String) : Except Fault Bool := do
  match ws.getLast? with
  | none => return false
  | some last =>
    match ← counted (8 * ws.length + 8) t last ws.length ws with
    | (r, []) => return r
    | (_, w :: _) => throw (.extra w)

end Counted

/-- The tool that tests a condition, under either of its names. -/
def tool : Tool := fun c =>
  let bracket := c.name.endsWith "["
  if bracket && c.args.getLast? ≠ some "]" then c.fails ("missing " ++ shownWord "]") 2
  else match Counted.holds c.tree (if bracket then c.args.dropLast else c.args) with
    | .ok b => .quiet c (if b then 0 else 1)
    | .error f => c.fails f.toolMessage 2

end Condition

end Shell

end HyperEvolve
