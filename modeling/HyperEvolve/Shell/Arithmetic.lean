/-!
# Arithmetic in scripts

Expressions over whole numbers of 64 bits with variables. The operators bind as usual; a comparison
gives one or zero.
-/

namespace HyperEvolve

namespace Shell

/-- A value wrapped to 64 bits. -/
def wrap64 (n : Int) : Int := Int.bmod n 0x10000000000000000

namespace Arithmetic

/-- Variables by their values, and what is left of an expression. -/
structure State where
  chars : List Char
  lookup : String → String
  assigned : List (String × Int)
  /-- Whether the value of what is read counts. -/
  live : Bool

inductive Fault where
  | expected (what : String)
  | divisionByZero
  | illegalNumber (text : String)
deriving DecidableEq, Repr

abbrev Calc := StateT State (Except Fault)

def expecting {α : Type} (what : String) : Calc α := throw (.expected what)

def skipBlanks : Calc Unit :=
  modify fun s => { s with chars := s.chars.dropWhile fun c => c = ' ' || c = '\t' || c = '\n' }

/-- Reads a part of an expression whose value may not count. -/
def skipping {α : Type} (skip : Bool) (work : Calc α) : Calc α := do
  let live := (← get).live
  modify fun s => { s with live := live && !skip }
  let r ← work
  modify fun s => { s with live }
  return r

/-- Binary operators with how closely they bind, longer ones first. -/
def operators : List (String × Nat) :=
  [("<<", 9), (">>", 9), ("<=", 8), (">=", 8), ("==", 7), ("!=", 7), ("&&", 3), ("||", 2), ("<", 8),
    (">", 8), ("+", 10), ("-", 10), ("*", 11), ("/", 11), ("%", 11), ("&", 6), ("^", 5), ("|", 4)]

/-- Operators that assign, longer ones first. -/
def assignments : List (String × String) :=
  [("<<=", "<<"), (">>=", ">>"), ("+=", "+"), ("-=", "-"), ("*=", "*"), ("/=", "/"), ("%=", "%"),
    ("&=", "&"), ("^=", "^"), ("|=", "|")]

def truth (b : Bool) : Int := if b then 1 else 0

def apply (op : String) (a b : Int) : Calc Int :=
  match op with
  | "+" => return wrap64 (a + b)
  | "-" => return wrap64 (a - b)
  | "*" => return wrap64 (a * b)
  | "/" => if b = 0 then throw .divisionByZero else return wrap64 (Int.tdiv a b)
  | "%" => if b = 0 then throw .divisionByZero else return Int.tmod a b
  | "<<" => return wrap64 (a * Int.pow 2 (b % 64).toNat)
  | ">>" => return a / Int.pow 2 (b % 64).toNat
  | "<" => return truth (a < b)
  | ">" => return truth (b < a)
  | "<=" => return truth (a ≤ b)
  | ">=" => return truth (b ≤ a)
  | "==" => return truth (a = b)
  | "!=" => return truth (a ≠ b)
  | "&&" => return truth (a ≠ 0 && b ≠ 0)
  | "||" => return truth (a ≠ 0 || b ≠ 0)
  | "&" => return bits (fun x y => x &&& y) a b
  | "|" => return bits (fun x y => x ||| y) a b
  | _ => return bits (fun x y => x ^^^ y) a b
where
  bits (f : UInt64 → UInt64 → UInt64) (a b : Int) : Int :=
    let word (n : Int) : UInt64 := UInt64.ofNat (n % 0x10000000000000000).toNat
    wrap64 (f (word a) (word b)).toNat

def digitIn? (base : Nat) (c : Char) : Option Nat :=
  let v := if c.isDigit then some (c.toNat - 48)
    else if 'a' ≤ c && c ≤ 'f' then some (c.toNat - 87)
    else if 'A' ≤ c && c ≤ 'F' then some (c.toNat - 55)
    else none
  v.filter (· < base)

/-- Digits to a base at the start of a text: their value, and how many they are. -/
def digitsIn (base : Nat) (cs : List Char) : Nat × Nat :=
  let ds := (cs.takeWhile fun c => (digitIn? base c).isSome).filterMap (digitIn? base)
  (ds.foldl (fun n d => n * base + d) 0, ds.length)

/-- A number at the start of a text, to the base that its first characters announce. -/
def numberAt (cs : List Char) : Nat × Nat :=
  match cs with
  | '0' :: x :: rest =>
    if (x = 'x' || x = 'X') && (digitsIn 16 rest).2 ≠ 0 then
      let (n, k) := digitsIn 16 rest
      (n, k + 2)
    else digitsIn 8 cs
  | _ => digitsIn 10 cs

/-- The greatest number; larger ones are read as it. -/
def greatest : Nat := 0x7FFFFFFFFFFFFFFF

def isBlank (c : Char) : Bool := c = ' ' || (9 ≤ c.toNat && c.toNat ≤ 13)

/-- The value of the text of a variable. One that is empty counts as zero. -/
def valueOf (text : String) : Except Fault Int :=
  let cs := text.toList.dropWhile isBlank
  let (negative, digits) := match cs with
    | '-' :: cs => (true, cs)
    | '+' :: cs => (false, cs)
    | cs => (false, cs)
  let (n, k) := numberAt digits
  let value : Int := if negative then -n else n
  let rest := (digits.drop k).dropWhile isBlank
  if cs.isEmpty then .ok 0
  else if k = 0 || !rest.isEmpty || wrap64 value ≠ value then .error (.illegalNumber text)
  else .ok value

def current (name : String) : Calc Int := do
  let s ← get
  if !s.live then return 0
  match s.assigned.lookup name with
  | some n => return n
  | none => liftExcept (valueOf (s.lookup name))
where
  liftExcept (r : Except Fault Int) : Calc Int := match r with
    | .ok n => return n
    | .error f => throw f

def assign (name : String) (n : Int) : Calc Int := do
  if (← get).live then modify fun s => { s with assigned := (name, n) :: s.assigned }
  return n

/-- The value of an operation; one that does not count has that of its second operand. -/
def operate (op : String) (a b : Int) : Calc Int := do
  if (← get).live then apply op a b else return b

def take (n : Nat) : Calc Unit := modify fun s => { s with chars := s.chars.drop n }

def isNameStart (c : Char) : Bool := c.isAlpha || c = '_'

def isNameChar (c : Char) : Bool := c.isAlphanum || c = '_'

/-- The sign of an assignment at the start of a text, and the operator in it. -/
def assignmentAt (cs : List Char) : Option (String × Option String) :=
  match assignments.find? fun a => a.1.toList.isPrefixOf cs with
  | some (sign, op) => some (sign, some op)
  | none =>
    match cs with
    | '=' :: '=' :: _ => none
    | '=' :: _ => some ("=", none)
    | _ => none

mutual
/-- An expression; `level` is how closely its operators must bind at least. -/
def binary : (fuel : Nat) → (level : Nat) → Calc Int
  | 0, _ => expecting "expecting primary"
  | fuel + 1, level => do
    let first ← unary fuel
    binaryFrom fuel level first

def binaryFrom : (fuel : Nat) → (level : Nat) → Int → Calc Int
  | 0, _, _ => expecting "expecting primary"
  | fuel + 1, level, left => do
    skipBlanks
    let cs := (← get).chars
    match operators.find? fun o => o.1.toList.isPrefixOf cs with
    | some (op, binds) =>
      if binds < level || (assignmentAt cs).isSome then return left
      take op.length
      let settled := (op = "&&" && left = 0) || (op = "||" && left ≠ 0)
      let right ← skipping settled (binary fuel (binds + 1))
      binaryFrom fuel level (← if settled then pure (truth (left ≠ 0)) else operate op left right)
    | none => return left

def unary : (fuel : Nat) → Calc Int
  | 0 => expecting "expecting primary"
  | fuel + 1 => do
    skipBlanks
    let cs := (← get).chars
    match cs with
    | '-' :: _ =>
      take 1
      return wrap64 (-(← unary fuel))
    | '+' :: _ =>
      take 1
      unary fuel
    | '!' :: _ =>
      take 1
      return truth ((← unary fuel) = 0)
    | '~' :: _ =>
      take 1
      return -(← unary fuel) - 1
    | '(' :: _ =>
      take 1
      let n ← expression fuel
      skipBlanks
      if (← get).chars.head? ≠ some ')' then expecting "expecting ')'"
      take 1
      return n
    | c :: _ =>
      if c.isDigit then
        let (n, k) := numberAt cs
        take k
        return min n greatest
      else if isNameStart c then
        let name := cs.takeWhile isNameChar
        take name.length
        current (String.ofList name)
      else expecting "expecting primary"
    | [] => expecting "expecting primary"

/-- An expression that may begin with an assignment. -/
def expression : (fuel : Nat) → Calc Int
  | 0 => expecting "expecting primary"
  | fuel + 1 => do
    skipBlanks
    let cs := (← get).chars
    let name := if cs.head?.any isNameStart then cs.takeWhile isNameChar else []
    let after := (cs.drop name.length).dropWhile isBlank
    match if name.isEmpty then none else assignmentAt after with
    | some (sign, op) =>
      modify fun s => { s with chars := after.drop sign.length }
      let right ← expression fuel
      let name := String.ofList name
      match op with
      | none => assign name right
      | some op => assign name (← operate op (← current name) right)
    | none => choice fuel

/-- An expression with its choices. -/
def choice : (fuel : Nat) → Calc Int
  | 0 => expecting "expecting primary"
  | fuel + 1 => do
    let condition ← binary fuel 0
    skipBlanks
    if (← get).chars.head? = some '?' then
      take 1
      let yes ← skipping (condition = 0) (expression fuel)
      skipBlanks
      if (← get).chars.head? ≠ some ':' then expecting "expecting ':'"
      take 1
      let no ← skipping (condition ≠ 0) (choice fuel)
      return if condition ≠ 0 then yes else no
    else return condition
end

/-- A whole expression. -/
def whole (fuel : Nat) : Calc Int := do
  let n ← expression fuel
  skipBlanks
  if !(← get).chars.isEmpty then expecting "expecting EOF"
  return n

/-- The value of an expression and the variables that it assigns, the last one first. -/
def eval (lookup : String → String) (text : String) : Except Fault (Int × List (String × Int)) := do
  let (n, s) ← (whole (8 * text.length + 16)).run ⟨text.toList, lookup, [], true⟩
  return (n, s.assigned)

/-- The words for a fault in an expression. -/
def Fault.message (text : String) : Fault → String
  | .expected what => "arithmetic expression: " ++ what ++ ": \"" ++ text ++ "\""
  | .divisionByZero => "arithmetic expression: division by zero: \"" ++ text ++ "\""
  | .illegalNumber value => "Illegal number: " ++ value

end Arithmetic

end Shell

end HyperEvolve
