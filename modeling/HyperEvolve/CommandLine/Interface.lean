import HyperEvolve.Decimal.Integer
import HyperEvolve.Text.Quoted

/-!
# Words on a command line

An interface says which switches and operands a program takes. Switches stand anywhere before a
double dash; a long one may be cut short while it stays unique, and its value may follow an equals
sign. Operands are taken in order.
-/

namespace HyperEvolve

namespace CommandLine

inductive SwitchEffect where
  | help
  | flag
  | value (number : Bool)
deriving DecidableEq, Repr

structure Switch where
  names : List String
  field : String
  effect : SwitchEffect
deriving DecidableEq, Repr

/-- The name of a switch in messages. -/
def Switch.label (s : Switch) : String := "/".intercalate s.names

def Switch.takesValue (s : Switch) : Bool :=
  match s.effect with
  | .value _ => true
  | _ => false

inductive Arity where
  | one
  | optional
  /-- One word and all that follows, switches included. -/
  | command
deriving DecidableEq, Repr

structure Operand where
  name : String
  arity : Arity
deriving DecidableEq, Repr

structure Interface where
  program : String
  switches : List Switch
  operands : List Operand
deriving DecidableEq, Repr

/-- A wrong use of an interface. -/
inductive Misuse where
  | ambiguous (word : String) (names : List String)
  | noValue (switch : String)
  | ignoredValue (switch value : String)
  | noNumber (switch value : String)
  | noCommand (operand word : String) (commands : List String)
  | missing (names : List String)
  | unrecognized (words : List String)
deriving DecidableEq, Repr

def Misuse.message : Misuse → String
  | .ambiguous word names => s!"ambiguous option: {word} could match " ++ ", ".intercalate names
  | .noValue switch => s!"argument {switch}: expected one argument"
  | .ignoredValue switch value =>
    s!"argument {switch}: ignored explicit argument {quotedString value}"
  | .noNumber switch value => s!"argument {switch}: invalid int value: {quotedString value}"
  | .noCommand operand word commands =>
    s!"argument {operand}: invalid choice: {quotedString word} (choose from " ++
      ", ".intercalate (commands.map quotedString) ++ ")"
  | .missing names => "the following arguments are required: " ++ ", ".intercalate names
  | .unrecognized words => "unrecognized arguments: " ++ " ".intercalate words

/-- Why reading the words stops: help was asked for, or a program was used in a wrong way. -/
inductive Stop where
  | help
  | misuse (program : String) (misuse : Misuse)
deriving DecidableEq, Repr

def Stop.message : Stop → String
  | .help => ""
  | .misuse program m => s!"{program}: error: {m.message}"

/-! ## Telling switches from operands -/

/-- A word read as a switch: which one it is, by which name, and its value if the word holds one. -/
structure Candidate where
  switch : Switch
  name : String
  value : Option String
deriving DecidableEq, Repr

inductive Mark where
  | operand
  | separator
  | known (c : Candidate)
  | unknown
deriving DecidableEq, Repr

def Mark.isSwitch : Mark → Bool
  | .known _ | .unknown => true
  | _ => false

structure Marked where
  word : String
  mark : Mark
deriving DecidableEq, Repr

namespace Interface

/-- Every name with its switch, in order. -/
def names (i : Interface) : List (String × Switch) :=
  i.switches.flatMap fun s => s.names.map fun n => (n, s)

def switch? (i : Interface) (name : String) : Option Switch := i.names.lookup name

end Interface

/-- A word cut at its first equals sign. -/
def cutAtEquals (word : String) : String × Option String :=
  let cs := word.toList
  let before := cs.takeWhile (· ≠ '=')
  match cs.drop before.length with
  | _ :: after => (String.ofList before, some (String.ofList after))
  | [] => (word, none)

def startsWith (text start : String) : Bool := start.toList.isPrefixOf text.toList

/-- Every switch that a word may mean. -/
def candidates (i : Interface) (word : String) : List Candidate :=
  if startsWith word "--" then
    let (start, value) := cutAtEquals word
    (i.names.filter fun n => startsWith n.1 start).map fun n => ⟨n.2, n.1, value⟩
  else
    let short := String.ofList (word.toList.take 2)
    let tail := String.ofList (word.toList.drop 2)
    i.names.filterMap fun n =>
      if n.1 = short then some ⟨n.2, n.1, some tail⟩
      else if startsWith n.1 word then some ⟨n.2, n.1, none⟩
      else none

/-- A dash and a number; a line feed may follow. -/
def isNegativeNumber (word : String) : Bool :=
  match word.toList with
  | '-' :: cs =>
    let cs := if cs.getLast? = some '\n' then cs.dropLast else cs
    let isDigit := fun c => (Decimal.digit? c).isSome
    let whole := cs.takeWhile isDigit
    match cs.drop whole.length with
    | [] => !whole.isEmpty
    | '.' :: places => !places.isEmpty && places.all isDigit
    | _ => false
  | _ => false

/-- What a word is, on its own. -/
def markWord (i : Interface) (word : String) : Except Stop Mark :=
  if !startsWith word "-" then .ok .operand
  else match i.switch? word with
    | some s => .ok (.known ⟨s, word, none⟩)
    | none =>
      if word = "-" then .ok .operand
      else
        let (start, value) := cutAtEquals word
        match value.bind fun v => (i.switch? start).map fun s => (s, v) with
        | some (s, v) => .ok (.known ⟨s, start, some v⟩)
        | none =>
          match candidates i word with
          | [c] => .ok (.known c)
          | [] =>
            if isNegativeNumber word || word.toList.contains ' ' then .ok .operand else .ok .unknown
          | cs => .error (.misuse i.program (.ambiguous word (cs.map Candidate.name)))

/-- Marks all words; after a double dash there are operands only. -/
def markWords (i : Interface) : List String → Except Stop (List Marked)
  | [] => .ok []
  | word :: words =>
    if word = "--" then .ok (⟨word, .separator⟩ :: words.map fun w => ⟨w, .operand⟩)
    else do
      let mark ← markWord i word
      return ⟨word, mark⟩ :: (← markWords i words)

/-! ## Taking operands -/

def countWhile (p : Marked → Bool) (ws : List Marked) : Nat := (ws.takeWhile p).length

def isSeparator (w : Marked) : Bool := w.mark = .separator

def isOperand (w : Marked) : Bool := w.mark = .operand

/-- How many words an operand takes, separators around it included. -/
def operandCount (a : Arity) (ws : List Marked) : Option Nat :=
  let before := countWhile isSeparator ws
  let rest := ws.drop before
  match a, rest.head?.any isOperand with
  | .command, true => some ws.length
  | .command, false => none
  | .one, false => none
  | .optional, false => some before
  | _, true => some (before + 1 + countWhile isSeparator (rest.drop 1))

/-- How many words each of the operands takes. -/
def operandCounts : List Operand → List Marked → Option (List Nat)
  | [], _ => some []
  | o :: os, ws => do
    let n ← operandCount o.arity ws
    return n :: (← operandCounts os (ws.drop n))

/-- As many of the operands as the words suffice for. -/
def longestMatch (ws : List Marked) (os : List Operand) : (length : Nat) → List Nat
  | 0 => []
  | n + 1 =>
    match operandCounts (os.take (n + 1)) ws with
    | some counts => counts
    | none => longestMatch ws os n

/-! ## Reading all words -/

/-- What stands for a field. A double dash is dropped where a value is expected, which leaves the field
blank. -/
inductive Given (α : Type) where
  | blank
  | value (a : α)
deriving DecidableEq, Repr

namespace Given

def toOption {α : Type} : Given α → Option α
  | .blank => none
  | .value a => some a

/-- A value in a message; a blank shows as an empty list. -/
def shown {α : Type} (text : α → String) : Given α → String
  | .blank => "[]"
  | .value a => text a

def ofWords : List String → Given String
  | [] => .blank
  | w :: _ => .value w

end Given

/-- What the words say so far. -/
structure Reading where
  /-- Operands not yet met. -/
  operands : List Operand
  values : List (String × Given String)
  flags : List String
  /-- The word of a command and the words after it. -/
  command : Option (List String)
  /-- Words that nothing takes. -/
  extras : List String
deriving DecidableEq, Repr

namespace Reading

def start (i : Interface) : Reading := ⟨i.operands, [], [], none, []⟩

/-- What was given last. -/
def given? (r : Reading) (field : String) : Option (Given String) := r.values.reverse.lookup field

/-- The value given last, unless it is blank. -/
def value? (r : Reading) (field : String) : Option String := (r.given? field).bind Given.toOption

def hasFlag (r : Reading) (field : String) : Bool := r.flags.contains field

def set (r : Reading) (field : String) (value : Given String) : Reading :=
  { r with values := r.values ++ [(field, value)] }

/-- An operand with the words it takes, without the first double dash among them. An optional operand
that takes nothing else is not given. -/
def takeOperand (r : Reading) (o : Operand) (words : List String) : Reading :=
  match o.arity, words.erase "--" with
  | .command, _ => { r with command := some words }
  | .optional, [] => r
  | _, words => r.set o.name (.ofWords words)

def takeOperandsBy (r : Reading) : List Operand → List Nat → List Marked → Reading × List Marked
  | o :: os, n :: ns, ws =>
    takeOperandsBy (r.takeOperand o ((ws.take n).map Marked.word)) os ns (ws.drop n)
  | os, _, ws => ({ r with operands := os }, ws)

/-- Takes as many operands as there are words for. -/
def takeOperands (r : Reading) (ws : List Marked) : Reading × List Marked :=
  r.takeOperandsBy r.operands (longestMatch ws r.operands r.operands.length) ws

/-- The effect of a switch with its value. -/
def apply (i : Interface) (r : Reading) (s : Switch) (value : String) : Except Stop Reading :=
  match s.effect with
  | .help => .error .help
  | .flag => .ok { r with flags := r.flags ++ [s.field] }
  | .value number =>
    if value = "--" then .ok (r.set s.field .blank)
    else if number && (Decimal.int? value).isNone then
      .error (.misuse i.program (.noNumber s.label value))
    else .ok (r.set s.field (.value value))

/-- A long name cannot be followed by letters of other switches. -/
def isLong (name : String) : Bool := startsWith name "--"

/-- Switches written together: the one that is met first with the text that follows its name, which may
be its value or name further switches by one letter each. None takes effect unless the whole text can
be read. The last one may still need a value. -/
def cluster (i : Interface) (met : List (Switch × String)) (s : Switch) (long : Bool) :
    List Char → Except Stop (List (Switch × String) × Option Switch)
  | [] =>
    if s.takesValue then .ok (met ++ [(s, "")], none)
    else .error (.misuse i.program (.ignoredValue s.label ""))
  | c :: cs =>
    if s.takesValue then .ok (met ++ [(s, String.ofList (c :: cs))], none)
    else
      let ignored := Stop.misuse i.program (.ignoredValue s.label (String.ofList (c :: cs)))
      if long then .error ignored
      else match i.switch? (String.ofList ['-', c]) with
        | none => .error ignored
        | some next =>
          if cs.isEmpty then .ok (met ++ [(s, "")], some next)
          else cluster i (met ++ [(s, "")]) next false cs

/-- Applies switches in order. -/
def applyAll (i : Interface) (r : Reading) : List (Switch × String) → Except Stop Reading
  | [] => .ok r
  | (s, value) :: rest => do applyAll i (← apply i r s value) rest

/-- A switch whose value, if it takes one, is the next word; `met` come before it. -/
def takeNext (i : Interface) (r : Reading) (met : List (Switch × String)) (s : Switch)
    (rest : List Marked) : Except Stop (Reading × List Marked) :=
  if s.takesValue then
    match rest with
    | ⟨word, .operand⟩ :: rest' => do return (← applyAll i r (met ++ [(s, word)]), rest')
    | _ => .error (.misuse i.program (.noValue s.label))
  else do return (← applyAll i r (met ++ [(s, "")]), rest)

/-- Takes a switch and the value that belongs to it. -/
def takeSwitch (i : Interface) (r : Reading) (c : Candidate) (rest : List Marked) :
    Except Stop (Reading × List Marked) :=
  match c.value with
  | none => takeNext i r [] c.switch rest
  | some v => do
    match ← cluster i [] c.switch (isLong c.name) v.toList with
    | (met, none) => return (← applyAll i r met, rest)
    | (met, some last) => takeNext i r met last rest

/-- Reads the words in front of the last switch and that switch; `fuel` bounds their number. -/
def switches (i : Interface) : (fuel : Nat) → Reading → List Marked → Except Stop (Reading × List Marked)
  | 0, r, ws => .ok (r, ws)
  | fuel + 1, r, ws =>
    if !ws.any (·.mark.isSwitch) then .ok (r, ws)
    else match ws with
      | [] => .ok (r, [])
      | ⟨_, .known c⟩ :: rest => do
        let (r, ws) ← takeSwitch i r c rest
        switches i fuel r ws
      | ⟨word, .unknown⟩ :: rest => switches i fuel { r with extras := r.extras ++ [word] } rest
      | _ =>
        let (r, ws') := r.takeOperands ws
        if ws'.length < ws.length then switches i fuel r ws'
        else
          let skipped := ws.takeWhile fun w => !w.mark.isSwitch
          switches i fuel { r with extras := r.extras ++ skipped.map Marked.word } (ws.drop skipped.length)

/-- Operands that must be there and are not. -/
def missing (r : Reading) : List String :=
  (r.operands.filter fun o => o.arity = .one).map Operand.name

end Reading

/-- Reads the words of a command line. -/
def Interface.read (i : Interface) (words : List String) : Except Stop Reading := do
  let ws ← markWords i words
  let (r, ws) ← Reading.switches i (2 * words.length + 1) (.start i) ws
  let (r, ws) := r.takeOperands ws
  let r := { r with extras := r.extras ++ ws.map Marked.word }
  if r.missing.isEmpty then return r else .error (.misuse i.program (.missing r.missing))

end CommandLine

end HyperEvolve
