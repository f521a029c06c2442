/-!
# Options in letters

How the commands of a shell read their options, and how a script reads its own. The letters that are
known are given as a list in which a colon marks the letter in front of it as one that takes a value.
-/

namespace HyperEvolve

namespace Shell

/-- What follows a known letter in the list. -/
def afterLetter? (c : Char) : List Char → Option (List Char)
  | [] => none
  | x :: ':' :: known => if x = c then some (':' :: known) else afterLetter? c known
  | x :: known => if x = c then some known else afterLetter? c known

inductive LetterFault where
  | unknown (letter : Char)
  | noValue (letter : Char)
deriving DecidableEq, Repr

def LetterFault.message : LetterFault → String
  | .unknown c => "Illegal option -" ++ String.singleton c
  | .noValue c => "No arg for -" ++ String.singleton c ++ " option"

/-- A letter with its value, which is empty for one that takes none. -/
abbrev Letter := Char × String

/-- The letters of one word; a value may be the word that follows. -/
def lettersOfWord (known : List Char) :
    List Char → List String → Except LetterFault (List Letter × List String)
  | [], rest => .ok ([], rest)
  | c :: cs, rest =>
    match afterLetter? c known with
    | none => .error (.unknown c)
    | some (':' :: _) =>
      match cs, rest with
      | [], [] => .error (.noValue c)
      | [], v :: rest => .ok ([(c, v)], rest)
      | cs, rest => .ok ([(c, String.ofList cs)], rest)
    | some _ => do
      let (ls, rest) ← lettersOfWord known cs rest
      return ((c, "") :: ls, rest)

/-- All letters in front of the first word that has none; `fuel` bounds the number of words. -/
def lettersFrom (known : List Char) : (fuel : Nat) → List String → Except LetterFault (List Letter × List String)
  | 0, words => .ok ([], words)
  | _ + 1, [] => .ok ([], [])
  | fuel + 1, w :: rest =>
    match w.toList with
    | ['-'] => .ok ([], w :: rest)
    | ['-', '-'] => .ok ([], rest)
    | '-' :: cs => do
      let (ls, rest) ← lettersOfWord known cs rest
      let (more, rest) ← lettersFrom known fuel rest
      return (ls ++ more, rest)
    | _ => .ok ([], w :: rest)

/-- The options in front of the operands of a command. -/
def leadingLetters (known : String) (words : List String) : Except LetterFault (List Letter × List String) :=
  lettersFrom known.toList words.length words

/-! ## Options of a script -/

/-- Where a script stands in its options: at which word, counted from one, it goes on, and after how many
characters of the word before that, if it is not done with it. -/
structure OptionCursor where
  next : Nat
  offset : Option Nat
deriving DecidableEq, Repr

namespace OptionCursor

def start : OptionCursor := ⟨1, none⟩

/-- What is left of the word that was begun. -/
def pending (k : OptionCursor) (words : List String) : List Char :=
  match k.offset with
  | some n => if k.next ≤ 1 then [] else (words.getD (k.next - 2) "").toList.drop n
  | none => []

end OptionCursor

/-- One step through the options of a script. -/
structure OptionStep where
  /-- The letter, a question mark where there is none, or a colon where its value is missing. -/
  letter : Char
  /-- The new value, if there is to be one; none unsets it. -/
  value : Option (Option String)
  complaint : Option String
  ended : Bool
  cursor : OptionCursor

/-- The step that finds a letter. `rest` follows it in its word, and `next` is the number of words up to
there. -/
def optionStep (known : List Char) (words : List String) (c : Char) (rest : List Char) (next : Nat) : OptionStep :=
  let quiet := known.head? = some ':'
  let word := words.getD (next - 1) ""
  let within : OptionCursor := ⟨next + 1, some (word.length - rest.length)⟩
  let fault (letter : Char) (complaint : String) (cursor : OptionCursor) : OptionStep :=
    if quiet then ⟨letter, some (some (String.singleton c)), none, false, cursor⟩
    else ⟨'?', some none, some complaint, false, cursor⟩
  match afterLetter? c known with
  | none => fault '?' (LetterFault.unknown c).message within
  | some (':' :: _) =>
    if !rest.isEmpty then ⟨c, some (some (String.ofList rest)), none, false, ⟨next + 1, none⟩⟩
    else match words[next]? with
      | some v => ⟨c, some (some v), none, false, ⟨next + 2, none⟩⟩
      | none => fault ':' (LetterFault.noValue c).message ⟨next + 1, none⟩
  | some _ => ⟨c, some (some ""), none, false, within⟩

/-- The next option among some words. -/
def nextOption (known : List Char) (words : List String) (k : OptionCursor) : OptionStep :=
  let k := if words.length + 1 < k.next then .start else k
  let ended (next : Nat) : OptionStep := ⟨'?', none, none, true, ⟨next, none⟩⟩
  match k.pending words with
  | c :: rest => optionStep known words c rest (k.next - 1)
  | [] =>
    match words[k.next - 1]? with
    | none => ended k.next
    | some w =>
      match w.toList with
      | ['-', '-'] => ended (k.next + 1)
      | '-' :: c :: rest => optionStep known words c rest k.next
      | _ => ended k.next

end Shell

end HyperEvolve
