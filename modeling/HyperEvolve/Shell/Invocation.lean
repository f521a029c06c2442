import HyperEvolve.Shell.Machine

/-!
# How a shell is started

Switches of a shell, as they stand in its arguments and in those of the command that changes them
later.
-/

namespace HyperEvolve

namespace Shell

/-- Names of switches with their letters, in the order in which they are listed. -/
def switchNames : List (String × Option Char) :=
  [("errexit", 'e'), ("noglob", 'f'), ("ignoreeof", 'I'), ("interactive", 'i'), ("monitor", 'm'), ("noexec", 'n'),
    ("stdin", 's'), ("xtrace", 'x'), ("verbose", 'v'), ("vi", 'V'), ("emacs", 'E'), ("noclobber", 'C'),
    ("allexport", 'a'), ("notify", 'b'), ("nounset", 'u'), ("privileged", 'p'), ("nolog", none), ("debug", none)]

/-- Letters that only the other shell knows, without an effect that can be seen. -/
def otherLetters : List Char := "hklBEHPT".toList

def otherNames : List String :=
  ["braceexpand", "functrace", "hashall", "histexpand", "history", "physical", "posix"]

def Switches.put (s : Switches) (on : Bool) (letter : Char) : Switches :=
  { s with letters := if on then letter :: s.letters.erase letter else s.letters.erase letter }

def Switches.put? (s : Switches) (plain on : Bool) (letter : Char) : Option Switches :=
  if (switchNames.any fun n => n.2 = some letter) || (!plain && otherLetters.contains letter) then
    some (s.put on letter)
  else none

/-- A switch by its name. A plain shell looks at the last stage of a pipeline only. -/
def Switches.putNamed? (s : Switches) (plain on : Bool) (name : String) : Option Switches :=
  if name = "pipefail" && !plain then some { s with joinsFailures := on }
  else match switchNames.lookup name with
    | some (some letter) => some (s.put on letter)
    | some none => some s
    | none => if !plain && otherNames.contains name then some s else none

/-- All switches with their states. -/
def Switches.table (s : Switches) : String :=
  String.join ("Current option settings\n" :: switchNames.map fun n =>
    let padding := String.ofList (List.replicate (16 - n.1.length) ' ')
    n.1 ++ padding ++ (if n.2.any s.letters.contains then "on\n" else "off\n"))

/-- Commands that bring all switches into their states. -/
def Switches.script (s : Switches) : String :=
  String.join (switchNames.map fun n =>
    (if n.2.any s.letters.contains then "set -o " else "set +o ") ++ n.1 ++ "\n")

/-- What the arguments of a shell have said so far. -/
structure Start where
  switches : Switches
  /-- The script is an argument. -/
  fromText : Bool
  /-- Lists of switches that were asked for: the table, or the script. -/
  listed : List Bool

/-- The script is the input. -/
def Start.fromInput (s : Start) : Bool := s.switches.letters.contains 's'

/-- Reads one word of letters. The letter `o` takes a name from the words that follow. -/
def readLetters (plain onStart on : Bool) : List Char → Start → List String → Except String (Start × List String)
  | [], s, rest => .ok (s, rest)
  | 'o' :: cs, s, rest =>
    match rest with
    | [] => readLetters plain onStart on cs { s with listed := s.listed ++ [on] } []
    | name :: rest =>
      match s.switches.putNamed? plain on name with
      | some switches => readLetters plain onStart on cs { s with switches } rest
      | none => .error ("Illegal option -o " ++ name)
  | c :: cs, s, rest =>
    if c = 'c' && onStart then readLetters plain onStart on cs { s with fromText := true } rest
    else match s.switches.put? plain on c with
      | some switches => readLetters plain onStart on cs { s with switches } rest
      | none => .error ("Illegal option -" ++ String.singleton c)

theorem readLetters_length {plain onStart on : Bool} {cs : List Char} {s s' : Start} {rest rest' : List String}
    (h : readLetters plain onStart on cs s rest = .ok (s', rest')) : rest'.length ≤ rest.length := by
  induction cs generalizing s rest with
  | nil =>
    simp only [readLetters, Except.ok.injEq, Prod.mk.injEq] at h
    exact Nat.le_of_eq (congrArg List.length h.2.symm)
  | cons c cs ih =>
    unfold readLetters at h
    split at h
    · cases ‹c :: cs = []›
    · rename_i heq
      cases heq
      split at h
      · exact ih h
      · split at h
        · exact Nat.le_succ_of_le (ih h)
        · cases h
    · rename_i heq
      cases heq
      split at h
      · exact ih h
      · split at h
        · exact ih h
        · cases h

/-- Reads options up to the first word that is none. What follows them is given only if something
does, or if they are closed by two dashes. -/
def readSwitches (plain onStart : Bool) (s : Start) (words : List String) :
    Except String (Start × Option (List String)) :=
  match words with
  | [] => .ok (s, none)
  | w :: rest =>
    match w.toList with
    | ['-', '-'] => .ok (s, some rest)
    | ['-'] =>
      let switches := (s.switches.put false 'x').put false 'v'
      .ok ({ s with switches }, if rest.isEmpty then none else some rest)
    | '-' :: cs =>
      if cs.head? = some '-' && !plain then readSwitches plain onStart s rest
      else match h : readLetters plain onStart true cs s rest with
        | .ok (s, rest') =>
          have := readLetters_length h
          readSwitches plain onStart s rest'
        | .error e => .error e
    | '+' :: cs =>
      match h : readLetters plain onStart false cs s rest with
      | .ok (s, rest') =>
        have := readLetters_length h
        readSwitches plain onStart s rest'
      | .error e => .error e
    | _ => .ok (s, some words)
termination_by words.length

/-- Where a shell has its script from. -/
inductive ScriptPlace where
  | text (script : String) (name : Option String) (args : List String)
  | file (name : String) (args : List String)
  | input (args : List String)
  | noText

/-- The switches and the script that the arguments of a shell stand for. -/
def shellStart (plain : Bool) (words : List String) : Except String (Switches × ScriptPlace) := do
  let (s, rest) ← readSwitches plain true ⟨.off, false, []⟩ words
  let rest := rest.getD []
  let place : ScriptPlace :=
    if s.fromText then
      match rest with
      | script :: rest => .text script rest.head? rest.tail
      | [] => .noText
    else if s.fromInput then .input rest
    else match rest with
      | name :: rest => .file name rest
      | [] => .input []
  let switches := match place with
    | .input _ => s.switches.put true 's'
    | _ => s.switches
  return (switches, place)

end Shell

end HyperEvolve
