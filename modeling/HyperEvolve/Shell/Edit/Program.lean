import HyperEvolve.Shell.Regex

/-!
# Programs that edit streams

A program is a list of steps. Each step has addresses, which say on what lines it works, and an action.
-/

namespace HyperEvolve

namespace Shell

namespace Edit

/-- An expression with the way in which it is matched. -/
structure Search where
  regex : Regex
  mode : Regex.Mode

inductive Address where
  | line (n : Nat)
  | last
  /-- A line that an expression matches, the one used last if none is given. -/
  | text (search : Option Search)
  | every (first step : Nat)
  | after (n : Nat)
  /-- The next line whose number is a multiple. -/
  | multiple (n : Nat)

/-- How letters are changed. -/
inductive Casing where
  | upper
  | lower
deriving DecidableEq, Repr

/-- A part of what is put in place of a match. -/
inductive Insert where
  | char (c : Char)
  | group (index : Nat)
  /-- Changes the letters that follow, or none any more. -/
  | casing (c : Option Casing)
  /-- Changes the next letter. -/
  | next (c : Casing)

structure Substitution where
  search : Option Search
  insert : List Insert
  nth : Nat
  global : Bool
  print : Bool
  file : Option String

inductive Action where
  /-- Skips to the end of a block, given by its index, on lines that are not selected. -/
  | block (stop : Nat)
  | nothing
  | substitute (s : Substitution)
  | transliterate (a b : List Char)
  | delete
  | deleteFirst
  | print
  | printFirst
  | list (width : Option Nat)
  | quit (code : Nat) (silent : Bool)
  | next
  | appendNext
  | hold (adds : Bool)
  | fetch (adds : Bool)
  | exchange
  | clear
  | number
  | fileName
  | after (t : List Char)
  | before (t : List Char)
  | change (t : List Char)
  | read (name : String)
  /-- Reads one more line of a file at each use. -/
  | readLine (name : String)
  | write (name : String)
  | writeFirst (name : String)
  | branch (label : String) (onlyReplaced : Option Bool)
  | label (name : String)

structure Step where
  first : Option Address
  last : Option Address
  negated : Bool
  action : Action

end Edit

end Shell

end HyperEvolve
