import HyperEvolve.Text.CodePoint

/-!
# Words of a command line

A command given as one text is split at blanks. Quotes group what stands between them, and a
backslash takes the next character as it is; between double quotes it does so only before a double
quote or a backslash.
-/

namespace HyperEvolve

namespace ShellWords

inductive Fault where
  | openQuote
  | danglingEscape
deriving DecidableEq, Repr

def Fault.message : Fault → String
  | .openQuote => "No closing quotation"
  | .danglingEscape => "No escaped character"

/-- What the characters read so far leave open. -/
inductive Mode where
  | between
  | bare
  | quoted (double : Bool)
  | escape (quoted : Bool)
deriving DecidableEq, Repr

/-- The words read so far, in reverse. The word that has been begun stands in reverse as well. -/
structure Splitter where
  mode : Mode
  word : Text
  words : List Text

def isBlank (p : CodePoint) : Bool := p.val = 32 || p.val = 9 || p.val = 13 || p.val = 10

namespace Splitter

def start : Splitter := ⟨.between, [], []⟩

def add (s : Splitter) (p : CodePoint) : Splitter := { s with word := p :: s.word }

def endWord (s : Splitter) : Splitter := ⟨.between, [], s.word.reverse :: s.words⟩

/-- A character outside of quotes. -/
def bare (s : Splitter) (p : CodePoint) : Splitter :=
  if p.val = 39 then { s with mode := .quoted false }
  else if p.val = 34 then { s with mode := .quoted true }
  else if p.val = 92 then { s with mode := .escape false }
  else { s.add p with mode := .bare }

def step (s : Splitter) (p : CodePoint) : Splitter :=
  match s.mode with
  | .between => if isBlank p then s else s.bare p
  | .bare => if isBlank p then s.endWord else s.bare p
  | .quoted double =>
    if p.val = (if double then 34 else 39) then { s with mode := .bare }
    else if double && p.val = 92 then { s with mode := .escape true }
    else s.add p
  | .escape true =>
    let s := { s with mode := .quoted true }
    if p.val = 34 || p.val = 92 then s.add p else (s.add (.ofChar '\\')).add p
  | .escape false => { s.add p with mode := .bare }

def finish (s : Splitter) : Except Fault (List Text) :=
  match s.mode with
  | .between => .ok s.words.reverse
  | .bare => .ok s.endWord.words.reverse
  | .quoted _ => .error .openQuote
  | .escape _ => .error .danglingEscape

end Splitter

/-- The words of a text. -/
def split (t : Text) : Except Fault (List Text) := (t.foldl Splitter.step .start).finish

end ShellWords

end HyperEvolve
