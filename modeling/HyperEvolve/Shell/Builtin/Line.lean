import HyperEvolve.Shell.Machine

/-!
# Lines that a script reads

A line of input is cut into the values of variables: at separators, with a backslash that protects the
character after it.
-/

namespace HyperEvolve

namespace Shell

/-- A line of input without its end, how many bytes it takes, and whether it has an end. A backslash at
the end joins the next line unless it is `raw`; protected characters are marked. -/
def readLine (raw : Bool) : Bytes → List (UInt8 × Bool) × Nat × Bool
  | [] => ([], 0, false)
  | 92 :: b :: rest =>
    if raw then
      if b = 10 then ([(92, false)], 2, true)
      else
        let (line, n, ended) := readLine raw (b :: rest)
        ((92, false) :: line, n + 1, ended)
    else
      let (line, n, ended) := readLine raw rest
      (if b = 10 then line else (b, true) :: line, n + 2, ended)
  | b :: rest =>
    if b = 10 then ([], 1, true)
    else
      let (line, n, ended) := readLine raw rest
      (if b = 0 || (b = 92 && !raw) then line else (b, false) :: line, n + 1, ended)
termination_by bs => bs.length

/-- The characters of a line, each with the mark of its first byte. -/
def markedChars (line : List (UInt8 × Bool)) : List (Char × Bool) :=
  let cs := Utf8.decodeLossy (line.map Prod.fst)
  let step (acc : List (Char × Bool) × List (UInt8 × Bool)) (c : Char) :=
    ((c, (acc.2.head?.map Prod.snd).getD false) :: acc.1, acc.2.drop c.utf8Size)
  (cs.foldl step ([], line)).1.reverse

/-- A line without the blanks at its end. Marked characters count as none there, and those among the
blanks go with them. -/
def trimEnd (blank : Char × Bool → Bool) (cs : List (Char × Bool)) : List (Char × Bool) :=
  let tail := cs.reverse.takeWhile fun c => c.2 || blank c
  let kept := tail.reverse.takeWhile Prod.snd
  cs.take (cs.length - tail.length + kept.length)

/-- The texts for some variables, of which the last one takes all that is left. -/
def readFields (separators : List Char) : (count : Nat) → List (Char × Bool) → List String
  | 0, _ => []
  | count + 1, cs =>
    let blank (c : Char × Bool) : Bool := !c.2 && isBlankSeparator c.1 && separators.contains c.1
    let separates (c : Char × Bool) : Bool := !c.2 && separators.contains c.1
    let cs := cs.dropWhile blank
    let text (cs : List (Char × Bool)) := String.ofList (cs.map Prod.fst)
    if count = 0 then
      let trimmed := trimEnd blank cs
      let field := trimmed.takeWhile fun c => !separates c
      let rest := (trimmed.drop field.length).dropWhile blank
      if rest.length = 1 && rest.all separates then [text field] else [text trimmed]
    else
      let field := cs.takeWhile fun c => !separates c
      let rest := (cs.drop field.length).dropWhile blank
      let rest := match rest with
        | c :: more => if separates c then more else rest
        | [] => []
      text field :: readFields separators count rest

end Shell

end HyperEvolve
