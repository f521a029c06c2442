/-!
# Paths

A path is a root and the names below it. Repeated separators and `.` vanish when a path is read,
`..` stays. Exactly two leading separators are a root of their own.
-/

namespace HyperEvolve

inductive Root where
  | relative
  | slash
  | doubleSlash
deriving DecidableEq, Repr

structure Path where
  root : Root
  parts : List String
deriving DecidableEq, Repr

namespace Path

/-- The pieces between separators. -/
def splitSlash : List Char → List (List Char)
  | [] => [[]]
  | c :: cs =>
    if c = '/' then [] :: splitSlash cs
    else match splitSlash cs with
      | p :: ps => (c :: p) :: ps
      | [] => [[c]]

def rootOf : List Char → Root
  | '/' :: '/' :: '/' :: _ => .slash
  | '/' :: '/' :: _ => .doubleSlash
  | '/' :: _ => .slash
  | _ => .relative

def ofString (s : String) : Path :=
  ⟨rootOf s.toList,
    ((splitSlash s.toList).map String.ofList).filter fun p => p ≠ "" && p ≠ "."⟩

def toString (p : Path) : String :=
  let names := "/".intercalate p.parts
  match p.root with
  | .relative => if p.parts.isEmpty then "." else names
  | .slash => "/" ++ names
  | .doubleSlash => "//" ++ names

/-- The second path below the first; an absolute one replaces it. -/
def join (p q : Path) : Path :=
  match q.root with
  | .relative => ⟨p.root, p.parts ++ q.parts⟩
  | _ => q

/-- Everything but the last name; a path without names is its own parent. -/
def parent (p : Path) : Path := ⟨p.root, p.parts.dropLast⟩

/-- One name resolved against the names before it, in reverse: `..` removes the last. -/
def descend (above : List String) (name : String) : List String :=
  if name = ".." then above.drop 1 else name :: above

/-- The names that a path leads to from an absolute place, without looking at the files. -/
def resolve (cwd : List String) (p : Path) : List String :=
  let start := match p.root with
    | .relative => cwd
    | _ => []
  (p.parts.foldl descend start.reverse).reverse

def ofNames (names : List String) : Path := ⟨.slash, names⟩

end Path

end HyperEvolve
