import HyperEvolve.Shell.Edit.Reader
import HyperEvolve.Shell.Edit.Run

/-!
# The stream editor

The tool gathers a program from its options, and runs it on its input or in place on files.
-/

namespace HyperEvolve

namespace Shell

namespace Tools

/-- The letters of options that have a long name alone. -/
def posixLetter : Char := '\x02'
def ignoredLetter : Char := '\x03'

def sedRules : List OptionRule :=
  [⟨'n', "quiet", .nothing⟩, ⟨'n', "silent", .nothing⟩, ⟨'e', "expression", .value⟩, ⟨'f', "file", .value⟩,
    ⟨'E', "regexp-extended", .nothing⟩, ⟨'r', "", .nothing⟩, ⟨'i', "in-place", .maybe⟩, ⟨'s', "separate", .nothing⟩,
    ⟨'u', "unbuffered", .nothing⟩, ⟨'z', "null-data", .nothing⟩, ⟨'z', "zero-terminated", .nothing⟩,
    ⟨'l', "line-length", .value⟩, ⟨'b', "binary", .nothing⟩, ⟨posixLetter, "posix", .nothing⟩,
    ⟨ignoredLetter, "follow-symlinks", .nothing⟩, ⟨ignoredLetter, "sandbox", .nothing⟩,
    ⟨ignoredLetter, "debug", .nothing⟩]

/-- The pieces of the program that options give. -/
def programPieces (c : Call) (o : Options) : Except String (List String) :=
  (o.given.filter fun g => g.1 = 'e' || g.1 = 'f').mapM fun g =>
    if g.1 = 'e' then .ok g.2
    else match (if inputNames.contains g.2 then .ok c.input else contentAt c.tree g.2) with
      | .ok bs => .ok (text (chomp bs))
      | .error e => .error s!"couldn't open file {g.2}: {e.text}"

/-- Whether a program asks in its first line for lines to be written only on demand. -/
def asksForQuiet (pieces : List String) : Bool :=
  pieces.head?.any fun p => p = "#n" || p.startsWith "#n\n"

/-- The number at the start of a text. -/
def leadingNumber (t : String) : Nat :=
  (t.toList.takeWhile Char.isDigit).foldl (fun n d => n * 10 + (d.toNat - 48)) 0

/-- The name under which a file is kept that is edited in place: a star stands for its own name. -/
def backupName (suffix name : String) : String :=
  let folder := String.ofList (name.toList.reverse.dropWhile (· ≠ '/')).reverse
  let base := String.ofList (name.toList.reverse.takeWhile (· ≠ '/')).reverse
  let kept := if suffix.toList.contains '*' then base.intercalate (suffix.splitOn "*") else base ++ suffix
  if kept.toList.contains '/' then kept else folder ++ kept

/-- What a run has written, the complaints first, and how it ended. -/
def editEffect (c : Call) (e : Effect) (r : Except Edit.Stop Unit × Edit.State) (keepsOutput : Bool) : Effect :=
  let s := r.2
  let pick (t : Stream) : List (Stream × Bytes) :=
    ((s.written.reverse.filter (·.1 = t)).map fun w => (t, Utf8.encode (String.ofList w.2)))
  let fault := match r.1 with
    | .error (.fault t _) => [(Stream.complaints, Utf8.encode s!"{c.name}: {t}\n")]
    | _ => []
  let status := match r.1 with
    | .error (.fault _ n) => n
    | .error (.quit n) => if s.missed then 2 else n
    | .ok _ => if s.missed then 2 else e.status
  { e with
    writes := e.writes ++ pick .complaints ++ fault ++ if keepsOutput then pick .output else []
    tree := s.tree
    used := e.used + (c.input.length - e.used - s.input.length)
    status }

/-- Edits files in place, one after the other. -/
def editInPlace (c : Call) (m : Edit.Manner) (program : Array Edit.Step) (suffix : String) :
    Effect → List String → Effect
  | e, [] => e
  | e, name :: names =>
    match contentAt e.tree name with
    | .error .isDirectory =>
      editInPlace c m program suffix (e.complain s!"{c.name}: couldn't edit {name}: not a regular file" 4) names
    | .error errno =>
      editInPlace c m program suffix (e.complain s!"{c.name}: can't read {name}: {errno.text}" 2) names
    | .ok bs =>
      let r := Edit.run m program e.tree (c.input.drop e.used) [name]
      let after := editEffect c e r false
      let kept := if suffix.isEmpty then .ok after.tree else storeAt after.tree (backupName suffix name) bs
      let out := (r.2.written.reverse.filter (·.1 = .output)).flatMap fun w => Utf8.encode (String.ofList w.2)
      match kept >>= fun t => storeAt t name out with
      | .error errno => after.complain s!"{c.name}: couldn't edit {name}: {errno.text}" 4
      | .ok tree =>
        let after := { after with tree }
        match r.1 with
        | .ok _ => editInPlace c m program suffix after names
        | .error _ => after

/-- Creates the files that a program writes, all empty at first. -/
def createWritten (tree : FileTree) (names : List String) : Except String FileTree :=
  names.foldlM (fun t name =>
    (storeAt t name []).mapError fun e => s!"couldn't open file {name}: {e.text}") tree

def sed : Tool := fun c =>
  c.withOptions sedRules 1 fun o =>
    match programPieces c o with
    | .error e => c.fails e 4
    | .ok given =>
      let (pieces, operands) := match given, o.operands with
        | [], w :: ws => ([w], ws)
        | ps, ws => (ps, ws)
      if pieces.isEmpty then
        (Effect.quiet c 1).complain
          ("Usage: " ++ c.name ++ " [OPTION]... \x7bscript-only-if-no-other-script\x7d [input-file]...") 1
      else
        let posix := o.has posixLetter
        match Edit.readPieces (o.has 'E' || o.has 'r') posix (Edit.joinPieces pieces) with
        | .error e => c.fails e.text e.status
        | .ok program =>
          let m : Edit.Manner :=
            { quiet := o.has 'n' || asksForQuiet pieces
              posix
              separate := o.has 's' || o.has 'i'
              ending := if o.has 'z' then '\x00' else '\n'
              width := ((o.value? 'l').map leadingNumber).getD 70
              begun := Edit.startRanges program }
          match createWritten c.tree (Edit.writtenFiles program) with
          | .error e => c.fails e 4
          | .ok tree =>
            let e := { Effect.quiet c 0 with tree }
            if o.has 'i' then
              if operands.isEmpty then c.fails "no input files" 4
              else editInPlace c m program ((o.value? 'i').getD "") e operands
            else
              let files := if operands.isEmpty then ["-"] else operands
              editEffect c e (Edit.run m program tree c.input files) true

end Tools

end Shell

end HyperEvolve
