import HyperEvolve.Storage.Path
import HyperEvolve.Storage.SystemError
import HyperEvolve.Table
import HyperEvolve.Text.Lines

/-!
# File trees

Files and directories by their absolute place. The operations are those a program needs to read
its sources and write its results; each names the path it was given when it fails. Every file may be
read and written and there is always room, so no operation fails for lack of a permission or of space.
-/

namespace HyperEvolve

inductive Entry where
  | file (content : Bytes)
  | directory
  /-- Swallows what is written to it and is always empty. -/
  | void
  /-- A tool that can be run. -/
  | program (name : String)
  /-- Another name for a place. -/
  | link (target : List String)
deriving DecidableEq

/-- An absolute place: the names from the root down. -/
abbrev Place := List String

/-- Entries below the root, which is always a directory, seen from a working directory. -/
structure FileTree where
  entries : Table Place Entry
  cwd : Place

namespace FileTree

def entry? (t : FileTree) (place : Place) : Option Entry :=
  if place.isEmpty then some .directory else t.entries.get? place

def put (t : FileTree) (place : Place) (e : Entry) : FileTree :=
  { t with entries := t.entries.insert place e }

/-- Greatest length of a name and of a whole path, in bytes. -/
def maxName : Nat := 255
def maxPath : Nat := 4095

/-- The place that another name stands for; any other place is itself. -/
def follow (t : FileTree) (place : Place) : Place :=
  match t.entry? place with
  | some (.link target) => target
  | _ => place

/-- Follows one name from a place that must be a directory. -/
def enter (t : FileTree) (place : Place) (name : String) : Except Errno Place :=
  match t.entry? place with
  | none => .error .noEntry
  | some .directory =>
    if name = ".." then .ok place.dropLast
    else if maxName < name.utf8ByteSize then .error .nameTooLong
    else .ok (t.follow (place ++ [name]))
  | some _ => .error .notDirectory

/-- The place a path leads to. All but the last name must lead through directories. -/
def locate (t : FileTree) (p : Path) : Except Errno Place :=
  if maxPath < p.toString.utf8ByteSize then .error .nameTooLong
  else p.parts.foldlM t.enter (if p.root = .relative then t.cwd else [])

/-- The place that a path names, whether or not something stands there. -/
def resolve (t : FileTree) (p : Path) : Place :=
  p.parts.foldl (fun place name => if name = ".." then place.dropLast else t.follow (place ++ [name]))
    (if p.root = .relative then t.cwd else [])

/-- The entry at a path. -/
def look (t : FileTree) (p : Path) : Except Errno Entry := do
  match t.entry? (← t.locate p) with
  | some e => .ok e
  | none => .error .noEntry

/-- What a file holds; only a directory has no content. -/
def contentOf : Entry → Except Errno Bytes
  | .file content => .ok content
  | .directory => .error .isDirectory
  | .void | .program _ | .link _ => .ok []

/-- The tree with new content at a place whose directory exists. A link is never written to: the one
that led here has been followed. -/
def store (t : FileTree) (place : Place) (content : Bytes) : Except Errno FileTree :=
  match t.entry? place with
  | some .directory => .error .isDirectory
  | some (.link _) => .error .noEntry
  | some .void => .ok t
  | some _ => .ok (t.put place (.file content))
  | none =>
    match t.entry? place.dropLast with
    | some .directory => .ok (t.put place (.file content))
    | _ => .error .noEntry

/-- The tree with a new directory at a path. -/
def createDirectory (t : FileTree) (p : Path) : Except Errno FileTree := do
  let place ← t.locate p
  match t.entry? place with
  | some _ => .error .exists
  | none =>
    match t.entry? place.dropLast with
    | some .directory => .ok (t.put place .directory)
    | _ => .error .noEntry

/-- The names of what stands directly below a place. -/
def children (t : FileTree) (place : Place) : List String :=
  t.entries.keys.filterMap fun k =>
    if k.length = place.length + 1 && place.isPrefixOf k then k.getLast? else none

/-- The tree without what stands at a place and below it. -/
def erase (t : FileTree) (place : Place) : FileTree :=
  { t with entries := t.entries.filterKeys fun k => !place.isPrefixOf k }

def isDirectory (t : FileTree) (p : Path) : Bool :=
  match t.look p with
  | .ok .directory => true
  | _ => false

end FileTree

def Path.hasNull (p : Path) : Bool := p.parts.any fun s => s.toList.any (· = '\x00')

/-- Work on a file tree; what was done before a failure stays done. -/
abbrev Disk := ExceptT Escape (StateM FileTree)

namespace Disk

def fail {α : Type} (errno : Errno) (p : Path) : Disk α := throw (.system ⟨errno, p.toString⟩)

def guardNull (p : Path) : Disk Unit := if p.hasNull then throw .nullByte else pure ()

/-- The bytes of a file. -/
def readBytes (p : Path) : Disk Bytes := do
  guardNull p
  match (← get).look p >>= FileTree.contentOf with
  | .ok content => return content
  | .error errno => fail errno p

/-- The text of a file: strict UTF-8 with unified line ends. -/
def readText (p : Path) : Disk String := do
  match Utf8.decode (← readBytes p) with
  | .ok cs => return String.ofList (Text.unifyNewlines cs)
  | .error fault => throw (.undecodable fault)

/-- Whether something stands at a path. Only a name that is too long is an error. -/
def exists? (p : Path) : Disk Bool := do
  if p.hasNull then return false
  match (← get).look p with
  | .ok _ => return true
  | .error .nameTooLong => fail .nameTooLong p
  | .error _ => return false

/-- Replaces the content of a file, or creates it in a directory that exists. -/
def writeText (p : Path) (text : String) : Disk Unit := do
  guardNull p
  let t ← get
  match t.locate p >>= fun place => t.store place (Utf8.encode text) with
  | .ok t' => set t'
  | .error errno => fail errno p

/-- Creates a directory and what is missing above it; `fuel` bounds the number of names. A directory
that exists already is no failure. -/
def makeDirectoriesWithin : Nat → Path → Disk Unit
  | fuel, p => do
    let t ← get
    match t.createDirectory p with
    | .ok t' => set t'
    | .error .noEntry =>
      match fuel with
      | 0 => fail .noEntry p
      | fuel + 1 =>
        makeDirectoriesWithin fuel p.parent
        let t ← get
        match t.createDirectory p with
        | .ok t' => set t'
        | .error errno => if t.isDirectory p then pure () else fail errno p
    | .error errno => if t.isDirectory p then pure () else fail errno p

def makeDirectories (p : Path) : Disk Unit := do
  guardNull p
  makeDirectoriesWithin p.parts.length p

/-- Runs work on a tree. -/
def run {α : Type} (d : Disk α) (t : FileTree) : Except Escape α × FileTree := StateT.run (ExceptT.run d) t

end Disk

end HyperEvolve
