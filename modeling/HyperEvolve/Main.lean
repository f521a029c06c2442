import HyperEvolve.CommandLine.Run
import HyperEvolve.Shell.Execute

/-!
# The program

Loads the files that a command line names, runs the command on them, shows its lines and writes the
files that it changed. No service can be reached from here, and no editor is kept open.
-/

namespace HyperEvolve

namespace Program

/-- The files that a command reads. -/
def namedFiles (inv : CommandLine.Invocation) : List String :=
  let source := match inv.command with
    | some (.check source) | some (.compile source _) | some (.send source _ _) => [source]
    | some (.serve (some source) _ _) => [source]
    | some (.init directory) => [directory ++ "/" ++ Settings.fileName]
    | _ => []
  Settings.fileName :: inv.settings.toList ++ source

/-- A file tree with a directory and all above it. -/
def withDirectory (t : FileTree) (place : Place) : FileTree :=
  (List.range (place.length + 1)).foldl (fun t n =>
    match t.entry? (place.take n) with
    | some _ => t
    | none => t.put (place.take n) .directory) t

/-- Loads a file if it is there. -/
def load (t : FileTree) (name : String) : IO FileTree := do
  let place := (Path.ofString name).resolve t.cwd
  let t ← try
      let content ← IO.FS.readBinFile (Path.ofNames place).toString
      pure ((withDirectory t place.dropLast).put place (.file content.toList))
    catch _ => pure t
  return t

/-- The file tree that a command sees: the system with its tools, and the files that are named. -/
def loadTree (inv : CommandLine.Invocation) : IO FileTree := do
  let cwd := (Path.ofString (← IO.currentDir).toString).parts
  let mut t := withDirectory (Shell.systemTree cwd) cwd
  for name in namedFiles inv do
    t ← load t name
  return t

/-- Writes what has changed. -/
def save (before after : FileTree) : IO Unit := do
  for (place, entry) in after.entries.entries do
    let path := (Path.ofNames place).toString
    if before.entries.get? place ≠ some entry then
      match entry with
      | .directory => IO.FS.createDirAll path
      | .file content => IO.FS.writeBinFile path ⟨content.toArray⟩
      | _ => pure ()

def unreachable : Service := fun _ => .failure "ConnectError" "Connection refused"

def shown (lines : List Text) : String := (CommandLine.shownLines lines).toString

end Program

end HyperEvolve

open HyperEvolve in
def main (args : List String) : IO UInt32 := do
  match CommandLine.Invocation.read args with
  | .error .help => return 0
  | .error stop =>
    (← IO.getStderr).putStrLn stop.message
    return 2
  | .ok inv =>
    let tree ← Program.loadTree inv
    let r := CommandLine.run ⟨tree, Program.unreachable, Shell.execute⟩ inv
    (← IO.getStdout).putStr (Program.shown r.output)
    (← IO.getStderr).putStr (Program.shown r.complaints)
    Program.save tree r.tree
    match r.ending with
    | .ok code => return UInt32.ofNat code
    | .error _ => return 1
