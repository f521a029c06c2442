import HyperEvolve.Artifact.Wire
import HyperEvolve.Compile.Program
import HyperEvolve.Storage.FileTree

/-!
# Stored artifacts

The artifact of a state is kept in a file named after the state below a build directory.
-/

namespace HyperEvolve

def artifactSuffix : String := ".hg.json"

/-- Where the artifact of a state is kept. -/
def artifactPath (state : String) (buildDir : Path) : Path :=
  buildDir.join (Path.ofString (state ++ artifactSuffix))

/-- Writes an artifact, creating the directories above it. -/
def writeArtifact (a : Artifact) (p : Path) : Disk Unit := do
  Disk.makeDirectories p.parent
  Disk.writeText p a.serialize

inductive ReadFailure where
  | escaped (escape : Escape)
  | wire (error : WireError)

/-- Reads an artifact back. -/
def readArtifact (p : Path) (t : FileTree) : Except ReadFailure Artifact :=
  match ((Disk.readText p).run t).1 with
  | .error e => .error (.escaped e)
  | .ok text =>
    match Artifact.deserialize text with
    | .ok a => .ok a
    | .error e => .error (.wire e)

/-- Writes every artifact of a compilation and lists the paths written. -/
def writeArtifacts (c : Compilation) (buildDir : Path) : Disk (List Path) :=
  c.artifacts.entries.mapM fun e => do
    let p := artifactPath e.1 buildDir
    writeArtifact e.2 p
    return p

end HyperEvolve
