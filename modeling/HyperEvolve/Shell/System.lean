import HyperEvolve.Shell.Condition
import HyperEvolve.Shell.Tools.Edit
import HyperEvolve.Shell.Tools.Exchange
import HyperEvolve.Shell.Tools.Expression
import HyperEvolve.Shell.Tools.Files
import HyperEvolve.Shell.Tools.Order
import HyperEvolve.Shell.Tools.Search
import HyperEvolve.Shell.Tools.Sequence
import HyperEvolve.Shell.Tools.Text

/-!
# A system with the standard tools

The files that are there before anything else: directories, a few files, a device that is always
empty, and the tools.
-/

namespace HyperEvolve

namespace Shell

def tools : List (String × Tool) :=
  [("cat", Tools.cat), ("tac", Tools.tac), ("rev", Tools.rev), ("head", Tools.head), ("tail", Tools.tail),
    ("wc", Tools.wc), ("tr", Tools.tr), ("cut", Tools.cut), ("sort", Tools.sort), ("uniq", Tools.uniq),
    ("paste", Tools.paste), ("fold", Tools.fold), ("comm", Tools.comm), ("expr", Tools.expr),
    ("seq", Tools.seq), ("basename", Tools.basename), ("dirname", Tools.dirname), ("echo", Tools.echo),
    ("printf", Tools.printf), ("yes", Tools.yes), ("sleep", Tools.sleep), ("base64", Tools.base64),
    ("grep", Tools.grep), ("egrep", Tools.egrep), ("fgrep", Tools.fgrep), ("sed", Tools.sed),
    ("tee", Tools.tee), ("mkdir", Tools.mkdir), ("rmdir", Tools.rmdir), ("rm", Tools.rm),
    ("touch", Tools.touch), ("cp", Tools.cp), ("mv", Tools.mv), ("ls", Tools.ls), ("pwd", Tools.pwd),
    ("test", Condition.tool), ("[", Condition.tool), ("true", fun c => .quiet c 0), ("false", fun c => .quiet c 1)]

/-- Programs that run others. -/
def runners : List String := ["sh", "dash", "bash", "env", "xargs", "timeout", "nice", "nohup"]

/-- Directories in which programs are looked for. -/
def programDirectories : List String :=
  ["/usr/local/sbin", "/usr/local/bin", "/usr/sbin", "/usr/bin", "/sbin", "/bin"]

def systemDirectories : List Place :=
  [["boot"], ["dev"], ["etc"], ["home"], ["media"], ["mnt"], ["opt"], ["proc"], ["root"], ["run"], ["srv"],
    ["sys"], ["tmp"], ["usr"], ["usr", "bin"], ["usr", "lib"], ["usr", "local"], ["usr", "local", "bin"],
    ["usr", "local", "lib"], ["usr", "local", "sbin"], ["usr", "sbin"], ["usr", "share"], ["var"],
    ["var", "lib"], ["var", "log"], ["var", "tmp"]]

def systemLinks : List (Place × Place) :=
  [(["bin"], ["usr", "bin"]), (["lib"], ["usr", "lib"]), (["sbin"], ["usr", "sbin"])]

def systemFiles : List Place := [["etc", "group"], ["etc", "hostname"], ["etc", "hosts"], ["etc", "passwd"]]

/-- The files of the system, seen from a working directory. -/
def systemTree (cwd : Place) : FileTree :=
  let t : FileTree := ⟨∅, cwd⟩
  let t := systemDirectories.foldl (fun (t : FileTree) p => t.put p .directory) t
  let t := systemLinks.foldl (fun (t : FileTree) l => t.put l.1 (.link l.2)) t
  let t := systemFiles.foldl (fun (t : FileTree) p => t.put p (.file [])) t
  let t := t.put ["dev", "null"] .void
  (tools.map Prod.fst ++ runners).foldl (fun (t : FileTree) n => t.put ["usr", "bin", n] (.program n)) t

/-- What a name of a program leads to. -/
inductive Lookup where
  | found (program : String)
  | missing
  | refused (errno : Errno)
deriving DecidableEq, Repr

/-- The program at a path. -/
def lookupPath (t : FileTree) (path : String) : Lookup :=
  match entryAt t path with
  | .ok (.program p) => .found p
  | .ok _ => .refused .denied
  | .error .noEntry => .missing
  | .error errno => .refused errno

/-- The program of a name in some directories. Of several refusals the last one counts, and a name that
leads through a file is as good as none. -/
def lookupIn (t : FileTree) (directories : List String) (name : String) : Lookup :=
  directories.foldl (fun found d =>
    match found with
    | .found p => .found p
    | _ =>
      match lookupPath t (d ++ "/" ++ name) with
      | .missing | .refused .notDirectory => found
      | l => l) .missing

/-- Finds the program of a name. A name with a separator is a path. -/
def lookup (t : FileTree) (name : String) : Lookup :=
  if name.toList.contains '/' then lookupPath t name else lookupIn t programDirectories name

end Shell

end HyperEvolve
