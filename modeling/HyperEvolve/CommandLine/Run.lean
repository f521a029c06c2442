import HyperEvolve.CommandLine.Invocation
import HyperEvolve.Editor
import HyperEvolve.Settings
import HyperEvolve.Storage.Artifacts
import HyperEvolve.Text.Lines

/-!
# Running a command

A command reads the settings and the source, compiles, and only then has an effect: it writes
artifacts, sends one of them, or serves the editor. Files, the service and external programs are
given, so all that happens is a value.
-/

namespace HyperEvolve

namespace CommandLine

/-- The world around a command. -/
structure World where
  tree : FileTree
  service : Service
  /-- Runs an external program, which may change files. -/
  execute : FileTree → List Text → Bytes → Option Float → ProcessOutcome × FileTree

/-- A failure that no command turns into a message of its own. -/
inductive Leak where
  | escape (escape : Escape)
  | settings (failure : Settings.Failure)
  | delivery (failure : DeliveryFailure)
  /-- A state was asked for by a blank, which is no name. -/
  | blankState

def Leak.blankMessage : String := "unhashable type: 'list'"

/-- The editor that was served. -/
structure Serving where
  host : Given String
  port : Given Int
  page : Document

/-- All that a command did. Each line ends with a line feed when it is shown. -/
structure Report where
  ending : Except Leak Nat
  output : List Text
  complaints : List Text
  tree : FileTree
  requests : List Request
  served : Option Serving

def shownLines (lines : List Text) : Text := lines.flatMap fun l => l ++ Text.ofString "\n"

/-- The records that show: all of them with their levels, or the warnings as they are. -/
def shownLog (verbose : Bool) (log : List LogRecord) : List Text :=
  if verbose then log.map fun r => r.line
  else (log.filter fun r => r.level = .warning).map fun r => r.message

/-- Why a command stops before it has an effect: with a message, or with a leak. -/
inductive Refusal where
  | complaint (text : Text)
  | leak (leak : Leak)

def complain (text : String) : Refusal := .complaint (Text.ofString ("Error: " ++ text))

/-! ## Preparation -/

/-- The settings in the file at a path. -/
def settingsAt (t : FileTree) (p : Path) : Except Refusal Settings :=
  match ((Disk.readText p).run t).1 with
  | .error (.system e) =>
    if e.errno = .noEntry then .error (complain s!"Config file not found: {p.toString}")
    else .error (complain s!"Cannot read config file: {e.message}")
  | .error e => .error (.leak (.escape e))
  | .ok text =>
    match Settings.parse text with
    | .ok s => .ok s
    | .error (.problem problem) => .error (complain (problem.message p.toString))
    | .error f => .error (.leak (.settings f))

/-- A name below the working directory. -/
def below (t : FileTree) (name : String) : Path := (Path.ofNames t.cwd).join (Path.ofString name)

/-- The settings that a command line names, those of the working directory, or the defaults. -/
def loadSettings (t : FileTree) (named : Option String) : Except Refusal Settings :=
  if (named.getD "") ≠ "" then settingsAt t (Path.ofString (named.getD ""))
  else
    let p := below t Settings.fileName
    match ((Disk.exists? p).run t).1 with
    | .error e => .error (.leak (.escape e))
    | .ok true => settingsAt t p
    | .ok false => .ok .defaults

/-- The text of a source file. -/
def readSource (t : FileTree) (name : String) : Except Refusal String :=
  let p := Path.ofString name
  match ((Disk.readText p).run t).1 with
  | .ok text => .ok text
  | .error (.system e) => .error (complain s!"cannot read '{p.toString}': {e.message}")
  | .error e => .error (.leak (.escape e))

/-- A session with the given settings. -/
def sessionFor (w : World) (s : Settings) : Session :=
  let execute : Executor := fun command input timeout => (w.execute w.tree command input timeout).1
  .start (parserFor execute s.parserCommand) s.endpoint s.timeout

/-- The files once the parser of the settings has seen a text. -/
def treeAfter (w : World) (s : Settings) (text : Text) : FileTree :=
  if s.parserCommand.isEmpty then w.tree
  else
    let input := (Utf8.encodeText text).toOption.getD []
    (w.execute w.tree s.parserCommand input none).2

/-- A compiled source and the session that holds it. -/
structure Prepared where
  settings : Settings
  session : Session
  compilation : Compilation
  log : List LogRecord

/-- Loads the settings and reads the source. -/
def load (w : World) (named : Option String) (source : String) : Except Refusal (Settings × String) := do
  let settings ← loadSettings w.tree named
  return (settings, ← readSource w.tree source)

/-- Loads the settings, reads the source and compiles it. The parser may have changed files. -/
def prepare (w : World) (named : Option String) (adapt : Settings → Settings) (source : String) :
    Except Refusal Prepared × World :=
  match load w named source with
  | .error e => (.error e, w)
  | .ok (settings, text) =>
    let settings := adapt settings
    let r := (sessionFor w settings).run text
    let outcome := match r.outcome with
      | .ok c => .ok ⟨settings, r.session, c, r.log⟩
      | .error (.error e) => .error (complain e.message)
      | .error (.escaped e) => .error (.leak (.escape e))
      | .error .longCount => .error (.leak (.escape .longInteger))
    (outcome, { w with tree := treeAfter w settings text })

/-! ## Reports -/

/-- Nothing done yet. -/
def Report.start (w : World) : Report := ⟨.ok 0, [], [], w.tree, [], none⟩

def Report.say (r : Report) (line : Text) : Report := { r with output := r.output ++ [line] }

def Report.refuse (r : Report) : Refusal → Report
  | .complaint text => { r with ending := .ok 1, complaints := r.complaints ++ [text] }
  | .leak l => { r with ending := .error l }

/-- What preparation shows. -/
def Prepared.report (p : Prepared) (w : World) (verbose : Bool) : Report :=
  { Report.start w with
    output := p.compilation.warnings.map fun x => Text.ofString ("Warning: " ++ x.message)
    complaints := shownLog verbose p.log }

/-! ## Commands -/

def check (w : World) (inv : Invocation) (source : String) : Report :=
  match prepare w inv.settings id source with
  | (.error e, w) => (Report.start w).refuse e
  | (.ok p, w) =>
    (p.report w inv.verbose).say s!"No issues found in {p.compilation.states.length} state(s)."

/-- A state and its preview, indented. -/
def previewLines (name : String) (preview : Text) : List Text :=
  Text.ofString (name ++ ":") :: (Text.lines preview).map fun l => Text.ofString "  " ++ l

def compile (w : World) (inv : Invocation) (source : String) (out : Option String) : Report :=
  match prepare w inv.settings id source with
  | (.error e, w) => (Report.start w).refuse e
  | (.ok p, w) =>
    let r := p.report w inv.verbose
    let dir := if (out.getD "") ≠ "" then Path.ofString (out.getD "")
      else below w.tree p.settings.buildDirectory.toString
    let (written, tree) := (writeArtifacts p.compilation dir).run w.tree
    let r := { r with tree }
    match written with
    | .error (.system e) => r.refuse (complain s!"cannot write artifacts: {e.message}")
    | .error e => r.refuse (.leak (.escape e))
    | .ok paths =>
      let lines := p.compilation.previews.flatMap fun x => previewLines x.1 x.2
      { r with output := r.output ++ lines ++
          [Text.ofString s!"Wrote {paths.length} artifact(s) to '{dir.toString}'."] }

/-- An endpoint on the command line replaces that of the settings. -/
def withEndpoint (endpoint : Option String) (s : Settings) : Settings :=
  if (endpoint.getD "") ≠ "" then { s with endpoint := Text.ofString (endpoint.getD "") } else s

/-- Sends a state of a compiled source; `r` is what has been shown before. -/
def sendState (w : World) (verbose : Bool) (p : Prepared) (r : Report) (state : String) : Report :=
  match p.session.send w.service state with
  | none => r.refuse (complain s!"no state named '{state}'.")
  | some d =>
    let r := { r with requests := d.requests, complaints := r.complaints ++ shownLog verbose d.log }
    match d.outcome with
    | .ok response =>
      (r.say (Text.ofString s!"State '{state}' sent to " ++ p.settings.endpoint ++ Text.ofString ".")).say
        (Text.ofString "Server response: " ++ response.shown)
    | .error (.transmission status description) =>
      let f := DeliveryFailure.transmission status description
      r.refuse (complain s!"failed to send state '{state}': {f.message}")
    | .error f => r.refuse (.leak (.delivery f))

def send (w : World) (inv : Invocation) (source : String) (state : Given String)
    (endpoint : Option String) : Report :=
  match prepare w inv.settings (withEndpoint endpoint) source with
  | (.error e, w) => (Report.start w).refuse e
  | (.ok p, w) =>
    let r := p.report w inv.verbose
    match state with
    | .blank => r.refuse (.leak .blankState)
    | .value name => sendState w inv.verbose p r name

/-- The text to open in the editor; none is named by an empty word. -/
def editorSource (t : FileTree) (source : Option String) : Except Refusal String :=
  if (source.getD "") ≠ "" then readSource t (source.getD "") else .ok ""

def serve (w : World) (inv : Invocation) (source : Option String) (host : Given String)
    (port : Given Int) : Report :=
  let r := Report.start w
  let prepared := do
    let settings ← loadSettings w.tree inv.settings
    let text ← editorSource w.tree source
    pure (settings, text)
  match prepared with
  | .error e => r.refuse e
  | .ok (settings, text) =>
    let r := r.say s!"Serving editor at http://{host.shown id}:{port.shown toString}/"
    let v := Editor.openWith (sessionFor w settings) text
    let tree := if text.isEmpty then w.tree else treeAfter w settings text
    let r := { r with complaints := r.complaints ++ shownLog inv.verbose v.log, tree }
    match v.shown with
    | .error e => r.refuse (.leak (.escape e))
    | .ok (entries, status) =>
      { r with served := some ⟨host, port, Editor.layout v.session.endpoint text status entries⟩ }

/-- Writes fresh settings into a directory that has none. -/
def init (w : World) (directory : String) : Report :=
  let r := Report.start w
  let given := Path.ofString directory
  let dir := Path.ofNames (w.tree.resolve given)
  let file := dir.join (Path.ofString Settings.fileName)
  let work : Disk (Option String) := do
    Disk.guardNull given
    if !(← Disk.exists? dir) then return some s!"directory '{dir.toString}' does not exist."
    if ← Disk.exists? file then return some s!"configuration already exists at '{file.toString}'."
    Disk.writeText file Settings.defaultText
    return none
  let (done, tree) := work.run w.tree
  let r := { r with tree }
  match done with
  | .error e => r.refuse (.leak (.escape e))
  | .ok (some problem) => r.refuse (complain problem)
  | .ok none => r.say s!"Initialized HyperLIR configuration at '{file.toString}'."

/-- Runs what a command line asks for; without a command there is nothing to do. -/
def run (w : World) (inv : Invocation) : Report :=
  match inv.command with
  | none => Report.start w
  | some (.init directory) => init w directory
  | some (.check source) => check w inv source
  | some (.compile source out) => compile w inv source out
  | some (.send source state endpoint) => send w inv source state endpoint
  | some (.serve source host port) => serve w inv source host port

end CommandLine

end HyperEvolve
