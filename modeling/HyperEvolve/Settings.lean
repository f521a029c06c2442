import HyperEvolve.Document.Writer
import HyperEvolve.Session
import HyperEvolve.ShellWords
import HyperEvolve.Yaml.Build

/-!
# Settings of a project

Four settings, each with a default: the service that receives artifacts, the directory for compiled
artifacts, how long to wait for an answer, and the command of an external parser.
-/

namespace HyperEvolve

structure Settings where
  endpoint : Text
  buildDirectory : Text
  timeout : Option Float
  parserCommand : List Text

namespace Settings

def fileName : String := ".hyperlir.yaml"

def defaultBuildDirectory : String := ".hyperlir-build"

def defaults : Settings := ⟨defaultEndpoint, defaultBuildDirectory, none, []⟩

/-- The text of a fresh settings file. -/
def defaultText : String :=
  "# HyperLIR project configuration\n" ++ s!"endpoint: {defaultEndpoint}\n" ++
    s!"build-directory: {defaultBuildDirectory}\n" ++ "# timeout: 30\n" ++
    "# parser-command: [node, parse.js]\n"

/-- What is wrong with a setting. -/
inductive Problem where
  | malformed
  | noMapping
  | notText (name : String)
  | timeout
  | command
  | words (fault : ShellWords.Fault)
deriving DecidableEq, Repr

/-- The words for a problem in the text that a label names. Those for a malformed text end here; what
follows them is a colon and the account of whoever read it. -/
def Problem.message (label : String) : Problem → String
  | .malformed => s!"Invalid YAML in {label}"
  | .noMapping => s!"{label}: configuration must be a YAML mapping"
  | .notText name => s!"{label}: '{name}' must be a string"
  | .timeout => s!"{label}: 'timeout' must be a positive number"
  | .command => s!"{label}: 'parser-command' must be a string or a list of strings"
  | .words fault => s!"{label}: invalid 'parser-command': {fault.message}"

/-- A setting may be wrong, or a value may have a form and no meaning. -/
inductive Failure where
  | problem (p : Problem)
  | value (fault : Yaml.Fault)
  | timeoutRange
deriving DecidableEq, Repr

/-- The words for a failure in the text that a label names. -/
def Failure.message (label : String) : Failure → Text
  | .problem p => p.message label
  | .value fault => fault.message
  | .timeoutRange => "int too large to convert to float"

open Yaml (Value Loaded)

def readText (name : String) : Value → Except Failure Text
  | .text t => .ok t
  | _ => .error (.problem (.notText name))

/-- A positive number; what is no number at all passes as well. -/
def readTimeout : Value → Except Failure (Option Float)
  | .null => .ok none
  | .int n =>
    if n ≤ 0 then .error (.problem .timeout)
    else match Decimal.ofInt? n with
      | some x => .ok (some x)
      | none => .error .timeoutRange
  | .float x => if x ≤ 0 then .error (.problem .timeout) else .ok (some x)
  | _ => .error (.problem .timeout)

/-- A command is a text to be split, or a list of words. -/
def readCommand (l : Loaded) (v : Value) : Except Failure (List Text) :=
  match v, l.members? v with
  | .text t, _ =>
    match ShellWords.split t with
    | .ok ws => .ok ws
    | .error fault => .error (.problem (.words fault))
  | _, some (.list items) =>
    match items.mapM Value.text? with
    | some ws => .ok ws
    | none => .error (.problem .command)
  | _, _ => .error (.problem .command)

/-- Reads a field if it is there. -/
def readField {α : Type} (entries : List (Value × Value)) (name : String) (otherwise : α)
    (read : Value → Except Failure α) : Except Failure α :=
  match Value.field? entries name with
  | some v => read v
  | none => .ok otherwise

/-- The settings in the entries of a mapping. -/
def ofEntries (l : Loaded) (entries : List (Value × Value)) : Except Failure Settings := do
  let endpoint ← readField entries "endpoint" defaults.endpoint (readText "endpoint")
  let buildDirectory ←
    readField entries "build-directory" defaults.buildDirectory (readText "build-directory")
  let timeout ← readField entries "timeout" defaults.timeout readTimeout
  let parserCommand ← readField entries "parser-command" defaults.parserCommand (readCommand l)
  return ⟨endpoint, buildDirectory, timeout, parserCommand⟩

/-- The settings that a value stands for. -/
def ofLoaded (l : Loaded) : Except Failure Settings :=
  match l.root, l.members? l.root with
  | .null, _ => .ok defaults
  | _, some (.map entries) => ofEntries l entries
  | _, _ => .error (.problem .noMapping)

/-- The settings in a text. -/
def parse (text : Text) : Except Failure Settings :=
  match Yaml.read text with
  | .ok l => ofLoaded l
  | .error .malformed => .error (.problem .malformed)
  | .error fault => .error (.value fault)

end Settings

end HyperEvolve
