import HyperEvolve.CommandLine.Interface

/-!
# Commands

What a command line asks for: one of five commands with its arguments, or none.
-/

namespace HyperEvolve

namespace CommandLine

inductive Command where
  | init (directory : String)
  | check (source : String)
  | compile (source : String) (out : Option String)
  | send (source : String) (state : Given String) (endpoint : Option String)
  | serve (source : Option String) (host : Given String) (port : Given Int)
deriving DecidableEq, Repr

structure Invocation where
  settings : Option String
  verbose : Bool
  command : Option Command
deriving DecidableEq, Repr

def programName : String := "hyperlir"

def helpSwitch : Switch := ⟨["-h", "--help"], "help", .help⟩

def commandNames : List String := ["init", "check", "compile", "send", "serve"]

/-- The words in front of the command. -/
def mainInterface : Interface where
  program := programName
  switches := [helpSwitch, ⟨["--config"], "config", .value false⟩, ⟨["-v", "--verbose"], "verbose", .flag⟩]
  operands := [⟨"COMMAND", .command⟩]

def subInterface (name : String) (switches : List Switch) (operands : List Operand) : Interface :=
  ⟨s!"{programName} {name}", helpSwitch :: switches, operands⟩

def initInterface : Interface := subInterface "init" [] [⟨"directory", .optional⟩]

def checkInterface : Interface := subInterface "check" [] [⟨"source", .one⟩]

def compileInterface : Interface :=
  subInterface "compile" [⟨["--out"], "out", .value false⟩] [⟨"source", .one⟩]

def sendInterface : Interface :=
  subInterface "send" [⟨["--endpoint"], "endpoint", .value false⟩] [⟨"source", .one⟩, ⟨"state", .one⟩]

def serveInterface : Interface :=
  subInterface "serve" [⟨["--port"], "port", .value true⟩, ⟨["--host"], "host", .value false⟩]
    [⟨"source", .optional⟩]

def defaultHost : String := "127.0.0.1"

def defaultPort : Int := 8050

/-- The host that a reading names. -/
def hostOf (r : Reading) : Given String := (r.given? "host").getD (.value defaultHost)

/-- The port that a reading names. -/
def portOf (r : Reading) : Given Int :=
  match r.given? "port" with
  | some .blank => .blank
  | some (.value word) => .value ((Decimal.int? word).getD defaultPort)
  | none => .value defaultPort

/-- The interface of a command and how its words become a command. -/
def commandReader? : String → Option (Interface × (Reading → Command))
  | "init" => some (initInterface, fun r => .init ((r.value? "directory").getD "."))
  | "check" => some (checkInterface, fun r => .check ((r.value? "source").getD ""))
  | "compile" =>
    some (compileInterface, fun r => .compile ((r.value? "source").getD "") (r.value? "out"))
  | "send" =>
    some (sendInterface, fun r =>
      .send ((r.value? "source").getD "") ((r.given? "state").getD .blank) (r.value? "endpoint"))
  | "serve" =>
    some (serveInterface, fun r =>
      .serve (r.value? "source") (hostOf r) (portOf r))
  | _ => none

/-- The command in the words from its name on, with the words that nothing takes. -/
def readCommand : List String → Except Stop (Command × List String)
  | [] => .error (.misuse programName (.noCommand "COMMAND" "" commandNames))
  | name :: words =>
    match commandReader? name with
    | none => .error (.misuse programName (.noCommand "COMMAND" name commandNames))
    | some (i, command) => do
      let r ← i.read words
      return (command r, r.extras)

/-- What the words of a command line ask for. Words that nothing takes are reported together, those in
front of the command first. -/
def Invocation.read (words : List String) : Except Stop Invocation := do
  let r ← mainInterface.read words
  let (command, extras) ← match r.command with
    | none => pure (none, [])
    | some ws => do
      let (c, extras) ← readCommand ws
      pure (some c, extras)
  let extras := r.extras ++ extras
  if extras.isEmpty then return ⟨r.value? "config", r.hasFlag "verbose", command⟩
  else .error (.misuse programName (.unrecognized extras))

end CommandLine

end HyperEvolve
