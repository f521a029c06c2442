import HyperEvolve.Compile.Source
import HyperEvolve.Service.Delivery

/-!
# Sessions

A session holds the latest successful compilation. Every run starts from nothing, so a failed one
leaves no compilation behind; looking up and sending leave it as it is.
-/

namespace HyperEvolve

structure Session (ε : Type := Escape) where
  parser : Parser ε
  endpoint : Text
  timeout : Option Float
  result : Option Compilation

/-- The address of a service on the same machine. -/
def defaultEndpoint : String := "http://127.0.0.1:8001/evolve"

namespace Session

variable {ε : Type}

def start (parser : Parser ε) (endpoint : Text) (timeout : Option Float) : Session ε :=
  ⟨parser, endpoint, timeout, none⟩

/-- The record of a successful run. -/
def runRecord (r : CompileReport) : LogRecord :=
  ⟨.debug, compilerLogger, s!"Compiled {r.compilation.states.length} state(s) from " ++
    s!"{r.declared} declaration(s) with {r.compilation.warnings.length} warning(s)"⟩

structure RunOutcome (ε : Type) where
  session : Session ε
  outcome : Except (CompileFailure ε) Compilation
  log : List LogRecord

/-- Compiles a program text and holds the result. -/
def run (s : Session ε) (text : Text) : RunOutcome ε :=
  match compileText s.parser text with
  | .ok r => ⟨{ s with result := some r.compilation }, .ok r.compilation, [runRecord r]⟩
  | .error e => ⟨{ s with result := none }, .error e, []⟩

/-- The artifact of a state of the compilation held. -/
def artifact? (s : Session ε) (name : String) : Option Artifact := s.result.bind (·.artifact? name)

/-- How long to wait for an answer: what the call says, else what the session says. -/
def effectiveTimeout (s : Session ε) (given : Option (Option Float)) (client : Option Float) :
    Option Float :=
  (given.getD s.timeout).or client

/-- Sends the artifact of a state, `none` when there is no such state. The call may set its own
timeout, and a client in use may bring one for calls without. -/
def sendWith (s : Session ε) (service : Service) (name : String) (given : Option (Option Float))
    (client : Option Float) : Option Delivery :=
  (s.artifact? name).map (deliver service s.endpoint (s.effectiveTimeout given client))

def send (s : Session ε) (service : Service) (name : String) : Option Delivery :=
  s.sendWith service name none none

end Session

end HyperEvolve
