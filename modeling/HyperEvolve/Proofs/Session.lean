import HyperEvolve.Proofs.Table
import HyperEvolve.Session

/-!
# What a session holds and sends

Between any two calls a session holds what its latest run compiled, and nothing when that run failed. What
it looks up and what it sends is of this compilation only: one request for a name that it has, none for any
other. One call does this (`result_call`, `send_held`), a sequence of calls by induction.
-/

namespace HyperEvolve

theorem Compilation.isSome_artifact?_iff {c : Compilation} {n : String} :
    (c.artifact? n).isSome ↔ n ∈ c.stateNames := by
  rw [artifact?, Table.isSome_get?_iff, artifacts, Table.mem_keys_ofList, List.map_map]
  rfl

theorem Delivery.requests_ofReply (endpoint : String) (request : Request) (reply : Reply) :
    (ofReply endpoint request reply).requests = [request] := by
  cases reply with
  | failure kind message => rfl
  | response status body =>
      simp only [ofReply]
      split
      · rfl
      · split <;> rfl

theorem requests_deliver {endpoint url : Text} (h : Endpoint.normalize endpoint = .ok url) (service : Service)
    (timeout : Option Float) (a : Artifact) :
    (deliver service endpoint timeout a).requests = [⟨url.toString, a.serialize, timeout⟩] := by
  simp only [deliver, h]
  exact Delivery.requests_ofReply _ _ _

/-- The requests that deliver an artifact: one to the address, none to an endpoint that is no address. -/
def Artifact.posts (a : Artifact) (endpoint : Text) (timeout : Option Float) : List Request :=
  match Endpoint.normalize endpoint with
  | .ok url => [⟨url.toString, a.serialize, timeout⟩]
  | .error _ => []

theorem requests_deliver_eq_posts (service : Service) (endpoint : Text) (timeout : Option Float) (a : Artifact) :
    (deliver service endpoint timeout a).requests = a.posts endpoint timeout := by
  rw [Artifact.posts]
  split
  · rename_i url hurl
    exact requests_deliver hurl service timeout a
  · rename_i fault hfault
    simp only [deliver, hfault]

namespace Session

variable {ε : Type}

/-! ## Calls -/

/-- What is asked of a session. Parser and service come with the call, since neither need answer alike
twice. -/
inductive Call (ε : Type) where
  | run (parser : Parser ε) (text : Text)
  | artifact (name : String)
  | send (service : Service) (name : String) (given : Option (Option Float)) (client : Option Float)

inductive Answer (ε : Type) where
  | ran (outcome : Except (CompileFailure ε) Compilation)
  | looked (artifact : Option Artifact)
  | sent (outcome : Option (Except DeliveryFailure Document))

/-- What a call leaves behind, gives back and does outside. -/
structure Step (ε : Type) where
  session : Session ε
  answer : Answer ε
  requests : List Request

def call (s : Session ε) : Call ε → Step ε
  | .run parser text =>
    let r := { s with parser }.run text
    ⟨r.session, .ran r.outcome, []⟩
  | .artifact name => ⟨s, .looked (s.artifact? name), []⟩
  | .send service name given client =>
    let d := s.sendWith service name given client
    ⟨s, .sent (d.map Delivery.outcome), (d.map Delivery.requests).getD []⟩

def after (s : Session ε) (calls : List (Call ε)) : Session ε :=
  calls.foldl (fun s c => (s.call c).session) s

/-! ## The latest run -/

/-- What the call compiles, if it is a run: the text alone decides, whatever was held before. -/
def Call.outcome? : Call ε → Option (Except (CompileFailure ε) Compilation)
  | .run parser text => some ((compileText parser text).map CompileReport.compilation)
  | _ => none

def latestRun? (calls : List (Call ε)) : Option (Except (CompileFailure ε) Compilation) :=
  calls.reverse.findSome? Call.outcome?

/-- The compilation of the latest run, none when it failed or there was none. -/
def latest? (calls : List (Call ε)) : Option Compilation := (latestRun? calls).bind Except.toOption

theorem call_run (s : Session ε) (parser : Parser ε) (text : Text) :
    s.call (.run parser text) =
      ⟨{ s with parser, result := ((compileText parser text).map CompileReport.compilation).toOption },
        .ran ((compileText parser text).map CompileReport.compilation), []⟩ := by
  simp only [call, run]
  cases compileText parser text <;> rfl

/-- A run replaces what is held, any other call keeps it. -/
theorem result_call (s : Session ε) (c : Call ε) :
    (s.call c).session.result = (c.outcome?.map Except.toOption).getD s.result := by
  cases c with
  | run parser text => rw [call_run]; rfl
  | artifact name => rfl
  | send service name given client => rfl

theorem result_after (s : Session ε) (calls : List (Call ε)) :
    (s.after calls).result = ((latestRun? calls).map Except.toOption).getD s.result := by
  induction calls generalizing s with
  | nil => rfl
  | cons c calls ih =>
      have hafter : s.after (c :: calls) = (s.call c).session.after calls := rfl
      have hlatest : latestRun? (c :: calls) = (latestRun? calls).or c.outcome? := by
        simp [latestRun?, List.findSome?_append]
      rw [hafter, ih, result_call, hlatest]
      cases latestRun? calls <;> rfl

theorem endpoint_after (s : Session ε) (calls : List (Call ε)) : (s.after calls).endpoint = s.endpoint := by
  induction calls generalizing s with
  | nil => rfl
  | cons c calls ih =>
      have hcall : (s.call c).session.endpoint = s.endpoint := by
        cases c with
        | run parser text => rw [call_run]
        | artifact name => rfl
        | send service name given client => rfl
      exact (ih _).trans hcall

/-! ## Sending -/

/-- What sending a name does: the session stays as it is, and the service sees one request with the
artifact held under the name, or none when no artifact is. -/
structure SendsHeld (s : Session ε) (url : Text) (name : String) (timeout : Option Float) (step : Step ε) :
    Prop where
  session : step.session = s
  unknown : (∀ c, s.result = some c → name ∉ c.stateNames) → step.answer = .sent none ∧ step.requests = []
  known : ∀ c, s.result = some c → name ∈ c.stateNames →
    ∃ a, c.artifact? name = some a ∧ step.requests = [⟨url.toString, a.serialize, timeout⟩]

theorem artifact?_of_unknown {s : Session ε} {name : String}
    (h : ∀ c, s.result = some c → name ∉ c.stateNames) : s.artifact? name = none := by
  cases hr : s.result with
  | none => rw [artifact?, hr]; rfl
  | some c =>
      rw [artifact?, hr, Option.bind_some, ← Option.not_isSome_iff_eq_none, Compilation.isSome_artifact?_iff]
      exact h c hr

theorem artifact?_of_known {s : Session ε} {c : Compilation} (hr : s.result = some c) {name : String}
    (hname : name ∈ c.stateNames) : ∃ a, c.artifact? name = some a ∧ s.artifact? name = some a := by
  obtain ⟨a, ha⟩ := Option.isSome_iff_exists.mp (Compilation.isSome_artifact?_iff.mpr hname)
  exact ⟨a, ha, by rw [artifact?, hr, Option.bind_some, ha]⟩

/-- A call that sets no timeout waits as long as the session says. -/
theorem effectiveTimeout_none (s : Session ε) : s.effectiveTimeout none none = s.timeout := by
  rw [effectiveTimeout, Option.or_none]
  rfl

theorem send_of_held {s : Session ε} {name : String} {a : Artifact} (h : s.artifact? name = some a)
    (service : Service) : s.send service name = some (deliver service s.endpoint s.timeout a) := by
  rw [send, sendWith, h, Option.map_some, effectiveTimeout_none]

theorem send_held (s : Session ε) {url : Text} (hurl : Endpoint.normalize s.endpoint = .ok url)
    (service : Service) (name : String) (given : Option (Option Float)) (client : Option Float) :
    SendsHeld s url name (s.effectiveTimeout given client) (s.call (.send service name given client)) := by
  constructor
  case session => rfl
  case unknown =>
    intro h
    simp only [call, sendWith, artifact?_of_unknown h]
    exact ⟨rfl, rfl⟩
  case known =>
    intro c hr hname
    obtain ⟨a, ha, hsome⟩ := artifact?_of_known hr hname
    refine ⟨a, ha, ?_⟩
    simp only [call, sendWith, hsome, Option.map_some, Option.getD_some]
    exact requests_deliver hurl service _ a

/-- After any calls a session holds what the latest run compiled, nothing when it failed or there was
none. A run answers with what it compiled and makes no request; a look-up answers from what is held; and
sending makes its one request, or none, from what is held, whatever the service answers. -/
theorem holds_latest_run (parser : Parser ε) {endpoint url : Text} (timeout : Option Float)
    (hurl : Endpoint.normalize endpoint = .ok url) (calls : List (Call ε)) :
    let s := (start parser endpoint timeout).after calls
    s.result = latest? calls ∧
    (∀ parser text, (s.call (.run parser text)).requests = [] ∧
      (s.call (.run parser text)).answer =
        .ran ((compileText parser text).map CompileReport.compilation)) ∧
    (∀ name, s.call (.artifact name) = ⟨s, .looked ((latest? calls).bind (·.artifact? name)), []⟩) ∧
    ∀ service name given client, SendsHeld s url name (s.effectiveTimeout given client)
      (s.call (.send service name given client)) := by
  intro s
  have hresult : s.result = latest? calls := by
    rw [result_after, latest?]
    cases latestRun? calls <;> rfl
  have hendpoint : s.endpoint = endpoint := endpoint_after _ calls
  refine ⟨hresult, ?_, ?_, ?_⟩
  · intro parser text
    rw [call_run]
    exact ⟨rfl, rfl⟩
  · intro name
    rw [← hresult]
    rfl
  · intro service name given client
    exact send_held s (by rw [hendpoint, hurl]) service name given client

/-- A run of a program with one state. -/
def shortRun : Call String :=
  .run (fun _ => .ok [.state ⟨"s", .groups [["a", "b"]], .item (.inline ["a"]), some 1⟩]) []

/-- A run whose parser fails in a way of its own. -/
def brokenRun : Call String := .run (fun _ => .error (.escaped "lost")) []

def plainEndpoint : Text := "http://a/evolve"

def idle : Session String := start (fun _ => .ok []) plainEndpoint none

theorem holds_latest_run_brokenRun :
    Endpoint.normalize plainEndpoint = .ok plainEndpoint ∧
    (idle.after [shortRun, brokenRun]).result = none ∧
    ∃ c, (idle.after [brokenRun, shortRun]).result = some c ∧ "s" ∈ c.stateNames ∧
      SendsHeld (idle.after [brokenRun, shortRun]) plainEndpoint "s" none
        ((idle.after [brokenRun, shortRun]).call (.send (fun _ => .failure "ConnectError" "") "s" none none)) := by
  have hurl : Endpoint.normalize plainEndpoint = .ok plainEndpoint := rfl
  obtain ⟨hbroken, -⟩ := holds_latest_run (fun _ => .ok []) none hurl [shortRun, brokenRun]
  obtain ⟨hshort, -, -, hsend⟩ := holds_latest_run (fun _ => .ok []) none hurl [brokenRun, shortRun]
  refine ⟨hurl, hbroken, _, hshort, by decide, ?_⟩
  exact hsend (fun _ => .failure "ConnectError" "") "s" none none

end Session

end HyperEvolve
