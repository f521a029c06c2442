import HyperEvolve.Declaration.Tree
import HyperEvolve.Session

/-!
# The editor

A page with a program text, the list of its compiled states and a button for each of them. The page
is a tree of components; pressing a button runs or sends through the session behind it.
-/

namespace HyperEvolve

open Document

/-- An entry of the state list: the name and the preview it shows. Its button carries the name. -/
structure StateEntry where
  name : String
  preview : Text
deriving DecidableEq

/-- The entries for a compilation, one for each compiled state. -/
def Compilation.entries (c : Compilation) : List StateEntry :=
  c.previews.map fun p => ⟨p.1, p.2⟩

namespace Editor

def title : String := "HyperLIR Editor"

/-! ## Components -/

/-- A component of the page with the properties that are set. -/
def component (type : String) (props : List (String × Document)) : Document :=
  record [("type", ofString type), ("props", record props)]

/-- The identity of the button that sends a state. -/
def sendButtonId (state : Document) : Document :=
  record [("type", ofString "send-state"), ("index", state)]

def entryComponent (e : StateEntry) : Document :=
  component "Li" [("children", .array [
    component "Pre" [("children", ofString e.name), ("className", ofString "state-name")],
    component "Pre" [("children", .text e.preview), ("className", ofString "state-preview")],
    component "Button" [("children", ofString "\u25b6\ufe0e"),
      ("id", sendButtonId (ofString e.name)), ("n_clicks", .int 0)]])]

def entryComponents (es : List StateEntry) : Document := .array (es.map entryComponent)

def style (entries : List (String × String)) : Document :=
  record (entries.map fun e => (e.1, ofString e.2))

/-- The whole page. -/
def layout (endpoint source : Text) (status : String) (entries : List StateEntry) : Document :=
  component "Div" [
    ("children", .array [
      component "H1" [("children", ofString title)],
      component "P" [("children", Document.text ("Execution service: " ++ endpoint))],
      component "Textarea" [("id", ofString "editor"), ("value", .text source),
        ("style", style [("width", "100%"), ("height", "40vh"), ("fontFamily", "monospace")])],
      component "Button" [("children", ofString "Run"), ("id", ofString "run-button"),
        ("n_clicks", .int 0)],
      component "Div" [("children", ofString status), ("id", ofString "compile-status")],
      component "Hr" [],
      component "Ul" [("children", entryComponents entries), ("id", ofString "states-panel")],
      component "Div" [("id", ofString "send-status"), ("style", style [("color", "#666")])]]),
    ("style", style [("fontFamily", "sans-serif"), ("padding", "2rem")])]

/-! ## Running -/

/-- What the page shows after a run, with the session that ran. -/
structure RunView where
  session : Session
  shown : Except Escape (List StateEntry × String)
  log : List LogRecord

/-- The line under the editor after a successful run. -/
def successStatus (c : Compilation) : String :=
  let compiled := s!"Compiled {c.states.length} state(s)."
  if c.warnings.isEmpty then compiled
  else compiled ++ " " ++ " ".intercalate (c.warnings.map fun w => "Warning: " ++ w.message)

def run (s : Session) (text : Text) : RunView :=
  let r := s.run text
  ⟨r.session, match r.outcome with
    | .ok c => .ok (c.entries, successStatus c)
    | .error (.error e) => .ok ([], "Error: " ++ e.message)
    | .error (.escaped e) => .error e
    | .error .longCount => .error .longInteger, r.log⟩

/-- What the page shows at first: a text that is not empty is run once. -/
def openWith (s : Session) (source : Text) : RunView :=
  if source.isEmpty then ⟨s, .ok ([], ""), []⟩ else run s source

/-! ## Sending -/

inductive Failure where
  | missingIndex
  | unhashable (kind : String)
  | delivery (failure : DeliveryFailure)
  /-- What the page asked for failed, so that there is no answer to take a message from. -/
  | noAnswer

def Failure.message : Failure → String
  | .missingIndex => "index"
  | .unhashable kind => s!"unhashable type: '{kind}'"
  | .delivery f => f.message
  | .noAnswer => "'NoneType' object is not subscriptable"

/-- The message to show, none for no change, with the requests made. -/
structure SendView where
  message : Except Failure (Option Text)
  requests : List Request

def unknownState (name : Text) : Text := "No compiled state '" ++ name ++ "'."

/-- Shows how a delivery went. Only a failed transmission is shown as such. -/
def showDelivery (name : Text) (d : Delivery) : SendView :=
  ⟨match d.outcome with
    | .ok response =>
      .ok (some ("State '" ++ name ++ "' sent. Server response: " ++ response.shown))
    | .error (.transmission status description) =>
      let failure := DeliveryFailure.transmission status description
      .ok (some ("Failed to send state '" ++ name ++ "': " ++ failure.message))
    | .error failure => .error (.delivery failure),
   d.requests⟩

/-- The name that a value stands for; a value that is no text names no state. -/
def stateName? : Document → Option String
  | .text t => if t.isScalar then some t.toString else none
  | _ => none

/-- Values that no table can be asked for, once there is a table. -/
def unhashableKind? (s : Session) (d : Document) : Option String :=
  match s.result, d with
  | some _, .array _ => some "list"
  | some _, .object _ => some "dict"
  | _, _ => none

/-- Sends the state that a value names. -/
def send (s : Session) (service : Service) (state : Document) : SendView :=
  match unhashableKind? s state with
  | some kind => ⟨.error (.unhashable kind), []⟩
  | none =>
    match (stateName? state).bind (s.send service) with
    | some d => showDelivery state.shown d
    | none => ⟨.ok (some (unknownState state.shown)), []⟩

/-- Reacts to the button with the given identity. The list also reports buttons that were only drawn,
without a click. -/
def click (s : Session) (service : Service) (id : Document) (clicks : Option Int) : SendView :=
  match id, clicks with
  | .object fields, some n =>
    if n = 0 then ⟨.ok none, []⟩
    else match field? fields "index" with
      | some state => send s service state
      | none => ⟨.error .missingIndex, []⟩
  | _, _ => ⟨.ok none, []⟩

/-- What the page sees of a button press: a failure behind it only shows as a missing answer. -/
def press (s : Session) (service : Service) (id : Document) (clicks : Option Int) : SendView :=
  let v := click s service id clicks
  match v.message with
  | .ok _ => v
  | .error _ => { v with message := .error .noAnswer }

end Editor

end HyperEvolve
