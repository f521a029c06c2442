import HyperEvolve.Proofs.Editor
import HyperEvolve.Proofs.Failures
import HyperEvolve.Proofs.Outcomes

/-!
# The page and the session behind it

A page shows the entries of the compilation that its session holds, and none when it holds none. A run brings both
in step whatever was there before, since a failed one clears them together; any other event leaves them alone. So
every button on the page carries a name that is held, and a click on it sends exactly one request. Only a page that
is opened without a text shows nothing until it runs one, even if its session holds a compilation already.
-/

namespace HyperEvolve

open Document

namespace Editor

/-- The session behind a page, and the entries that are drawn. -/
structure Page where
  session : Session
  shown : List StateEntry

inductive Event where
  /-- The program text may be missing. -/
  | run (t : Option Text)
  | click (service : Service) (entry : StateEntry) (clicks : Int)
  /-- What is reported when buttons are drawn. -/
  | update (service : Service) (id : Document) (clicks : Option Int)

def Event.IsClick : Event → Prop
  | .click _ _ _ => True
  | _ => False

/-- What an event leaves behind, shows and does outside. -/
structure Reaction where
  page : Page
  message : Except Failure (Option Text)
  requests : List Request

namespace Page

/-- The page after a run; a run that shows nothing leaves the entries that are there. -/
def ofRun (drawn : List StateEntry) (v : RunView) : Page :=
  ⟨v.session, (v.shown.toOption.map Prod.fst).getD drawn⟩

def opened (s : Session) (source : Text) : Page := .ofRun [] (openWith s source)

def react (p : Page) : Event → Reaction
  | .run t => ⟨.ofRun p.shown (run p.session (t.getD [])), .ok none, []⟩
  | .click service e clicks =>
    let v := press p.session service (sendButtonId (ofString e.name)) (some clicks)
    ⟨p, v.message, v.requests⟩
  | .update service id clicks =>
    let v := press p.session service id clicks
    ⟨p, v.message, v.requests⟩

/-- Only a button that is drawn can be clicked; what is reported without a click counts none, or is no button. -/
def Offers (p : Page) : Event → Prop
  | .run _ => True
  | .click _ e clicks => e ∈ p.shown ∧ 0 < clicks
  | .update _ id clicks => (∀ fields, id ≠ .object fields) ∨ clicks = none ∨ clicks = some 0

def after (p : Page) (events : List Event) : Page := events.foldl (fun p e => (p.react e).page) p

/-- The entries are those of the compilation that is held. -/
def InStep (p : Page) : Prop := p.shown = (p.session.result.map Compilation.entries).getD []

/-! ## One event -/

/-- The parser fails with errors of its own only, and what it returns can be shown. -/
structure Foreseeable (parser : Parser) : Prop where
  rejects : ∀ t e, parser t ≠ .error (.escaped e)
  shortCounts : ∀ t ds, parser t = .ok ds → ShortCounts ds

theorem foreseeable_treeParser : Foreseeable treeParser where
  rejects := treeParser_ne_escaped
  shortCounts _ _ h := shortCounts_of_parseDeclarations (treeParser_eq_ok_iff.mp h)

theorem inStep_ofRun {s : Session} (h : Foreseeable s.parser) (drawn : List StateEntry) (t : Text) :
    (ofRun drawn (Editor.run s t)).InStep := by
  rw [InStep, ofRun, Editor.run, Session.run]
  rcases (compileText_foreseen_iff (h.shortCounts t)).mpr (h.rejects t) with ⟨r, hr⟩ | ⟨e, hr⟩ <;> rw [hr] <;> rfl

/-- The parser, the endpoint and the timeout of a session, which nothing changes. -/
structure SameSetup (s s' : Session) : Prop where
  parser : s'.parser = s.parser
  endpoint : s'.endpoint = s.endpoint
  timeout : s'.timeout = s.timeout

theorem SameSetup.refl (s : Session) : SameSetup s s := ⟨rfl, rfl, rfl⟩

theorem SameSetup.trans {s s₁ s' : Session} (h : SameSetup s s₁) (h' : SameSetup s₁ s') : SameSetup s s' :=
  ⟨h'.parser.trans h.parser, h'.endpoint.trans h.endpoint, h'.timeout.trans h.timeout⟩

theorem sameSetup_ofRun (s : Session) (drawn : List StateEntry) (t : Text) :
    SameSetup s (ofRun drawn (Editor.run s t)).session := by
  rw [ofRun, Editor.run, Session.run]
  cases compileText s.parser t <;> exact ⟨rfl, rfl, rfl⟩

theorem sameSetup_react (p : Page) (e : Event) : SameSetup p.session (p.react e).page.session := by
  cases e with
  | run t => exact sameSetup_ofRun p.session p.shown _
  | click service e clicks => exact .refl _
  | update service id clicks => exact .refl _

theorem inStep_react {p : Page} (h : Foreseeable p.session.parser) (hp : p.InStep) (e : Event) :
    (p.react e).page.InStep := by
  cases e with
  | run t => exact inStep_ofRun h _ _
  | click service e clicks => exact hp
  | update service id clicks => exact hp

/-! ## Every event -/

/-- What a page shows is held by the session behind it, which is set up as the given one. -/
structure Backed (s : Session) (p : Page) : Prop where
  setup : SameSetup s p.session
  shown : p.InStep ∨ p.shown = []

theorem backed_opened {s : Session} (h : Foreseeable s.parser) (source : Text) : Backed s (opened s source) := by
  rw [opened, openWith]
  split
  · exact ⟨.refl s, .inr rfl⟩
  · exact ⟨sameSetup_ofRun s [] source, .inl (inStep_ofRun h [] source)⟩

theorem backed_react {s : Session} {p : Page} (h : Foreseeable s.parser) (hp : Backed s p) (e : Event) :
    Backed s (p.react e).page := by
  have hparser : Foreseeable p.session.parser := hp.setup.parser ▸ h
  refine ⟨hp.setup.trans (sameSetup_react p e), ?_⟩
  cases e with
  | run t => exact .inl (inStep_ofRun hparser _ _)
  | click service e clicks => exact hp.shown
  | update service id clicks => exact hp.shown

theorem backed_after {s : Session} {p : Page} (h : Foreseeable s.parser) (hp : Backed s p) (events : List Event) :
    Backed s (p.after events) :=
  List.foldlRecOn events _ hp fun _ hq e _ => backed_react h hq e

/-- Until the first run a page stays as it was opened. -/
theorem after_of_no_run {p : Page} {events : List Event} (h : ∀ t, .run t ∉ events) : p.after events = p := by
  induction events with
  | nil => rfl
  | cons e events ih =>
      have hrest := ih fun t ht => h t (List.mem_cons_of_mem e ht)
      cases e with
      | run t => exact absurd List.mem_cons_self (h t)
      | click service e clicks => exact hrest
      | update service id clicks => exact hrest

theorem inStep_after {p : Page} (h : Foreseeable p.session.parser) (hp : p.InStep) (events : List Event) :
    (p.after events).InStep := by
  induction events generalizing p with
  | nil => exact hp
  | cons e events ih =>
      have hparser : Foreseeable (p.react e).page.session.parser := (sameSetup_react p e).parser ▸ h
      exact ih hparser (inStep_react h hp e)

/-- One run brings a page in step, whatever was there before and whatever comes after it. -/
theorem inStep_after_of_run {s : Session} {p : Page} (h : Foreseeable s.parser) (hp : Backed s p) {events : List Event}
    {t : Option Text} (ht : .run t ∈ events) : (p.after events).InStep := by
  obtain ⟨before, later, rfl⟩ := List.append_of_mem ht
  have hbefore : Foreseeable (p.after before).session.parser := (backed_after h hp before).setup.parser ▸ h
  have hrun : Foreseeable ((p.after before).react (.run t)).page.session.parser :=
    (sameSetup_react (p.after before) (.run t)).parser ▸ hbefore
  have hsplit : p.after (before ++ .run t :: later) = ((p.after before).react (.run t)).page.after later := by
    rw [after, List.foldl_append, List.foldl_cons]
    rfl
  rw [hsplit]
  exact inStep_after hrun (inStep_ofRun hbefore _ _) later

/-! ## Requests -/

theorem requests_press (s : Session) (service : Service) (id : Document) (clicks : Option Int) :
    (press s service id clicks).requests = (click s service id clicks).requests := by
  rw [press]
  split <;> rfl

theorem message_press_ok {s : Session} {service : Service} {id : Document} {clicks : Option Int} {m : Option Text}
    (h : (press s service id clicks).message = .ok m) : (click s service id clicks).message = .ok m := by
  rw [press] at h
  split at h
  · exact h
  · cases h

theorem append_ne_unknownState {front : Text} {p : CodePoint} (hfront : front.head? = some p)
    (hp : p ≠ .ofChar 'N') (rest n : Text) : front ++ rest ≠ unknownState n := by
  have hunknown : (Text.ofString "No compiled state '").head? = some (.ofChar 'N') := by rfl
  intro h
  have hhead := congrArg List.head? h
  rw [unknownState, List.append_assoc, List.head?_append, List.head?_append, hfront, hunknown] at hhead
  exact hp (Option.some.inj hhead)

/-- No way to show a delivery begins as the lack of a state does. -/
theorem showDelivery_ne_unknownState (name : Text) (d : Delivery) (n : Text) :
    (showDelivery name d).message ≠ .ok (some (unknownState n)) := by
  have hsent : (Text.ofString "State '").head? = some (.ofChar 'S') := by rfl
  have hfailed : (Text.ofString "Failed to send state '").head? = some (.ofChar 'F') := by rfl
  intro h
  rw [showDelivery] at h
  split at h
  · have hmessage := Option.some.inj (Except.ok.inj h)
    rw [List.append_assoc, List.append_assoc] at hmessage
    exact append_ne_unknownState hsent (by decide) _ n hmessage
  · have hmessage := Option.some.inj (Except.ok.inj h)
    rw [List.append_assoc, List.append_assoc] at hmessage
    exact append_ne_unknownState hfailed (by decide) _ n hmessage
  · cases h

/-- A click on an entry that is held delivers its artifact: one request, and a message that never speaks of a
state that is lacking. -/
structure SendsShown (p : Page) (url : Text) (name : String) (r : Reaction) : Prop where
  page : r.page = p
  request : ∃ c a, p.session.result = some c ∧ c.artifact? name = some a ∧
    r.requests = [⟨url.toString, a.serialize, p.session.timeout⟩]
  message : ∀ n, r.message ≠ .ok (some (unknownState n))

theorem sendsShown_of_click {s : Session} {p : Page} (hp : Backed s p) {url : Text}
    (hurl : Endpoint.normalize s.endpoint = .ok url) (service : Service) {e : StateEntry} {clicks : Int}
    (he : p.Offers (.click service e clicks)) :
    SendsShown p url e.name (p.react (.click service e clicks)) := by
  obtain ⟨hmem, hclicks⟩ := he
  have hstep : p.InStep := hp.shown.resolve_right (List.ne_nil_of_mem hmem)
  cases hr : p.session.result with
  | none =>
      rw [InStep, hr] at hstep
      rw [hstep] at hmem
      cases hmem
  | some c =>
      rw [InStep, hr, Option.map_some, Option.getD_some] at hstep
      have hname : e.name ∈ c.stateNames := Compilation.mem_stateNames_of_mem_entries (hstep ▸ hmem)
      obtain ⟨a, ha, hheld⟩ := Session.artifact?_of_known hr hname
      have hclick := (click_sendButtonId p.session service e.name hclicks).trans (send_of_held hheld service)
      refine ⟨rfl, ⟨c, a, hr, ha, ?_⟩, ?_⟩
      · rw [← hp.setup.endpoint] at hurl
        rw [react, requests_press, hclick]
        exact requests_deliver hurl service p.session.timeout a
      · intro n h
        have hmessage := message_press_ok h
        rw [hclick] at hmessage
        exact showDelivery_ne_unknownState _ _ n hmessage

/-- What is not a click reaches no service. -/
theorem requests_of_no_click {p : Page} {e : Event} (he : p.Offers e) (hclick : ¬ e.IsClick) :
    (p.react e).requests = [] := by
  cases e with
  | run t => rfl
  | click service e clicks => exact absurd trivial hclick
  | update service id clicks =>
      have hview : (p.react (.update service id clicks)).requests =
          (Editor.click p.session service id clicks).requests := requests_press _ _ _ _
      rw [hview]
      rcases he with hid | rfl | rfl
      · cases id with
        | object fields => exact absurd rfl (hid fields)
        | _ => cases clicks <;> rfl
      · cases id <;> rfl
      · cases id <;> rfl

/-- Whatever happens on a page, it shows the entries of the compilation that its session holds: from the start if
its program is compiled then or nothing is held yet, and else from the first run on, before which it is empty. A
click on what it shows delivers the artifact of that name by one request and finds the state; nothing else makes a
request. -/
theorem shows_what_is_held {s : Session} (hparser : Foreseeable s.parser) {url : Text}
    (hurl : Endpoint.normalize s.endpoint = .ok url) (source : Text) (events : List Event) :
    let p := (opened s source).after events
    ((source = [] → s.result = none ∨ ∃ t, .run t ∈ events) → p.InStep) ∧
    (source = [] → (∀ t, .run t ∉ events) → p.shown = []) ∧
    (∀ service e clicks, p.Offers (.click service e clicks) →
      SendsShown p url e.name (p.react (.click service e clicks))) ∧
    ∀ e, p.Offers e → ¬ e.IsClick → (p.react e).requests = [] := by
  intro p
  have hopened : Backed s (opened s source) := backed_opened hparser source
  have hp : Backed s p := backed_after hparser hopened events
  refine ⟨?_, ?_, ?_, ?_⟩
  · intro h
    have hparser' : Foreseeable (opened s source).session.parser := hopened.setup.parser ▸ hparser
    by_cases hsource : source = []
    · rcases h hsource with hnone | ⟨t, ht⟩
      · refine inStep_after hparser' ?_ events
        rw [InStep, opened, openWith, hsource]
        simp only [List.isEmpty_nil, if_true, ofRun, hnone]
        rfl
      · exact inStep_after_of_run hparser hopened ht
    · refine inStep_after hparser' ?_ events
      rw [opened, openWith, if_neg (by simpa using hsource)]
      exact inStep_ofRun hparser [] source
  · intro hsource hrun
    have hsame : p = opened s source := after_of_no_run hrun
    rw [hsame, hsource]
    rfl
  · intro service e clicks he
    exact sendsShown_of_click hp hurl service he
  · intro e he hclick
    exact requests_of_no_click he hclick

/-- A page that is opened with two states of one name and whose buttons were drawn. -/
def doubledPage : Page := (opened plainEditor doubledText).after [.update silent .null none]

theorem opened_doubledText {s : Session} (h : compileText s.parser doubledText = .ok doubledReport) :
    opened s doubledText =
      ⟨{ s with result := some doubledReport.compilation }, [doubledEntry "a", doubledEntry "b"]⟩ := by
  have hsource : doubledText.isEmpty = false := by rfl
  simp only [opened, openWith, hsource, Bool.false_eq_true, if_false, ofRun, Editor.run, Session.run, h]
  rfl

theorem shows_what_is_held_doubledText :
    Foreseeable plainEditor.parser ∧ Endpoint.normalize plainEditor.endpoint = .ok Session.plainEndpoint ∧
    doubledPage.InStep ∧ doubledPage.Offers (.click silent (doubledEntry "a") 1) ∧
    SendsShown doubledPage Session.plainEndpoint "s" (doubledPage.react (.click silent (doubledEntry "a") 1)) := by
  have hurl : Endpoint.normalize plainEditor.endpoint = .ok Session.plainEndpoint := rfl
  have hparser : Foreseeable plainEditor.parser := foreseeable_treeParser
  obtain ⟨hstep, -, hclick, -⟩ := shows_what_is_held hparser hurl doubledText [.update silent .null none]
  have hshown : doubledPage.shown = [doubledEntry "a", doubledEntry "b"] :=
    congrArg Page.shown (opened_doubledText (s := plainEditor) compileText_doubledText)
  have hoffers : doubledPage.Offers (.click silent (doubledEntry "a") 1) :=
    ⟨by rw [hshown]; exact List.mem_cons_self, Int.one_pos⟩
  refine ⟨hparser, hurl, hstep ?_, hoffers, hclick silent (doubledEntry "a") 1 hoffers⟩
  intro hsource
  exact absurd hsource (by decide)

/-- A session that holds two states of one name already. -/
def heldEditor : Session := { plainEditor with result := some doubledReport.compilation }

/-- A parser that returns too long a count for the empty text. -/
def overlongParser : Parser := fun t => if t.isEmpty then .ok overlongCount else treeParser t

def overlongEditor : Session := .start overlongParser Session.plainEndpoint none

theorem overlongParser_ne_escaped (t : Text) (e : Escape) : overlongParser t ≠ .error (.escaped e) := by
  rw [overlongParser]
  split
  · intro h
    cases h
  · exact treeParser_ne_escaped t e

theorem compileText_overlongParser_doubledText : compileText overlongParser doubledText = .ok doubledReport := by
  have hsource : doubledText.isEmpty = false := by rfl
  have hparser : overlongParser doubledText = treeParser doubledText := by
    rw [overlongParser, hsource, if_neg Bool.false_ne_true]
  rw [← compileText_doubledText, compileText, compileText, hparser]

theorem compileText_overlongParser_nil : compileText overlongParser [] = .error .longCount := by
  have hlong := compileProgram_eq_longCount_iff.mpr ⟨rfl, rfl, long_overlongCount⟩
  have hparser : overlongParser [] = .ok overlongCount := rfl
  simp only [compileText, hparser, hlong]

theorem after_overlongEditor : (opened overlongEditor doubledText).after [.run none] =
    ⟨overlongEditor, [doubledEntry "a", doubledEntry "b"]⟩ := by
  rw [opened_doubledText (s := overlongEditor) compileText_overlongParser_doubledText]
  simp only [after, List.foldl_cons, List.foldl_nil, react, Option.getD_none, ofRun, Editor.run, Session.run,
    overlongEditor, Session.start, compileText_overlongParser_nil]
  rfl

/-- A page without a text shows nothing of what its session holds already; and after a run that ends at too long a
count, a page goes on showing what its session has given up. -/
theorem opened_out_of_step :
    Foreseeable heldEditor.parser ∧ Endpoint.normalize heldEditor.endpoint = .ok Session.plainEndpoint ∧
    ¬ ((opened heldEditor []).after [.update silent .null none]).InStep ∧
    (∀ t e, overlongEditor.parser t ≠ .error (.escaped e)) ∧
    ¬ ((opened overlongEditor doubledText).after [.run none]).InStep := by
  refine ⟨foreseeable_treeParser, rfl, ?_, overlongParser_ne_escaped, ?_⟩
  · intro h
    cases h
  · rw [after_overlongEditor]
    intro h
    cases h

end Page

end Editor

end HyperEvolve
