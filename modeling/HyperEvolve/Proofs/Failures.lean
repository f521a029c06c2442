import HyperEvolve.Proofs.Session
import HyperEvolve.Proofs.Declaration.Counts

/-!
# How a session fails

A run fails with an error of the compiler, and sending with a name that is not held or a transmission that did
not succeed. Three things pass through: a command that the system refuses to run, texts without bytes and bytes
that are no text, and an answer whose body cannot be read. Each is told apart exactly, and nothing else does, as
long as there is room for every recursion and the head of a reply can be read: neither is part of a session here.
-/

namespace HyperEvolve

/-! ## Commands -/

theorem Utf8.isOk_encodeText {t : Text} : (encodeText t).isOk = t.isScalar := by
  have h : ∀ pos, (encodeWith (fun _ => none) pos t).isOk = t.isScalar := by
    induction t with
    | nil => exact fun _ => rfl
    | cons p t ih =>
        intro pos
        have hmap : ∀ r : Except EncodeFault Bytes, (r.map (point p ++ ·)).isOk = r.isOk := by
          intro r
          cases r <;> rfl
        rw [encodeWith, Text.isScalar, List.all_cons]
        cases hp : p.isSurrogate with
        | true => rfl
        | false =>
            rw [if_neg (by simp), hmap, ih (pos + 1)]
            rfl
  exact h 0

/-- The bytes of a text that a command is given, none if it has none. -/
def handedOver (t : Text) : Bytes := (Utf8.encodeText t).toOption.getD []

/-- The system did not refuse to run the command, and what the command answers is text. -/
def ProcessOutcome.IsText : ProcessOutcome → Prop
  | .refused _ => False
  | .exited _ stdout stderr => (Utf8.decode stdout).isOk ∧ (Utf8.decode stderr).isOk
  | .notFound | .timedOut => True

/-- Both the text that a command is given and what it answers are text. -/
def ProcessOutcome.IsClean (outcome : ProcessOutcome) (t : Text) : Prop :=
  outcome.IsText ∧ (outcome.isStarted → t.isScalar)

theorem treeParser_ne_escaped (t : Text) (e : Escape) : treeParser t ≠ .error (.escaped e) := by
  rw [treeParser]
  split <;> simp

theorem outputText_cases (bs : Bytes) :
    (Utf8.decode bs).isOk = true ∧ (∃ s, outputText bs = .ok s) ∨
    (Utf8.decode bs).isOk = false ∧ ∃ e, outputText bs = .error (.escaped e) := by
  rw [outputText]
  cases Utf8.decode bs with
  | ok cs => exact .inl ⟨rfl, _, rfl⟩
  | error fault => exact .inr ⟨rfl, _, rfl⟩

theorem readOutcome_ne_escaped_iff (command : List Text) (outcome : ProcessOutcome) :
    (∀ e, readOutcome command outcome ≠ .error (.escaped e)) ↔ outcome.IsText := by
  cases outcome with
  | notFound => simp [readOutcome, ProcessOutcome.IsText]
  | refused e => simp [readOutcome, ProcessOutcome.IsText]
  | timedOut => simp [readOutcome, ProcessOutcome.IsText]
  | exited status stdout stderr =>
      rw [ProcessOutcome.IsText]
      rcases outputText_cases stdout with ⟨hout, s, hs⟩ | ⟨hout, e, he⟩
      · rcases outputText_cases stderr with ⟨herr, s', hs'⟩ | ⟨herr, e, he⟩
        · have hread : readOutcome command (.exited status stdout stderr) =
              if status = 0 then treeParser s else .error (.rejected (.failed status s')) := by
            simp only [readOutcome, hs, hs', bind, Except.bind]
          simp only [hread, hout, herr, and_self, iff_true]
          intro e
          split
          · exact treeParser_ne_escaped s e
          · simp
        · have hread : readOutcome command (.exited status stdout stderr) = .error (.escaped e) := by
            simp only [readOutcome, hs, he, bind, Except.bind]
          simp [hread, herr]
      · have hread : readOutcome command (.exited status stdout stderr) = .error (.escaped e) := by
          simp only [readOutcome, he, bind, Except.bind]
        simp [hread, hout]

/-- Failures of the system pass a parser exactly if it runs a command that does not run cleanly. -/
theorem parserFor_ne_escaped_iff (execute : Executor) (command : List Text) (t : Text) :
    (∀ e, parserFor execute command t ≠ .error (.escaped e)) ↔
      command = [] ∨ (execute command (handedOver t) none).IsClean t := by
  rw [parserFor]
  cases hcommand : command.isEmpty with
  | true =>
      rw [List.isEmpty_iff] at hcommand
      simp only [↓reduceIte, hcommand, true_or, iff_true]
      exact treeParser_ne_escaped t
  | false =>
      have hne : command ≠ [] := by
        rintro rfl
        cases hcommand
      have hscalar := Utf8.isOk_encodeText (t := t)
      rw [if_neg (by simp), or_iff_right hne, ProcessOutcome.IsClean, ← readOutcome_ne_escaped_iff command,
        handedOver]
      simp only [runParser, hcommand]
      cases hencode : Utf8.encodeText t with
      | ok input =>
          have ht : t.isScalar = true := by rw [← hscalar, hencode]; rfl
          simp [ht, Except.toOption]
      | error fault =>
          have ht : t.isScalar = false := by rw [← hscalar, hencode]; rfl
          cases hstarted : (execute command [] none).isStarted with
          | true => simp [ht, Except.toOption, hstarted]
          | false => simp [Except.toOption, hstarted]

/-- What a parser returns was read from a text: the program text or the answer of a command. -/
theorem shortCounts_of_parserFor {execute : Executor} {command : List Text} {t : Text} {ds : List Declaration}
    (h : parserFor execute command t = .ok ds) : ShortCounts ds := by
  suffices ∃ t', treeParser t' = .ok ds by
    obtain ⟨t', ht'⟩ := this
    exact shortCounts_of_parseDeclarations (treeParser_eq_ok_iff.mp ht')
  have hread : ∀ {outcome}, readOutcome command outcome = .ok ds → ∃ t', treeParser t' = .ok ds := by
    intro outcome h
    cases outcome with
    | exited status stdout stderr =>
        obtain ⟨output, -, h⟩ := bind_eq_ok_iff.mp h
        obtain ⟨complaint, -, h⟩ := bind_eq_ok_iff.mp h
        split at h
        · exact ⟨output, h⟩
        · cases h
    | _ => cases h
  rw [parserFor] at h
  split at h
  · exact ⟨t, h⟩
  · rw [runParser] at h
    split at h
    · cases h
    · split at h
      · exact hread h
      · dsimp only at h
        split at h
        · cases h
        · exact hread h

/-! ## Runs -/

theorem compileText_foreseen_iff {parser : Parser} {t : Text}
    (hcounts : ∀ ds, parser t = .ok ds → ShortCounts ds) :
    (∃ r, compileText parser t = .ok r) ∨ (∃ e, compileText parser t = .error (.error e)) ↔
      ∀ e, parser t ≠ .error (.escaped e) := by
  rw [compileText]
  split
  · rename_i e he
    simp [he]
  · rename_i e he
    simp [he]
  · rename_i ds hds
    split
    · simp [hds]
    · simp [hds]
    · rename_i hlong
      exact absurd (hcounts ds hds) (compileProgram_eq_longCount_iff.mp hlong).2.2

theorem Session.outcome_run {ε : Type} (s : Session ε) (t : Text) :
    (s.run t).outcome = (compileText s.parser t).map CompileReport.compilation := by
  rw [run]
  cases compileText s.parser t <;> rfl

theorem Session.run_foreseen_iff {s : Session} {t : Text} (hcounts : ∀ ds, s.parser t = .ok ds → ShortCounts ds) :
    (∃ c, (s.run t).outcome = .ok c) ∨ (∃ e, (s.run t).outcome = .error (.error e)) ↔
      ∀ e, s.parser t ≠ .error (.escaped e) := by
  rw [← compileText_foreseen_iff hcounts, outcome_run]
  cases compileText s.parser t with
  | ok r => simp [Except.map]
  | error e => simp [Except.map]

/-! ## Deliveries -/

/-- The body is text, and no number in it is too long to be read. -/
def IsReadableBody (body : Bytes) : Prop :=
  ∃ t, Encoding.decode body = .ok t ∧ ∀ digits, Document.read t ≠ .error (.longInteger digits)

/-- Success comes with a body that can be read; the body of any other reply is only shown. -/
def Reply.IsReadable : Reply → Prop
  | .response status body => isSuccess status → IsReadableBody body
  | .failure _ _ => True

theorem bodyDocument_cases (body : Bytes) :
    IsReadableBody body ∧ (∃ d, bodyDocument body = .ok d) ∨
    ¬ IsReadableBody body ∧
      ∃ f, bodyDocument body = .error f ∧ ∀ status description, f ≠ .transmission status description := by
  rw [bodyDocument, IsReadableBody]
  cases hdecode : Encoding.decode body with
  | error fault => exact .inr ⟨by simp, _, rfl, by simp⟩
  | ok t =>
      dsimp only
      cases hread : Document.read t with
      | ok d => exact .inl ⟨⟨t, rfl, by simp [hread]⟩, _, rfl⟩
      | error fault =>
          cases fault with
          | form why rest => exact .inl ⟨⟨t, rfl, by simp [hread]⟩, _, rfl⟩
          | longInteger digits => exact .inr ⟨by simp [hread], _, rfl, by simp⟩

section

variable {endpoint : String} (request : Request) (hscheme : Endpoint.hasScheme request.url = true)
include hscheme

theorem ofReply_foreseen_iff (reply : Reply) :
    (∃ doc, (Delivery.ofReply endpoint request reply).outcome = .ok doc) ∨
      (∃ status description, (Delivery.ofReply endpoint request reply).outcome =
        .error (.transmission status description)) ↔ reply.IsReadable := by
  cases reply with
  | failure kind message => simp [Delivery.ofReply, Reply.IsReadable]
  | response status body =>
      simp only [Delivery.ofReply, hscheme, Reply.IsReadable]
      cases hsuccess : isSuccess status with
      | false => simp
      | true =>
          rcases bodyDocument_cases body with ⟨hbody, doc, hdoc⟩ | ⟨hbody, f, hf, hne⟩
          · simp [hbody, hdoc]
          · simp [hbody, hf, hne]

theorem ofReply_ok_iff (reply : Reply) :
    (∃ doc, (Delivery.ofReply endpoint request reply).outcome = .ok doc) ↔
      ∃ status body, reply = .response status body ∧ isSuccess status ∧ IsReadableBody body := by
  cases reply with
  | failure kind message => simp [Delivery.ofReply]
  | response status body =>
      simp only [Delivery.ofReply, hscheme]
      cases hsuccess : isSuccess status with
      | false => simp [hsuccess]
      | true =>
          rcases bodyDocument_cases body with ⟨hbody, doc, hdoc⟩ | ⟨hbody, f, hf, -⟩
          · simp [hbody, hdoc, hsuccess]
          · simp [hbody, hf]

end

theorem deliver_of_normalize {endpoint url : Text} (h : Endpoint.normalize endpoint = .ok url) (service : Service)
    (timeout : Option Float) (a : Artifact) :
    deliver service endpoint timeout a = Delivery.ofReply endpoint.toString ⟨url.toString, a.serialize, timeout⟩
      (service ⟨url.toString, a.serialize, timeout⟩) := by
  simp only [deliver, h]

namespace Session

/-! ## Sessions -/

/-- A run ends with a compilation or an error of the compiler exactly if no command is run or its command runs
cleanly. Sending ends with the lack of a name that is not held; for a name that is held it ends with an answer
or a failed transmission exactly if the reply can be read, and with an answer exactly if the reply is a success
that can be read. -/
theorem fails_as_foreseen_iff {s : Session} {execute : Executor} {command : List Text}
    (hparser : s.parser = parserFor execute command) {url : Text} (hurl : Endpoint.normalize s.endpoint = .ok url)
    (hscheme : Endpoint.hasScheme url.toString = true) :
    (∀ t, (∃ c, (s.run t).outcome = .ok c) ∨ (∃ e, (s.run t).outcome = .error (.error e)) ↔
      command = [] ∨ (execute command (handedOver t) none).IsClean t) ∧
    ∀ service name,
      ((∀ c, s.result = some c → name ∉ c.stateNames) → s.send service name = none) ∧
      ∀ c, s.result = some c → name ∈ c.stateNames → ∃ a d, c.artifact? name = some a ∧
        s.send service name = some d ∧
        let reply := service ⟨url.toString, a.serialize, s.timeout⟩
        ((∃ doc, d.outcome = .ok doc) ∨
          (∃ status description, d.outcome = .error (.transmission status description)) ↔ reply.IsReadable) ∧
        ((∃ doc, d.outcome = .ok doc) ↔
          ∃ status body, reply = .response status body ∧ isSuccess status ∧ IsReadableBody body) := by
  constructor
  · intro t
    rw [run_foreseen_iff fun ds hds => shortCounts_of_parserFor (hparser ▸ hds), hparser, parserFor_ne_escaped_iff]
  · intro service name
    constructor
    · intro hunknown
      rw [send, sendWith, artifact?_of_unknown hunknown, Option.map_none]
    · intro c hc hname
      obtain ⟨a, ha, hheld⟩ := artifact?_of_known hc hname
      refine ⟨a, _, ha, send_of_held hheld service, ?_⟩
      rw [deliver_of_normalize hurl]
      let request : Request := ⟨url.toString, a.serialize, s.timeout⟩
      exact ⟨ofReply_foreseen_iff request hscheme _, ofReply_ok_iff request hscheme _⟩

/-! ## Commands and replies that are not foreseen -/

/-- A command that answers with its input. -/
def echoing : Executor := fun _ input _ => .exited 0 input []

/-- A command that answers with a byte that starts no character. -/
def garbling : Executor := fun _ _ _ => .exited 0 [0xFF] []

/-- A command that the system refuses to run. -/
def refused : Executor := fun _ _ _ => .refused (.system ⟨.denied, "p"⟩)

def oneState : List Declaration := [.state ⟨"s", .groups [["a"]], .item (.inline ["r"]), none⟩]

/-- A session with the given command that holds a program of one state. -/
def holding (execute : Executor) : Session :=
  { start (parserFor execute ["p"]) plainEndpoint none with
    result := some ⟨(stateDecls oneState).map (Symbols.ofDeclarations oneState).compiled, []⟩ }

def replying (status : Nat) (body : Bytes) : Service := fun _ => .response status body

theorem fails_as_foreseen_iff_echoing :
    Endpoint.normalize plainEndpoint = .ok plainEndpoint ∧ Endpoint.hasScheme plainEndpoint.toString = true ∧
    ((∃ c, ((holding echoing).run "[]").outcome = .ok c) ∨
      ∃ e, ((holding echoing).run "[]").outcome = .error (.error e)) ∧
    ¬ ((∃ c, ((holding garbling).run "[]").outcome = .ok c) ∨
      ∃ e, ((holding garbling).run "[]").outcome = .error (.error e)) ∧
    ∃ d, (holding echoing).send (replying 200 [0x31]) "s" = some d ∧ ∃ doc, d.outcome = .ok doc := by
  have hurl : Endpoint.normalize plainEndpoint = .ok plainEndpoint := rfl
  have hscheme : Endpoint.hasScheme plainEndpoint.toString = true := by decide
  have hechoing : (holding echoing).parser = parserFor echoing ["p"] := rfl
  have hgarbling : (holding garbling).parser = parserFor garbling ["p"] := rfl
  obtain ⟨hechoed, hsend⟩ := fails_as_foreseen_iff hechoing hurl hscheme
  obtain ⟨hgarbled, -⟩ := fails_as_foreseen_iff hgarbling hurl hscheme
  have hclean : (echoing ["p"] (handedOver "[]") none).IsClean "[]" :=
    ⟨⟨by decide +kernel, by decide +kernel⟩, fun _ => by decide⟩
  have hbody : IsReadableBody [0x31] := by
    have hread : Document.read (Text.ofString "1") = .ok (.int 1) := by rfl
    exact ⟨"1", by decide +kernel, by simp [hread]⟩
  refine ⟨hurl, hscheme, (hechoed "[]").mpr (.inr hclean), ?_, ?_⟩
  · rw [hgarbled, not_or]
    exact ⟨by decide, fun h => absurd h.1.1 (by decide +kernel)⟩
  · obtain ⟨a, d, -, hd, -, hok⟩ := (hsend (replying 200 [0x31]) "s").2 _ rfl (by decide)
    exact ⟨d, hd, hok.mpr ⟨200, [0x31], rfl, rfl, hbody⟩⟩

/-- Failures pass through a session that no caller expects: one of the system, and bytes that are no text in the
answer of a command and in the body of a success. -/
theorem passes_on_failures :
    ((holding refused).run "[]").outcome = .error (.escaped (.system ⟨.denied, "p"⟩)) ∧
    (∃ fault, ((holding garbling).run "[]").outcome = .error (.escaped (.undecodable fault))) ∧
    ∃ d, (holding echoing).send (replying 200 [0xFF]) "s" = some d ∧
      ∃ fault, d.outcome = .error (.undecodable fault) := by
  let fault : DecodeFault := ⟨"utf-8", 0xFF, 0, 1, "invalid start byte"⟩
  have hanswer : parserFor garbling ["p"] "[]" = .error (.escaped (.undecodable fault)) := by
    have hout : outputText [0xFF] = .error (.escaped (.undecodable fault)) := by decide +kernel
    have hrun : parserFor garbling ["p"] "[]" = readOutcome ["p"] (.exited 0 [0xFF] []) := rfl
    simp only [hrun, readOutcome, hout, bind, Except.bind]
  have hbody : bodyDocument [0xFF] = .error (.undecodable fault) := by
    have hdecode : Encoding.decode [0xFF] = .error fault := by decide +kernel
    rw [bodyDocument, hdecode]
  refine ⟨rfl, ⟨fault, ?_⟩, _, rfl, fault, hbody⟩
  rw [outcome_run, compileText]
  simp only [holding, start, hanswer, Except.map]

end Session

end HyperEvolve
