import HyperEvolve.CommandLine.Run
import HyperEvolve.Proofs.Editor
import HyperEvolve.Proofs.Storage.Frame

/-!
# What a command does to the world

The three commands that compile a source share one preparation: settings, source and compilation, in this order.
As long as one of them fails they do the same, which is to say so; only then does each have an effect of its own.
-/

namespace HyperEvolve

namespace CommandLine

/-- External programs leave the files as they are. -/
def World.IsStill (w : World) : Prop :=
  ∀ command input timeout, (w.execute w.tree command input timeout).2 = w.tree

/-- The source that a command compiles before it does anything else. -/
def Command.compiled? : Command → Option String
  | .check source | .compile source _ | .send source _ _ => some source
  | .init _ | .serve _ _ _ => none

/-- The settings load, the source is read, and its text compiles. -/
structure Compiles (w : World) (named : Option String) (source : String) (s : Settings) (r : CompileReport) :
    Prop where
  settings : loadSettings w.tree named = .ok s
  program : ∃ text, readSource w.tree source = .ok text ∧ compileText (sessionFor w s).parser text = .ok r

def errorLine (message : String) : Text := Text.ofString ("Error: " ++ message)

/-- The first of the three that fails says what is wrong with it. -/
inductive Refuses (w : World) (named : Option String) (source : String) : Text → Prop where
  | settings {line : Text} (h : loadSettings w.tree named = .error (.complaint line)) : Refuses w named source line
  | source {s : Settings} {e : SystemError} (hs : loadSettings w.tree named = .ok s)
    (h : ((Disk.readText (Path.ofString source)).run w.tree).1 = .error (.system e)) :
    Refuses w named source (errorLine s!"cannot read '{(Path.ofString source).toString}': {e.message}")
  | program {s : Settings} {text : String} {e : CompileError} (hs : loadSettings w.tree named = .ok s)
    (htext : readSource w.tree source = .ok text)
    (h : compileText (sessionFor w s).parser text = .error (.error e)) :
    Refuses w named source (errorLine e.message)

/-! ## Preparation -/

/-- What a source is compiled to, with the settings. -/
def compiled (w : World) (named : Option String) (source : String) : Except Refusal (Settings × CompileReport) :=
  match load w named source with
  | .error e => .error e
  | .ok (s, text) =>
    match compileText (sessionFor w s).parser text with
    | .ok r => .ok (s, r)
    | .error (.error e) => .error (complain e.message)
    | .error (.escaped e) => .error (.leak (.escape e))
    | .error .longCount => .error (.leak (.escape .longInteger))

theorem load_of_settings_error {w : World} {named : Option String} {e : Refusal}
    (h : loadSettings w.tree named = .error e) (source : String) : load w named source = .error e := by
  rw [load, h]
  rfl

theorem load_of_settings {w : World} {named : Option String} {s : Settings} (h : loadSettings w.tree named = .ok s)
    (source : String) : load w named source = (readSource w.tree source).map fun text => (s, text) := by
  rw [load, h]
  cases readSource w.tree source <;> rfl

theorem Compiles.compiled {w : World} {named : Option String} {source : String} {s : Settings} {r : CompileReport}
    (h : Compiles w named source s r) : compiled w named source = .ok (s, r) := by
  obtain ⟨text, htext, hr⟩ := h.program
  rw [CommandLine.compiled, load_of_settings h.settings, htext]
  simp only [Except.map, hr]

theorem compiles_of_compiled {w : World} {named : Option String} {source : String} {s : Settings}
    {r : CompileReport} (h : compiled w named source = .ok (s, r)) : Compiles w named source s r := by
  rw [compiled] at h
  cases hs : loadSettings w.tree named with
  | error e => rw [load_of_settings_error hs] at h; cases h
  | ok s' =>
      rw [load_of_settings hs] at h
      cases htext : readSource w.tree source with
      | error e => rw [htext] at h; cases h
      | ok text =>
          rw [htext] at h
          simp only [Except.map] at h
          split at h
          · rename_i r' hr
            cases h
            exact ⟨hs, text, htext, hr⟩
          · cases h
          · cases h
          · cases h

theorem Refuses.compiled {w : World} {named : Option String} {source : String} {line : Text}
    (h : Refuses w named source line) : compiled w named source = .error (.complaint line) := by
  rw [CommandLine.compiled]
  cases h with
  | settings h => rw [load_of_settings_error h]
  | @source s e hs h =>
      have hsource : readSource w.tree source =
          .error (complain s!"cannot read '{(Path.ofString source).toString}': {e.message}") := by
        simp only [readSource, h]
      rw [load_of_settings hs, hsource]
      rfl
  | program hs htext h =>
      rw [load_of_settings hs, htext]
      simp only [Except.map, h]
      rfl

def holding (w : World) (s : Settings) (r : CompileReport) : Session :=
  { sessionFor w s with result := some r.compilation }

/-- What is prepared depends on the settings only through the parser's command, and changes nothing. -/
theorem prepare_eq {w : World} (hw : w.IsStill) (named : Option String) {adapt : Settings → Settings}
    (hadapt : ∀ s, (adapt s).parserCommand = s.parserCommand) (source : String) :
    prepare w named adapt source = ((compiled w named source).map fun (s, r) =>
      ⟨adapt s, holding w (adapt s) r, r.compilation, [Session.runRecord r]⟩, w) := by
  have htree : ∀ s text, treeAfter w s text = w.tree := by
    intro s text
    rw [treeAfter]
    split
    · rfl
    · exact hw _ _ _
  rw [prepare, compiled]
  cases load w named source with
  | error e => rfl
  | ok p =>
      obtain ⟨s, text⟩ := p
      have hparser : (sessionFor w s).parser = (sessionFor w (adapt s)).parser := by
        simp only [sessionFor, Session.start, hadapt]
      simp only [htree, hparser, Session.run]
      cases compileText (sessionFor w (adapt s)).parser text with
      | ok r => rfl
      | error e => cases e <;> rfl

theorem parserCommand_withEndpoint (endpoint : Option String) (s : Settings) :
    (withEndpoint endpoint s).parserCommand = s.parserCommand := by
  rw [withEndpoint]
  split <;> rfl

/-! ## Reports -/

theorem Report.tree_refuse (r : Report) (e : Refusal) : (r.refuse e).tree = r.tree := by
  cases e <;> rfl

theorem Report.requests_refuse (r : Report) (e : Refusal) : (r.refuse e).requests = r.requests := by
  cases e <;> rfl

theorem Report.ending_refuse_ne (r : Report) (e : Refusal) : (r.refuse e).ending ≠ .ok 0 := by
  cases e with
  | complaint line => exact fun h => absurd (Except.ok.inj h) Nat.one_ne_zero
  | leak l => exact fun h => nomatch h

theorem tree_sendState (w : World) (verbose : Bool) (p : Prepared) (r : Report) (name : String) :
    (sendState w verbose p r name).tree = r.tree := by
  rw [sendState]
  split
  · exact Report.tree_refuse _ _
  · split
    · rfl
    · exact Report.tree_refuse _ _
    · exact Report.tree_refuse _ _

theorem requests_sendState_of_unknown (w : World) (verbose : Bool) {p : Prepared} (r : Report) {name : String}
    (h : p.session.artifact? name = none) : (sendState w verbose p r name).requests = r.requests := by
  have hsend : p.session.send w.service name = none := by
    rw [Session.send, Session.sendWith, h, Option.map_none]
  simp only [sendState, hsend]
  exact Report.requests_refuse _ _

/-! ## Commands -/

section

variable {w : World} (hw : w.IsStill) {named : Option String} {source : String}
include hw

/-- A command that cannot be prepared refuses, whichever of the three it is. -/
theorem run_of_error {e : Refusal} (h : compiled w named source = .error e) (verbose : Bool) {c : Command}
    (hc : c.compiled? = some source) : run w ⟨named, verbose, some c⟩ = (Report.start w).refuse e := by
  have hprepare : ∀ adapt : Settings → Settings, (∀ s, (adapt s).parserCommand = s.parserCommand) →
      prepare w named adapt source = (.error e, w) := by
    intro adapt hadapt
    rw [prepare_eq hw named hadapt, h]
    rfl
  cases c with
  | check source' =>
      cases hc
      simp only [run, check, hprepare id fun _ => rfl]
  | compile source' out =>
      cases hc
      simp only [run, compile, hprepare id fun _ => rfl]
  | send source' state endpoint =>
      cases hc
      simp only [run, send, hprepare _ (parserCommand_withEndpoint endpoint)]
  | init directory => cases hc
  | serve source' host port => cases hc

variable {s : Settings} {r : CompileReport}

theorem prepare_of_compiled (h : compiled w named source = .ok (s, r)) (adapt : Settings → Settings)
    (hadapt : ∀ s, (adapt s).parserCommand = s.parserCommand) : prepare w named adapt source =
      (.ok ⟨adapt s, holding w (adapt s) r, r.compilation, [Session.runRecord r]⟩, w) := by
  rw [prepare_eq hw named hadapt, h]
  rfl

theorem check_of_compiled (h : compiled w named source = .ok (s, r)) (verbose : Bool) :
    let report := run w ⟨named, verbose, some (.check source)⟩
    report.ending = .ok 0 ∧ report.tree = w.tree ∧ report.requests = [] := by
  simp only [run, check, prepare_of_compiled hw h id fun _ => rfl]
  exact ⟨rfl, rfl, rfl⟩

/-- The directory that artifacts are written to: one that the command line names, or that of the settings. -/
def outputDirectory (w : World) (s : Settings) (out : Option String) : Path :=
  if (out.getD "") ≠ "" then Path.ofString (out.getD "") else below w.tree s.buildDirectory.toString

theorem compile_of_compiled (h : compiled w named source = .ok (s, r)) (verbose : Bool) (out : Option String) :
    let report := run w ⟨named, verbose, some (.compile source out)⟩
    report.tree = ((writeArtifacts r.compilation (outputDirectory w s out)).run w.tree).2 ∧
      report.requests = [] := by
  simp only [run, compile, prepare_of_compiled hw h id fun _ => rfl, id, outputDirectory]
  split
  · exact ⟨Report.tree_refuse _ _, Report.requests_refuse _ _⟩
  · exact ⟨Report.tree_refuse _ _, Report.requests_refuse _ _⟩
  · exact ⟨rfl, rfl⟩

theorem send_of_compiled (h : compiled w named source = .ok (s, r)) (verbose : Bool) (state : Given String)
    (endpoint : Option String) :
    let report := run w ⟨named, verbose, some (.send source state endpoint)⟩
    report.tree = w.tree ∧
      (report.requests ≠ [] → ∃ name, state = .value name ∧ name ∈ r.compilation.stateNames) := by
  simp only [run, send, prepare_of_compiled hw h _ (parserCommand_withEndpoint endpoint)]
  cases state with
  | blank => exact ⟨rfl, fun h => absurd rfl h⟩
  | value name =>
      refine ⟨tree_sendState _ _ _ _ _, fun hrequests => ⟨name, rfl, ?_⟩⟩
      by_contra hname
      refine hrequests (requests_sendState_of_unknown _ _ _ ?_)
      refine Session.artifact?_of_unknown ?_
      intro c hc
      cases hc
      exact hname

end

/-! ## Lines -/

theorem settingsAt_complaint {t : FileTree} {p : Path} {line : Text}
    (h : settingsAt t p = .error (.complaint line)) : ∃ m, line = errorLine m := by
  rw [settingsAt] at h
  split at h
  · split at h <;> cases h <;> exact ⟨_, rfl⟩
  · cases h
  · split at h <;> cases h
    exact ⟨_, rfl⟩

theorem loadSettings_complaint {t : FileTree} {named : Option String} {line : Text}
    (h : loadSettings t named = .error (.complaint line)) : ∃ m, line = errorLine m := by
  rw [loadSettings] at h
  split at h
  · exact settingsAt_complaint h
  · dsimp only at h
    split at h
    · cases h
    · exact settingsAt_complaint h
    · cases h

theorem Refuses.line_eq {w : World} {named : Option String} {source : String} {line : Text}
    (h : Refuses w named source line) : ∃ m, line = errorLine m := by
  cases h with
  | settings h => exact loadSettings_complaint h
  | source hs h => exact ⟨_, rfl⟩
  | program hs htext h => exact ⟨_, rfl⟩

/-! ## Effects -/

/-- What the three commands that compile a source do to the world. Checking does nothing to it and ends well
exactly if the source compiles. Unless it compiles all three do the same, nothing to the world, and a refusal is
one line. Once it does, compiling touches the files of the artifacts and the directories above them alone, and
sending makes a request only for a state that is there. -/
structure ActsOnceCompiled (w : World) (named : Option String) (verbose : Bool) (source : String) : Prop where
  check : let report := run w ⟨named, verbose, some (.check source)⟩
    report.tree = w.tree ∧ report.requests = []
  success : (run w ⟨named, verbose, some (.check source)⟩).ending = .ok 0 ↔
    ∃ s r, Compiles w named source s r
  refusal : ∀ line, Refuses w named source line → (∃ m, line = errorLine m) ∧
    ∀ c : Command, c.compiled? = some source →
      run w ⟨named, verbose, some c⟩ = ⟨.ok 1, [], [line], w.tree, [], none⟩
  failure : (∀ s r, ¬ Compiles w named source s r) → ∃ report : Report,
    report.tree = w.tree ∧ report.requests = [] ∧
    ∀ c : Command, c.compiled? = some source → run w ⟨named, verbose, some c⟩ = report
  compile : ∀ s r, Compiles w named source s r → ∀ out,
    let report := run w ⟨named, verbose, some (.compile source out)⟩
    FileTree.Frame (Built r.compilation (outputDirectory w s out)) w.tree report.tree ∧ report.requests = []
  send : ∀ s r, Compiles w named source s r → ∀ state endpoint,
    let report := run w ⟨named, verbose, some (.send source state endpoint)⟩
    report.tree = w.tree ∧
      (report.requests ≠ [] → ∃ name, state = .value name ∧ name ∈ r.compilation.stateNames)

/-- Commands have effects only after a complete and successful compilation, as long as external programs leave
the files alone. -/
theorem acts_once_compiled {w : World} (hw : w.IsStill) (named : Option String) (verbose : Bool) (source : String) :
    ActsOnceCompiled w named verbose source := by
  constructor
  case check =>
    cases h : compiled w named source with
    | error e =>
        rw [run_of_error hw h verbose rfl]
        exact ⟨Report.tree_refuse _ e, Report.requests_refuse _ e⟩
    | ok p => exact (check_of_compiled hw h verbose).2
  case success =>
    cases h : compiled w named source with
    | error e =>
        rw [run_of_error hw h verbose rfl]
        refine iff_of_false (Report.ending_refuse_ne _ e) ?_
        rintro ⟨s, r, hr⟩
        rw [hr.compiled] at h
        cases h
    | ok p => exact iff_of_true (check_of_compiled hw h verbose).1 ⟨p.1, p.2, compiles_of_compiled h⟩
  case refusal =>
    intro line h
    refine ⟨h.line_eq, fun c hc => ?_⟩
    rw [run_of_error hw h.compiled verbose hc]
    rfl
  case failure =>
    intro hnone
    cases h : compiled w named source with
    | error e =>
        refine ⟨(Report.start w).refuse e, Report.tree_refuse _ e, Report.requests_refuse _ e, ?_⟩
        exact fun c hc => run_of_error hw h verbose hc
    | ok p => exact absurd (compiles_of_compiled h) (hnone p.1 p.2)
  case compile =>
    intro s r h out
    obtain ⟨htree, hrequests⟩ := compile_of_compiled hw h.compiled verbose out
    refine ⟨?_, hrequests⟩
    rw [htree]
    exact keeps_frame_writeArtifacts r.compilation _ w.tree
  case send =>
    intro s r h state endpoint
    exact send_of_compiled hw h.compiled verbose state endpoint

/-- A directory with one program in it, and nothing outside that answers. -/
def doubledWorld : World where
  tree := FileTree.put ⟨∅, []⟩ ["p"] (.file (Utf8.encode (programTree Editor.doubledProgram).compact))
  service := Editor.silent
  execute t _ _ _ := (.notFound, t)

theorem acts_once_compiled_doubledWorld :
    doubledWorld.IsStill ∧ Compiles doubledWorld none "p" .defaults Editor.doubledReport ∧
    (run doubledWorld ⟨none, false, some (.check "p")⟩).ending = .ok 0 ∧
    FileTree.Frame (Built Editor.doubledReport.compilation (outputDirectory doubledWorld .defaults none))
      doubledWorld.tree (run doubledWorld ⟨none, false, some (.compile "p" none)⟩).tree ∧
    ∃ line, Refuses doubledWorld none "q" line ∧
      run doubledWorld ⟨none, true, some (.send "q" (.value "s") none)⟩ =
        ⟨.ok 1, [], [line], doubledWorld.tree, [], none⟩ := by
  have hw : doubledWorld.IsStill := fun _ _ _ => rfl
  have hsettings : loadSettings doubledWorld.tree none = .ok .defaults := by rfl
  have hplace : doubledWorld.tree.locate (Path.ofString "p") = .ok ["p"] := by rfl
  have hreadable : (programTree Editor.doubledProgram).Readable := readable_programTree (by decide)
  have hread : (Disk.readText (Path.ofString "p")).run doubledWorld.tree =
      (.ok (programTree Editor.doubledProgram).compact, doubledWorld.tree) :=
    Disk.readText_compact hreadable (by rfl) hplace rfl
  have hcompiles : Compiles doubledWorld none "p" .defaults Editor.doubledReport := by
    refine ⟨hsettings, _, by rw [readSource, hread], ?_⟩
    rw [Document.ofString_compact]
    exact Editor.compileText_doubledText
  have hmissing : ∃ e, ((Disk.readText (Path.ofString "q")).run doubledWorld.tree).1 = .error (.system e) :=
    ⟨⟨.noEntry, "q"⟩, by rfl⟩
  obtain ⟨e, he⟩ := hmissing
  have hrefuses := Refuses.source hsettings he
  have hp := acts_once_compiled hw none false "p"
  have hq := acts_once_compiled hw none true "q"
  refine ⟨hw, hcompiles, hp.success.mpr ⟨_, _, hcompiles⟩, (hp.compile _ _ hcompiles none).1, ?_⟩
  exact ⟨_, hrefuses, (hq.refusal _ hrefuses).2 _ rfl⟩

end CommandLine

end HyperEvolve
