import HyperEvolve.Editor
import HyperEvolve.Proofs.Acceptance
import HyperEvolve.Proofs.Declaration.RoundTrip
import HyperEvolve.Proofs.Session

/-!
# What the editor shows and what it sends

An entry is drawn for every compiled state, but its button carries only a name, and under a name the last
state is held. So a button sends the artifact whose preview the last entry of its name shows, and an entry
shows what is sent unless a later one has its name.
-/

namespace HyperEvolve

open Document

/-! ## Entries -/

/-- The preview in the last entry of a name. -/
def shownLast? (es : List StateEntry) (name : String) : Option Text :=
  (es.map fun e => (e.name, e.preview)).reverse.lookup name

theorem shownLast?_append {before after : List StateEntry} {e : StateEntry} :
    shownLast? (before ++ e :: after) e.name = (shownLast? after e.name).or (some e.preview) := by
  rw [shownLast?, List.map_append, List.map_cons, List.reverse_append, List.reverse_cons, List.append_assoc,
    List.lookup_append, List.singleton_append, Table.lookup_cons_ite, if_pos rfl]
  rfl

theorem shownLast?_eq_none {es : List StateEntry} {name : String} (h : ∀ e ∈ es, e.name ≠ name) :
    shownLast? es name = none := by
  rw [shownLast?, ← Option.not_isSome_iff_eq_none, Table.isSome_lookup_iff]
  simpa using h

/-- A name is drawn last with the preview of the artifact that is held under it. -/
theorem shownLast?_entries {ds : List Declaration} {c : Compilation} (h : compileProgram ds = .ok c)
    (name : String) : shownLast? c.entries name = (c.artifact? name).map Artifact.preview := by
  have hpreviews : c.states.map (fun s => (s.name, s.preview)) =
      (c.states.map fun s => (s.name, s.artifact)).map fun p => (p.1, p.2.preview) := by
    rw [List.map_map]
    refine List.map_congr_left fun s hs => ?_
    rw [Function.comp_apply, preview_of_mem_states h hs]
  have hentries : (c.entries.map fun e => (e.name, e.preview)) = c.states.map fun s => (s.name, s.preview) := by
    rw [Compilation.entries, Compilation.previews, List.map_map, List.map_map]
    rfl
  rw [shownLast?, hentries, hpreviews, ← List.map_reverse, Table.lookup_map, Compilation.artifact?,
    Compilation.artifacts, Table.get?_ofList]

theorem Compilation.mem_stateNames_of_mem_entries {c : Compilation} {e : StateEntry} (he : e ∈ c.entries) :
    e.name ∈ c.stateNames := by
  rw [entries, previews, List.map_map] at he
  obtain ⟨s, hs, rfl⟩ := List.mem_map.mp he
  exact List.mem_map_of_mem hs

namespace Editor

/-! ## Clicks -/

/-- A click on the button of a name does what sending the name does. -/
theorem click_sendButtonId (s : Session) (service : Service) (name : String) {clicks : Int} (h : 0 < clicks) :
    click s service (sendButtonId (ofString name)) (some clicks) = send s service (ofString name) := by
  have hindex : Document.field? [(Text.ofString "type", ofString "send-state"),
      (Text.ofString "index", ofString name)] "index" = some (ofString name) := by
    have hfind := Document.field?_record [("type", ofString "send-state"), ("index", ofString name)] "index"
    simpa using hfind
  simp only [sendButtonId, Document.record, List.map_cons, List.map_nil, click, hindex]
  rw [if_neg (by omega)]

/-- Sending a name shows how the artifact that is held under it is delivered. -/
theorem send_of_held {s : Session} {name : String} {a : Artifact} (h : s.artifact? name = some a)
    (service : Service) : send s service (ofString name) =
      showDelivery (ofString name).shown (deliver service s.endpoint s.timeout a) := by
  have hkind : unhashableKind? s (ofString name) = none := by
    rw [ofString, unhashableKind?]
    · exact fun _ _ _ h => by cases h
    · exact fun _ _ _ h => by cases h
  have hname : stateName? (ofString name) = some name := by
    rw [ofString, stateName?, Text.isScalar_ofString, if_pos rfl, Text.toString_ofString]
  rw [send, hkind, hname]
  simp only [Option.bind_some, Session.send_of_held h]

theorem requests_send {s : Session} {name : String} {a : Artifact} (h : s.artifact? name = some a)
    (service : Service) : (send s service (ofString name)).requests = a.posts s.endpoint s.timeout := by
  rw [send_of_held h, showDelivery]
  exact requests_deliver_eq_posts service s.endpoint s.timeout a

/-- The button of an entry sends an artifact of the program last compiled: the one whose preview the last
entry of the same name shows, which is the entry itself unless its name is drawn again below. -/
theorem click_sends_last_shown {s : Session} {text : Text} {r : CompileReport}
    (hr : compileText s.parser text = .ok r) {before after : List StateEntry} {e : StateEntry}
    (he : r.compilation.entries = before ++ e :: after) (service : Service) {clicks : Int} (hclicks : 0 < clicks) :
    ∃ a : Artifact, r.compilation.artifact? e.name = some a ∧
      (click (run s text).session service (sendButtonId (ofString e.name)) (some clicks)).requests =
        a.posts s.endpoint s.timeout ∧
      shownLast? (e :: after) e.name = some a.preview ∧
      ((∀ x ∈ after, x.name ≠ e.name) → a.preview = e.preview) := by
  obtain ⟨ds, -, hc⟩ := compileProgram_of_compileText hr
  have hmem : e ∈ r.compilation.entries := by
    rw [he]
    exact List.mem_append_right before List.mem_cons_self
  obtain ⟨a, ha⟩ := Option.isSome_iff_exists.mp
    (Compilation.isSome_artifact?_iff.mpr (Compilation.mem_stateNames_of_mem_entries hmem))
  have hsession : (run s text).session = { s with result := some r.compilation } := by
    simp only [run, Session.run, hr]
  have hheld : (run s text).session.artifact? e.name = some a := by
    rw [hsession]
    exact ha
  have hshown : shownLast? (e :: after) e.name = some a.preview := by
    have hlast := shownLast?_entries hc e.name
    rw [he, shownLast?_append, ha, Option.map_some] at hlast
    rw [← List.nil_append (e :: after), shownLast?_append, hlast]
  refine ⟨a, ha, ?_, hshown, ?_⟩
  · rw [click_sendButtonId _ service e.name hclicks, requests_send hheld, hsession]
  · intro hafter
    rw [← List.nil_append (e :: after), shownLast?_append, shownLast?_eq_none hafter, Option.none_or] at hshown
    exact (Option.some.inj hshown).symm

/-- One of two states of one name, with a hyperedge of its own. -/
def doubled (label : String) : StateDecl := ⟨"s", .groups [[label]], .item (.inline ["r"]), none⟩

def doubledProgram : List Declaration := [.state (doubled "a"), .state (doubled "b")]

def doubledText : Text := .ofChars (programTree doubledProgram).write

def doubledArtifact (label : String) : Artifact := (Symbols.ofDeclarations doubledProgram).compileState (doubled label)

def doubledEntry (label : String) : StateEntry := ⟨"s", (doubledArtifact label).preview⟩

def doubledReport : CompileReport :=
  ⟨⟨["a", "b"].map fun l => ⟨"s", doubledArtifact l, (doubledArtifact l).preview⟩, (check doubledProgram).warnings⟩, 2⟩

def plainEditor : Session := .start treeParser Session.plainEndpoint none

/-- An endpoint with a control character in it is no address. -/
def brokenEditor : Session := .start treeParser "\n" none

def silent : Service := fun _ => .failure "ConnectError" ""

theorem compileText_doubledText : compileText treeParser doubledText = .ok doubledReport := by
  have hparse : parseDeclarations doubledText = .ok doubledProgram := by decide +kernel
  rw [compileText, treeParser, hparse]
  rfl

theorem click_sends_last_shown_doubledText :
    compileText treeParser doubledText = .ok doubledReport ∧
    doubledReport.compilation.entries = [] ++ doubledEntry "a" :: [doubledEntry "b"] ∧ (0 : Int) < 1 ∧
    ∃ a : Artifact, doubledReport.compilation.artifact? "s" = some a ∧
      (click (run plainEditor doubledText).session silent (sendButtonId (ofString "s")) (some 1)).requests =
        a.posts Session.plainEndpoint none ∧
      shownLast? [doubledEntry "a", doubledEntry "b"] "s" = some a.preview ∧
      ((∀ x ∈ [doubledEntry "b"], x.name ≠ "s") → a.preview = (doubledEntry "a").preview) := by
  have hentries : doubledReport.compilation.entries = [] ++ doubledEntry "a" :: [doubledEntry "b"] := rfl
  refine ⟨compileText_doubledText, hentries, Int.one_pos, ?_⟩
  exact click_sends_last_shown (s := plainEditor) compileText_doubledText hentries silent Int.one_pos

/-- The button of the first of two entries of a name sends no artifact of the preview beside it; and without
an address nothing is sent at all. -/
theorem click_sends_other_doubledText :
    compileText treeParser doubledText = .ok doubledReport ∧
    doubledEntry "a" ∈ doubledReport.compilation.entries ∧
    (∀ state ∈ doubledReport.compilation.states,
      (click (run plainEditor doubledText).session silent (sendButtonId (ofString "s")) (some 1)).requests =
          state.artifact.posts Session.plainEndpoint none →
        state.artifact.preview ≠ (doubledEntry "a").preview) ∧
    (click (run brokenEditor doubledText).session silent (sendButtonId (ofString "s")) (some 1)).requests = [] := by
  have hrun : ∀ s : Session, s.parser = treeParser →
      (run s doubledText).session = { s with result := some doubledReport.compilation } := by
    intro s hs
    simp only [run, Session.run, hs, compileText_doubledText]
  have hsent : ∀ s : Session, s.parser = treeParser →
      (click (run s doubledText).session silent (sendButtonId (ofString "s")) (some 1)).requests =
        (doubledArtifact "b").posts s.endpoint s.timeout := by
    intro s hs
    have hheld : (run s doubledText).session.artifact? "s" = some (doubledArtifact "b") := by
      rw [hrun s hs]
      rfl
    rw [click_sendButtonId _ _ _ Int.one_pos, requests_send hheld, hrun s hs]
  refine ⟨compileText_doubledText, List.mem_cons_self, ?_, hsent brokenEditor rfl⟩
  intro state hstate hposts
  rw [hsent plainEditor rfl] at hposts
  have hbody : (doubledArtifact "b").serialize = state.artifact.serialize :=
    congrArg Request.body (List.cons.inj hposts).1
  have hstates : state.artifact = doubledArtifact "a" ∨ state.artifact = doubledArtifact "b" := by
    obtain ⟨l, hl, rfl⟩ := List.mem_map.mp hstate
    simp only [List.mem_cons, List.not_mem_nil, or_false] at hl
    rcases hl with rfl | rfl
    · exact .inl rfl
    · exact .inr rfl
  rcases hstates with h | h <;> rw [h] at hbody ⊢
  · exact absurd hbody (by decide +kernel)
  · decide +kernel

end Editor

end HyperEvolve
