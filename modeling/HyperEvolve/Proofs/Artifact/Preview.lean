import HyperEvolve.Artifact.Preview
import HyperEvolve.Proofs.Document.RoundTrip
import HyperEvolve.Proofs.WireShape

/-!
# Previews are unambiguous

The preview of an artifact of the compiled shape tells the artifact when its labels hold no mark of the
preview itself. Only a list without hyperedges and a list of a single empty one are shown alike.
-/

namespace HyperEvolve

/-! ## Texts up to a mark -/

namespace Text

/-- The text in front of the first mark is determined, and so is the text after it. -/
theorem append_mark_inj {mark : CodePoint} {s s' r r' : Text} (hs : mark ∉ s) (hs' : mark ∉ s')
    (h : s ++ mark :: r = s' ++ mark :: r') : s = s' ∧ r = r' := by
  have hfront : ∀ {s r : Text}, mark ∉ s → (s ++ mark :: r).takeWhile (· ≠ mark) = s := by
    intro s r hs
    have hne : ∀ p ∈ s, decide (p ≠ mark) = true := fun p hp => decide_eq_true fun he => hs (he ▸ hp)
    rw [List.takeWhile_append_of_pos hne, List.takeWhile_cons_of_neg (by simp), List.append_nil]
  have hsame : s = s' := by rw [← hfront (r := r) hs, h, hfront hs']
  subst hsame
  exact ⟨rfl, (List.cons.inj (List.append_cancel_left h)).2⟩

theorem join_cons_cons (sep t t' : Text) (ts : List Text) :
    join sep (t :: t' :: ts) = t ++ (sep ++ join sep (t' :: ts)) := by
  rw [join, List.append_assoc]
  exact List.cons_ne_nil t' ts

theorem mem_join {sep : Text} {ts : List Text} {p : CodePoint} (h : p ∈ join sep ts) :
    p ∈ sep ∨ ∃ t ∈ ts, p ∈ t := by
  induction ts with
  | nil => cases h
  | cons t ts ih =>
      cases ts with
      | nil => exact .inr ⟨t, List.mem_cons_self, h⟩
      | cons t' ts =>
          rw [join_cons_cons, List.mem_append, List.mem_append] at h
          rcases h with h | h | h
          · exact .inr ⟨t, List.mem_cons_self, h⟩
          · exact .inl h
          · exact (ih h).imp_right fun ⟨x, hx, hp⟩ => ⟨x, List.mem_cons_of_mem t hx, hp⟩

/-- Texts without the mark are told by the text that has the mark between them. -/
theorem join_mark_inj {mark : CodePoint} {t t' : Text} {ts ts' : List Text} (ht : ∀ x ∈ t :: ts, mark ∉ x)
    (ht' : ∀ x ∈ t' :: ts', mark ∉ x) (h : join [mark] (t :: ts) = join [mark] (t' :: ts')) :
    t :: ts = t' :: ts' := by
  have hmark : ∀ (t u : Text) (us : List Text), mark ∈ join [mark] (t :: u :: us) := by
    intro t u us
    rw [join_cons_cons]
    exact List.mem_append_right t List.mem_cons_self
  induction ts generalizing t t' ts' with
  | nil =>
      cases ts' with
      | nil => exact congrArg (fun t => [t]) h
      | cons u' us' =>
          have hmem : mark ∈ join [mark] [t] := by
            rw [h]
            exact hmark t' u' us'
          exact absurd hmem (ht t List.mem_cons_self)
  | cons u us ih =>
      cases ts' with
      | nil => exact absurd (show mark ∈ join [mark] [t'] by rw [← h]; exact hmark t u us) (ht' t' List.mem_cons_self)
      | cons u' us' =>
          rw [List.forall_mem_cons] at ht ht'
          rw [join_cons_cons, join_cons_cons] at h
          obtain ⟨rfl, hrest⟩ := append_mark_inj ht.1 ht'.1 h
          rw [ih ht.2 ht'.2 hrest]

end Text

/-! ## Hyperedges -/

/-- A label that can be told in a preview: it is not empty and holds none of the marks around labels. -/
structure Text.Plain (t : Text) : Prop where
  nonempty : t ≠ []
  marks : ∀ c ∈ ['(', ')', ',', '\n'], CodePoint.ofChar c ∉ t

instance (t : Text) : Decidable t.Plain :=
  decidable_of_iff (t ≠ [] ∧ (['(', ')', ',', '\n'].all fun c => CodePoint.ofChar c ∉ t) = true)
    ⟨fun h => ⟨h.1, by simpa using h.2⟩, fun h => ⟨h.nonempty, by simpa using h.marks⟩⟩

def Hyperedge.Plain (e : Hyperedge) : Prop := ∀ t ∈ e.vertices, t.Plain

/-- A list of a single empty hyperedge put as the empty list. -/
def tidyEdges (es : List Hyperedge) : List Hyperedge := if es = [⟨[]⟩] then [] else es

namespace Preview

theorem edge_eq (e : Hyperedge) :
    edge e = .ofChar '(' :: (Text.join [.ofChar ','] e.vertices ++ [.ofChar ')']) := rfl

theorem notMem_join_vertices {e : Hyperedge} (he : e.Plain) {c : Char} (hc : c ∈ ['(', ')', '\n']) :
    CodePoint.ofChar c ∉ Text.join [.ofChar ','] e.vertices := by
  intro h
  rcases Text.mem_join h with h | ⟨t, ht, h⟩
  · rw [List.mem_singleton] at h
    have hcomma := CodePoint.ofChar_injective h
    subst hcomma
    revert hc
    decide
  · exact (he t ht).marks c (by revert hc; simp; tauto) h

theorem vertices_inj {e e' : Hyperedge} (he : e.Plain) (he' : e'.Plain)
    (h : Text.join [.ofChar ','] e.vertices = Text.join [.ofChar ','] e'.vertices) : e = e' := by
  have hnonempty : ∀ {t : Text} {ts : List Text}, t.Plain → Text.join [.ofChar ','] (t :: ts) ≠ [] := by
    intro t ts ht
    cases ts with
    | nil => exact ht.nonempty
    | cons u us => simp [Text.join_cons_cons]
  have hcomma : ∀ {e : Hyperedge}, e.Plain → ∀ t ∈ e.vertices, CodePoint.ofChar ',' ∉ t :=
    fun he t ht => (he t ht).marks ',' (by decide)
  obtain ⟨vs⟩ := e
  obtain ⟨vs'⟩ := e'
  cases vs with
  | nil =>
      cases vs' with
      | nil => rfl
      | cons t' ts' => exact absurd h.symm (hnonempty (he' t' List.mem_cons_self))
  | cons t ts =>
      cases vs' with
      | nil => exact absurd h (hnonempty (he t List.mem_cons_self))
      | cons t' ts' => exact congrArg _ (Text.join_mark_inj (hcomma he) (hcomma he') h)

/-- The closing parenthesis ends a hyperedge, whatever follows it. -/
theorem flatMap_edge_inj {es es' : List Hyperedge} (hes : ∀ e ∈ es, e.Plain) (hes' : ∀ e ∈ es', e.Plain)
    (h : es.flatMap edge = es'.flatMap edge) : es = es' := by
  induction es generalizing es' with
  | nil =>
      cases es' with
      | nil => rfl
      | cons e' es' => simp [edge_eq] at h
  | cons e es ih =>
      cases es' with
      | nil => simp [edge_eq] at h
      | cons e' es' =>
          rw [List.forall_mem_cons] at hes hes'
          simp only [List.flatMap_cons, edge_eq, List.cons_append, List.append_assoc, List.nil_append,
            List.cons.injEq, true_and] at h
          obtain ⟨hvertices, hrest⟩ := Text.append_mark_inj (notMem_join_vertices hes.1 (by decide))
            (notMem_join_vertices hes'.1 (by decide)) h
          rw [vertices_inj hes.1 hes'.1 hvertices, ih hes.2 hes'.2 hrest]

theorem edges_tidyEdges (es : List Hyperedge) : edges (tidyEdges es) = edges es := by
  rw [tidyEdges]
  split
  · rename_i h
    rw [h]
    rfl
  · rfl

theorem edges_inj {es es' : List Hyperedge} (hes : ∀ e ∈ es, e.Plain) (hes' : ∀ e ∈ es', e.Plain)
    (h : edges es = edges es') : tidyEdges es = tidyEdges es' := by
  -- An empty list is shown as the single empty hyperedge is.
  have hshown : ∀ es : List Hyperedge, (∀ e ∈ es, e.Plain) →
      ∃ shown, (∀ e ∈ shown, e.Plain) ∧ edges es = shown.flatMap edge ∧ tidyEdges es = tidyEdges shown := by
    intro es hes
    cases es with
    | nil => exact ⟨[⟨[]⟩], by simp [Hyperedge.Plain], rfl, rfl⟩
    | cons e es => exact ⟨e :: es, hes, rfl, rfl⟩
  obtain ⟨shown, hplain, hedges, htidy⟩ := hshown es hes
  obtain ⟨shown', hplain', hedges', htidy'⟩ := hshown es' hes'
  rw [hedges, hedges'] at h
  rw [htidy, htidy', flatMap_edge_inj hplain hplain' h]

/-! ## Lines -/

/-- The text stands on one line. -/
def OneLine (t : Text) : Prop := CodePoint.ofChar '\n' ∉ t

instance (t : Text) : Decidable (OneLine t) := inferInstanceAs (Decidable (_ ∉ _))

theorem OneLine.append {s t : Text} (hs : OneLine s) (ht : OneLine t) : OneLine (s ++ t) :=
  fun h => (List.mem_append.mp h).elim hs ht

theorem oneLine_indent (depth : Nat) : OneLine (indent depth) := by
  intro h
  obtain ⟨t, ht, h⟩ := List.mem_flatten.mp h
  rw [List.eq_of_mem_replicate ht] at h
  revert h
  decide

theorem oneLine_edges {es : List Hyperedge} (hes : ∀ e ∈ es, e.Plain) : OneLine (edges es) := by
  cases es with
  | nil => decide
  | cons e es =>
      intro h
      obtain ⟨e', he', h⟩ := List.mem_flatMap.mp h
      rw [edge_eq, List.mem_cons, List.mem_append, List.mem_singleton] at h
      rcases h with h | h | h
      · exact absurd h (by decide)
      · exact notMem_join_vertices (hes e' he') (by decide) h
      · exact absurd h (by decide)

theorem oneLine_steps (depth : Nat) (n : Option Int) : OneLine (steps depth n) := by
  cases n with
  | none => exact (oneLine_indent depth).append (by decide)
  | some n =>
      refine ((oneLine_indent depth).append (by decide)).append fun h => ?_
      obtain ⟨c, hc, he⟩ := List.mem_map.mp h
      rw [CodePoint.ofChar_injective he] at hc
      exact absurd (Document.printable_writeInt n '\n' hc) (by decide)

theorem steps_injective (depth : Nat) : Function.Injective (steps depth) := by
  have hsteps : ∀ n, steps depth n =
      indent depth ++ (Text.ofString "steps: " ++ Text.ofChars (n.elim ['-'] Document.writeInt)) := by
    intro n
    cases n with
    | none => rfl
    | some n => exact List.append_assoc _ _ _
  intro n m h
  rw [hsteps, hsteps, List.append_right_inj, List.append_right_inj] at h
  have hchars := List.map_injective_iff.mpr CodePoint.ofChar_injective h
  cases n with
  | none =>
      cases m with
      | none => rfl
      | some m => exact absurd hchars.symm (Document.writeInt_ne_sign m)
  | some n =>
      cases m with
      | none => exact absurd hchars (Document.writeInt_ne_sign n)
      | some m => exact congrArg some (Document.writeInt_injective hchars)

/-- A role name without a colon is told by the line of its role. -/
theorem role_inj {depth : Nat} {r r' : Text × List Hyperedge} (hr : CodePoint.ofChar ':' ∉ r.1)
    (hr' : CodePoint.ofChar ':' ∉ r'.1) (hes : ∀ e ∈ r.2, e.Plain) (hes' : ∀ e ∈ r'.2, e.Plain)
    (h : role depth r = role depth r') : r.1 = r'.1 ∧ tidyEdges r.2 = tidyEdges r'.2 := by
  have hrole : ∀ r : Text × List Hyperedge, role depth r =
      indent (depth + 1) ++ (r.1 ++ .ofChar ':' :: .ofChar ' ' :: edges r.2) := by
    intro r
    simp only [role, List.append_assoc]
    rfl
  rw [hrole, hrole, List.append_right_inj] at h
  obtain ⟨hname, hedges⟩ := Text.append_mark_inj hr hr' h
  exact ⟨hname, edges_inj hes hes' (List.cons.inj hedges).2⟩

end Preview

/-! ## Tidy artifacts -/

def Layer.tidied (layer : Layer) : Layer := { layer with rule := layer.rule.map tidyEdges }

def Hypergraph.tidied : Hypergraph → Hypergraph
  | .edges es => .edges (tidyEdges es)
  | .evolved base layer => .evolved base.tidied layer.tidied

/-- The artifact with every list of a single empty hyperedge put as the empty list. -/
def Artifact.tidied (a : Artifact) : Artifact := { a.toLayer.tidied with hypergraph := a.hypergraph.tidied }

namespace Preview

theorem rule_tidied (depth : Nat) (r : Table Text (List Hyperedge)) : rule depth (r.map tidyEdges) = rule depth r := by
  obtain ⟨entries, hnodup⟩ := r
  have hrole : ∀ e : Text × List Hyperedge, role depth (e.1, tidyEdges e.2) = role depth e :=
    fun e => by rw [role, edges_tidyEdges, role]
  cases entries with
  | nil => rfl
  | cons e es => simp [rule, Table.map, hrole]

theorem layer_tidied (depth : Nat) (l : Layer) : layer depth l.tidied = layer depth l := by
  rw [layer, Layer.tidied, rule_tidied, layer]

theorem hypergraph_tidied (depth : Nat) (h : Hypergraph) : hypergraph depth h.tidied = hypergraph depth h := by
  induction h generalizing depth with
  | edges es => rw [Hypergraph.tidied, hypergraph, edges_tidyEdges, hypergraph]
  | evolved base l ih => rw [Hypergraph.tidied, hypergraph, ih, layer_tidied, hypergraph]

end Preview

theorem Artifact.preview_tidied (a : Artifact) : a.tidied.preview = a.preview := by
  have hlines : Preview.lines a.tidied = Preview.lines a := by
    change Preview.hypergraph 0 a.hypergraph.tidied ++ Preview.layer 0 a.toLayer.tidied = _
    rw [Preview.hypergraph_tidied, Preview.layer_tidied, Preview.lines]
  rw [preview, hlines, preview]

/-! ## Hypergraphs -/

/-- A hypergraph as it stands in a compiled artifact, whose labels can be told. -/
structure Hypergraph.Displayable (h : Hypergraph) : Prop where
  nested : ∀ l ∈ h.layers, l.rule = ∅
  clean : ∀ l ∈ h.layers, l.clean = true
  ground : ∀ e ∈ h.ground, e.Plain

theorem Hypergraph.Displayable.base {base : Hypergraph} {l : Layer} (h : (evolved base l).Displayable) :
    base.Displayable where
  nested l' hl' := h.nested l' (List.mem_cons_of_mem l hl')
  clean l' hl' := h.clean l' (List.mem_cons_of_mem l hl')
  ground := h.ground

theorem Hypergraph.Displayable.layer_eq {base : Hypergraph} {l : Layer} (h : (evolved base l).Displayable) :
    l = ⟨∅, l.steps, true⟩ := by
  have hrule := h.nested l List.mem_cons_self
  have hclean := h.clean l List.mem_cons_self
  obtain ⟨rule, steps, clean⟩ := l
  dsimp only at hrule hclean
  rw [hrule, hclean]

namespace Preview

theorem hypergraph_edges (depth : Nat) (es : List Hyperedge) :
    hypergraph depth (.edges es) = [indent depth ++ (Text.ofString "hypergraph: " ++ edges es)] :=
  congrArg (fun t => [t]) (List.append_assoc _ _ _)

theorem hypergraph_evolved (depth : Nat) (base : Hypergraph) (n : Option Int) :
    hypergraph depth (.evolved base ⟨∅, n, true⟩) = (indent depth ++ Text.ofString "hypergraph:") ::
      (hypergraph (depth + 1) base ++
        [indent (depth + 1) ++ Text.ofString "rule: -", steps (depth + 1) n]) := rfl

theorem oneLine_hypergraph {h : Hypergraph} (hh : h.Displayable) (depth : Nat) :
    ∀ t ∈ hypergraph depth h, OneLine t := by
  induction h generalizing depth with
  | edges es =>
      rw [hypergraph_edges, List.forall_mem_singleton]
      exact (oneLine_indent depth).append (.append (by decide) (oneLine_edges hh.ground))
  | evolved base l ih =>
      have hbase := ih hh.base (depth + 1)
      have hindent := oneLine_indent (depth + 1)
      rw [hh.layer_eq, hypergraph_evolved]
      simp only [List.forall_mem_cons, List.forall_mem_append, List.not_mem_nil, false_implies, implies_true,
        and_true]
      exact ⟨(oneLine_indent depth).append (by decide), hbase, hindent.append (by decide), oneLine_steps _ _⟩

/-- The line of hyperedges goes on after the colon, the line that opens a block does not. -/
theorem line_edges_ne_line_evolved (es : List Hyperedge) :
    Text.ofString "hypergraph: " ++ edges es ≠ Text.ofString "hypergraph:" := by
  intro h
  have hlength := congrArg List.length h
  have hlong : (Text.ofString "hypergraph: ").length = (Text.ofString "hypergraph:").length + 1 := by decide
  rw [List.length_append, hlong] at hlength
  omega

/-- The lines of a hypergraph tell where they end and, but for the one ambiguity, what they show. -/
theorem hypergraph_append_inj {h h' : Hypergraph} (hh : h.Displayable) (hh' : h'.Displayable) {depth : Nat}
    {r r' : List Text} (heq : hypergraph depth h ++ r = hypergraph depth h' ++ r') :
    h.tidied = h'.tidied ∧ r = r' := by
  induction h generalizing h' depth r r' with
  | edges es =>
      cases h' with
      | edges es' =>
          rw [hypergraph_edges, hypergraph_edges] at heq
          obtain ⟨hline, hrest⟩ := List.cons.inj heq
          rw [List.append_right_inj, List.append_right_inj] at hline
          exact ⟨congrArg Hypergraph.edges (edges_inj hh.ground hh'.ground hline), hrest⟩
      | evolved base' l' =>
          rw [hypergraph_edges, hh'.layer_eq, hypergraph_evolved] at heq
          exact absurd (List.append_cancel_left (List.cons.inj heq).1) (line_edges_ne_line_evolved es)
  | evolved base l ih =>
      cases h' with
      | edges es' =>
          rw [hypergraph_edges, hh.layer_eq, hypergraph_evolved] at heq
          exact absurd (List.append_cancel_left (List.cons.inj heq).1).symm (line_edges_ne_line_evolved es')
      | evolved base' l' =>
          rw [hh.layer_eq, hh'.layer_eq] at heq ⊢
          rw [hypergraph_evolved, hypergraph_evolved] at heq
          have htail := (List.cons.inj heq).2
          rw [List.append_eq, List.append_eq, List.append_assoc, List.append_assoc] at htail
          obtain ⟨hbase, hlayer⟩ := ih hh.base hh'.base htail
          simp only [List.cons_append, List.nil_append, List.cons.injEq, true_and] at hlayer
          rw [Hypergraph.tidied, Hypergraph.tidied, hbase, steps_injective _ hlayer.1]
          exact ⟨rfl, hlayer.2⟩

end Preview

/-! ## Artifacts -/

/-- An artifact of the compiled shape whose labels can be told. -/
structure Artifact.Displayable (a : Artifact) : Prop where
  roles : a.rule.keys.Perm [Role.left, Role.interface, Role.right] ∨ a.rule.keys = [Role.whole]
  nested : ∀ l ∈ a.hypergraph.layers, l.rule = ∅
  clean : ∀ l ∈ a.layers, l.clean = true
  labels : ∀ e ∈ a.hyperedges, ∀ t ∈ e.vertices, t.Plain

namespace Artifact.Displayable

variable {a b : Artifact}

theorem hypergraph (h : a.Displayable) : a.hypergraph.Displayable where
  nested := h.nested
  clean l hl := h.clean l (List.mem_cons_of_mem _ hl)
  ground e he := h.labels e (List.mem_append_right _ he)

theorem role_plain (h : a.Displayable) {r : Text × List Hyperedge} (hr : r ∈ a.rule.entries) :
    CodePoint.ofChar ':' ∉ r.1 ∧ Preview.OneLine r.1 ∧ ∀ e ∈ r.2, e.Plain := by
  have hnames : ∀ t ∈ [Role.left, Role.interface, Role.right, Role.whole],
      CodePoint.ofChar ':' ∉ t ∧ Preview.OneLine t := by decide
  have hkey : r.1 ∈ a.rule.keys := List.mem_map_of_mem hr
  have hname : r.1 ∈ [Role.left, Role.interface, Role.right, Role.whole] := by
    rcases h.roles with hroles | hroles
    · have hmem := hroles.mem_iff.mp hkey
      simp only [List.mem_cons, List.not_mem_nil, or_false] at hmem ⊢
      tauto
    · rw [hroles] at hkey
      simp only [List.mem_cons, List.not_mem_nil, or_false] at hkey ⊢
      tauto
  refine ⟨(hnames _ hname).1, (hnames _ hname).2, fun e he => h.labels e (List.mem_append_left _ ?_)⟩
  exact List.mem_flatMap.mpr ⟨a.toLayer, List.mem_cons_self, List.mem_flatMap.mpr ⟨r, hr, he⟩⟩

/-- There is a role, so the rule is shown as a block. -/
theorem layer_eq (h : a.Displayable) : Preview.layer 0 a.toLayer =
    (Preview.indent 0 ++ Text.ofString "rule:") ::
      (a.rule.entries.map (Preview.role 0) ++ [Preview.steps 0 a.steps]) := by
  have hne : a.rule.entries ≠ [] := by
    intro hnil
    rcases h.roles with hroles | hroles
    · simpa [Table.keys, hnil] using hroles.length_eq
    · simp [Table.keys, hnil] at hroles
  obtain ⟨e, es, hes⟩ := List.exists_cons_of_ne_nil hne
  rw [Preview.layer, Preview.rule, hes]
  rfl

theorem oneLine_lines (h : a.Displayable) : ∀ t ∈ Preview.lines a, Preview.OneLine t := by
  have hrole : ∀ t ∈ a.rule.entries.map (Preview.role 0), Preview.OneLine t := by
    intro t ht
    obtain ⟨r, hr, rfl⟩ := List.mem_map.mp ht
    obtain ⟨-, hname, hedges⟩ := h.role_plain hr
    exact (((Preview.oneLine_indent 1).append hname).append (by decide)).append (Preview.oneLine_edges hedges)
  rw [Preview.lines, h.layer_eq, List.forall_mem_append, List.forall_mem_cons, List.forall_mem_append,
    List.forall_mem_singleton]
  exact ⟨Preview.oneLine_hypergraph h.hypergraph 0, by decide, hrole, Preview.oneLine_steps 0 a.steps⟩

theorem roles_inj (ha : a.Displayable) (hb : b.Displayable)
    (h : a.rule.entries.map (Preview.role 0) = b.rule.entries.map (Preview.role 0)) :
    a.rule.map tidyEdges = b.rule.map tidyEdges := by
  refine Table.ext_entries (map_eq_of_map_eq (fun r hr r' hr' he => ?_) h)
  obtain ⟨hcolon, -, hplain⟩ := ha.role_plain hr
  obtain ⟨hcolon', -, hplain'⟩ := hb.role_plain hr'
  obtain ⟨hname, hedges⟩ := Preview.role_inj hcolon hcolon' hplain hplain' he
  rw [hname, hedges]

theorem tidied_eq_of_lines_eq (ha : a.Displayable) (hb : b.Displayable) (h : Preview.lines a = Preview.lines b) :
    a.tidied = b.tidied := by
  obtain ⟨hhypergraph, hlayer⟩ := Preview.hypergraph_append_inj ha.hypergraph hb.hypergraph h
  rw [ha.layer_eq, hb.layer_eq] at hlayer
  obtain ⟨hroles, hsteps⟩ := List.append_inj' (List.cons.inj hlayer).2 rfl
  have hrule := ha.roles_inj hb hroles
  have hsteps := Preview.steps_injective 0 (List.cons.inj hsteps).1
  have hclean : a.clean = b.clean :=
    (ha.clean _ List.mem_cons_self).trans (hb.clean _ List.mem_cons_self).symm
  rw [Artifact.tidied, Artifact.tidied, Layer.tidied, Layer.tidied, hhypergraph, hrule, hsteps, hclean]

end Artifact.Displayable

theorem Preview.lines_ne_nil (a : Artifact) : Preview.lines a ≠ [] := by
  rw [Preview.lines]
  cases a.hypergraph <;> simp [Preview.hypergraph]

/-- Displayable artifacts have the same preview exactly when they are equal up to writing a list of a single
empty hyperedge as the empty list. -/
theorem Artifact.preview_eq_iff {a b : Artifact} (ha : a.Displayable) (hb : b.Displayable) :
    a.preview = b.preview ↔ a.tidied = b.tidied := by
  constructor
  · intro h
    have hlines : Preview.lines a = Preview.lines b := by
      obtain ⟨t, ts, hts⟩ := List.exists_cons_of_ne_nil (Preview.lines_ne_nil a)
      obtain ⟨t', ts', hts'⟩ := List.exists_cons_of_ne_nil (Preview.lines_ne_nil b)
      have hone := ha.oneLine_lines
      have hone' := hb.oneLine_lines
      rw [preview, preview] at h
      rw [hts] at h hone ⊢
      rw [hts'] at h hone' ⊢
      exact Text.join_mark_inj hone hone' h
    exact ha.tidied_eq_of_lines_eq hb hlines
  · intro h
    rw [← preview_tidied a, h, preview_tidied]

/-- Two steps over an empty hypergraph, with a rule of three parts of which the last is empty. An empty list
of hyperedges may be given as a list of a single empty one. -/
def steppedArtifact (nothing : List Hyperedge) : Artifact where
  rule := .ofList [(Role.left, [⟨["a", "b: c"]⟩, ⟨[]⟩]), (Role.interface, [⟨[]⟩, ⟨[]⟩]), (Role.right, nothing)]
  steps := some (-3)
  clean := true
  hypergraph := .evolved (.evolved (.edges nothing) ⟨∅, none, true⟩) ⟨∅, some 12, true⟩

theorem steppedArtifact_displayable {nothing : List Hyperedge} (h : nothing = [] ∨ nothing = [⟨[]⟩]) :
    (steppedArtifact nothing).Displayable := by
  rcases h with rfl | rfl
  · exact ⟨.inl (by decide), by decide, by decide, by decide⟩
  · exact ⟨.inl (by decide), by decide, by decide, by decide⟩

theorem preview_eq_iff_steppedArtifact :
    steppedArtifact [] ≠ steppedArtifact [⟨[]⟩] ∧
    (steppedArtifact []).preview = (steppedArtifact [⟨[]⟩]).preview ∧
    (steppedArtifact []).tidied = (steppedArtifact [⟨[]⟩]).tidied := by
  have hpreview : (steppedArtifact []).preview = (steppedArtifact [⟨[]⟩]).preview := by decide
  have htidied := (Artifact.preview_eq_iff (steppedArtifact_displayable (.inl rfl))
    (steppedArtifact_displayable (.inr rfl))).mp hpreview
  exact ⟨by decide, hpreview, htidied⟩

end HyperEvolve
