import HyperEvolve.Artifact.Wire
import HyperEvolve.Proofs.Document.Value
import HyperEvolve.Proofs.Traversal

/-!
# Which documents are artifacts

The grammar of wire documents is stated without the decoder: what has to stand under which name, and of
which kind it is. The decoder accepts exactly the documents of the grammar, at every depth of nesting.
-/

namespace HyperEvolve

open Document

namespace Wire

/-! ## The grammar -/

def IsEdge (d : Document) : Prop :=
  ∃ fields vs, d = .object fields ∧ field? fields "vertices" = some (.array vs)

def IsEdges (d : Document) : Prop := ∃ es, d = .array es ∧ ∀ e ∈ es, IsEdge e

/-- The empty text and the empty object stand for no edges. -/
def IsRole (d : Document) : Prop := IsEdges d ∨ d = .text [] ∨ d = .object []

def IsRule (d : Document) : Prop := ∃ roles, d = .object roles ∧ ∀ r ∈ roles, IsRole r.2

def IsSteps (d : Document) : Prop := d = .null ∨ ∃ n, d = .int n

def IsClean (d : Document) : Prop := ∃ b, d = .bool b

/-- The fields of one level under their names. -/
def Level.fields (l : Level) : List (Text × Document) :=
  [("hypergraph", l.hypergraph), ("rule", l.rule), ("steps", l.steps), ("clean", l.clean)]

/-- An object has the four fields of a level, and may have others. -/
def HasLevel (fields : List (Text × Document)) (l : Level) : Prop :=
  ∀ f ∈ l.fields, field? fields f.1 = some f.2

/-- The fields of a level other than its hypergraph. -/
structure IsLayer (l : Level) : Prop where
  rule : IsRule l.rule
  steps : IsSteps l.steps
  clean : IsClean l.clean

inductive IsArtifact : Document → Prop where
  | ground {fields : List (Text × Document)} {l : Level} (hlevel : HasLevel fields l) (hlayer : IsLayer l)
      (hbase : IsEdges l.hypergraph) : IsArtifact (.object fields)
  | evolved {fields : List (Text × Document)} {l : Level} (hlevel : HasLevel fields l) (hlayer : IsLayer l)
      (hbase : IsArtifact l.hypergraph) : IsArtifact (.object fields)

/-- What a level may have as its hypergraph. -/
def IsHypergraph (d : Document) : Prop := IsEdges d ∨ IsArtifact d

/-! ## One level -/

variable {d : Document} {l : Level}

theorem hasLevel_iff {fields : List (Text × Document)} : HasLevel fields l ↔
    field? fields "hypergraph" = some l.hypergraph ∧ field? fields "rule" = some l.rule ∧
      field? fields "steps" = some l.steps ∧ field? fields "clean" = some l.clean := by
  simp only [HasLevel, Level.fields, List.forall_mem_cons, List.not_mem_nil, false_implies, implies_true, and_true]

theorem require_eq_ok_iff {fields : List (Text × Document)} {name : String} :
    require fields name = .ok d ↔ field? fields name = some d := by
  rw [require]
  cases field? fields name <;> simp

theorem level_eq_ok_iff : level d = .ok l ↔ ∃ fields, d = .object fields ∧ HasLevel fields l := by
  cases d with
  | object fields =>
      simp only [level, bind_eq_ok_iff, require_eq_ok_iff, pure, Except.pure, Except.ok.injEq, Document.object.injEq,
        hasLevel_iff]
      constructor
      · rintro ⟨_, hh, _, hr, _, hs, _, hc, rfl⟩
        exact ⟨fields, rfl, hh, hr, hs, hc⟩
      · rintro ⟨_, rfl, hh, hr, hs, hc⟩
        exact ⟨_, hh, _, hr, _, hs, _, hc, rfl⟩
  | _ => simp [level]

/-! ## Edges, roles and rules -/

theorem edge_eq_ok_iff {e : Hyperedge} : edge d = .ok e ↔
    ∃ fields vs, d = .object fields ∧ field? fields "vertices" = some (.array vs) ∧ e = ⟨vs.map shown⟩ := by
  cases d with
  | object fields =>
      rw [edge]
      split
      · rename_i vs hvs
        simp [hvs, eq_comm]
      · rename_i hvs
        simpa using fun vs h => absurd h (hvs vs)
  | _ => simp [edge]

theorem exists_edge_iff : (∃ e, edge d = .ok e) ↔ IsEdge d := by
  simp only [edge_eq_ok_iff, IsEdge]
  constructor
  · rintro ⟨e, fields, vs, hd, hvs, -⟩
    exact ⟨fields, vs, hd, hvs⟩
  · rintro ⟨fields, vs, hd, hvs⟩
    exact ⟨_, fields, vs, hd, hvs, rfl⟩

theorem exists_mapM_edge_iff {ds : List Document} : (∃ es, ds.mapM edge = .ok es) ↔ ∀ d ∈ ds, IsEdge d := by
  simp only [exists_mapM_eq_ok_iff, exists_edge_iff]

theorem isEdges_array {ds : List Document} : IsEdges (.array ds) ↔ ∀ d ∈ ds, IsEdge d := by
  constructor
  · rintro ⟨_, hds, h⟩
    cases hds
    exact h
  · exact fun h => ⟨ds, rfl, h⟩

theorem not_isEdge_text (t : Text) : ¬IsEdge (.text t) := by
  rintro ⟨_, _, h, -⟩
  cases h

/-- No text is an edge, so what lists texts has no edges only when it lists nothing. -/
theorem exists_mapM_edge_texts_iff {ts : List Text} : (∃ es, (ts.map Document.text).mapM edge = .ok es) ↔ ts = [] := by
  rw [exists_mapM_edge_iff]
  cases ts with
  | nil => simp
  | cons t ts => simp [not_isEdge_text]

theorem exists_roleEdges_iff : (∃ es, roleEdges d = .ok es) ↔ IsRole d := by
  cases d with
  | array ds =>
      have hlisted : roleEdges (.array ds) = ds.mapM edge := rfl
      simp only [hlisted, exists_mapM_edge_iff, IsRole, isEdges_array, reduceCtorEq, or_false]
  | text t =>
      have hlisted : roleEdges (.text t) = ((t.map fun p => [p]).map Document.text).mapM edge := by
        rw [List.map_map]
        rfl
      rw [hlisted, exists_mapM_edge_texts_iff, List.map_eq_nil_iff]
      simp [IsRole, IsEdges]
  | object fields =>
      have hlisted : roleEdges (.object fields) = ((fields.map Prod.fst).map Document.text).mapM edge := by
        rw [List.map_map]
        rfl
      rw [hlisted, exists_mapM_edge_texts_iff, List.map_eq_nil_iff]
      simp [IsRole, IsEdges]
  | _ => simp [roleEdges, members, bind, Except.bind, IsRole, IsEdges]

/-- A role under its name. -/
def namedRole (f : Text × Document) : Result (Text × List Hyperedge) := do return (f.1, ← roleEdges f.2)

theorem rule_object (roles : List (Text × Document)) :
    rule (.object roles) = (do return .ofList (← roles.mapM namedRole)) := rfl

theorem namedRole_eq_ok_iff {f : Text × Document} {p : Text × List Hyperedge} :
    namedRole f = .ok p ↔ p.1 = f.1 ∧ roleEdges f.2 = .ok p.2 := by
  obtain ⟨k, es⟩ := p
  simp only [namedRole, bind_eq_ok_iff, pure, Except.pure, Except.ok.injEq, Prod.mk.injEq]
  constructor
  · rintro ⟨_, hes, rfl, rfl⟩
    exact ⟨rfl, hes⟩
  · rintro ⟨rfl, hes⟩
    exact ⟨es, hes, rfl, rfl⟩

theorem exists_namedRole_iff {f : Text × Document} : (∃ p, namedRole f = .ok p) ↔ IsRole f.2 := by
  simp only [namedRole_eq_ok_iff, ← exists_roleEdges_iff]
  constructor
  · rintro ⟨p, -, hes⟩
    exact ⟨p.2, hes⟩
  · rintro ⟨es, hes⟩
    exact ⟨(f.1, es), rfl, hes⟩

theorem rule_eq_ok_iff {r : Table Text (List Hyperedge)} : rule d = .ok r ↔
    ∃ roles ps, d = .object roles ∧ roles.mapM namedRole = .ok ps ∧ r = .ofList ps := by
  cases d with
  | object roles =>
      simp only [rule_object, bind_eq_ok_iff, pure, Except.pure, Except.ok.injEq, Document.object.injEq]
      constructor
      · rintro ⟨ps, hps, rfl⟩
        exact ⟨roles, ps, rfl, hps, rfl⟩
      · rintro ⟨_, ps, rfl, hps, rfl⟩
        exact ⟨ps, hps, rfl⟩
  | _ => simp [rule]

theorem exists_rule_iff : (∃ r, rule d = .ok r) ↔ IsRule d := by
  simp only [rule_eq_ok_iff, IsRule, ← exists_namedRole_iff, ← exists_mapM_eq_ok_iff]
  constructor
  · rintro ⟨_, roles, ps, hd, hps, rfl⟩
    exact ⟨roles, hd, ps, hps⟩
  · rintro ⟨roles, hd, ps, hps⟩
    exact ⟨_, roles, ps, hd, hps, rfl⟩

/-! ## The rest of a level -/

theorem steps_eq_ok_iff {n : Option Int} : steps d = .ok n ↔ d = stepsDocument n := by
  cases d <;> cases n <;> simp [steps, stepsDocument, eq_comm]

theorem exists_steps_iff : (∃ n, steps d = .ok n) ↔ IsSteps d := by
  simp [steps_eq_ok_iff, Option.exists, stepsDocument, IsSteps]

theorem clean_eq_ok_iff {b : Bool} : clean d = .ok b ↔ d = .bool b := by
  cases d <;> simp [clean]

theorem exists_clean_iff : (∃ b, clean d = .ok b) ↔ IsClean d := by
  simp only [clean_eq_ok_iff, IsClean]

theorem layer_eq_ok_iff {y : Layer} :
    layer l = .ok y ↔ rule l.rule = .ok y.rule ∧ steps l.steps = .ok y.steps ∧ clean l.clean = .ok y.clean := by
  simp only [layer, bind_eq_ok_iff, pure, Except.pure, Except.ok.injEq]
  constructor
  · rintro ⟨_, hr, _, hs, _, hc, rfl⟩
    exact ⟨hr, hs, hc⟩
  · rintro ⟨hr, hs, hc⟩
    exact ⟨_, hr, _, hs, _, hc, rfl⟩

theorem exists_layer_iff : (∃ y, layer l = .ok y) ↔ IsLayer l := by
  simp only [layer_eq_ok_iff]
  constructor
  · rintro ⟨y, hr, hs, hc⟩
    exact ⟨exists_rule_iff.mp ⟨_, hr⟩, exists_steps_iff.mp ⟨_, hs⟩, exists_clean_iff.mp ⟨_, hc⟩⟩
  · rintro ⟨hr, hs, hc⟩
    obtain ⟨r, hr⟩ := exists_rule_iff.mpr hr
    obtain ⟨n, hs⟩ := exists_steps_iff.mpr hs
    obtain ⟨b, hc⟩ := exists_clean_iff.mpr hc
    exact ⟨⟨r, n, b⟩, hr, hs, hc⟩

/-! ## Down the levels -/

theorem depth_le_depthFields {fields : List (Text × Document)} {f : Text × Document} (h : f ∈ fields) :
    depth f.2 ≤ depthFields fields := by
  induction fields with
  | nil => cases h
  | cons g fields ih =>
      obtain ⟨k, e⟩ := g
      rw [depthFields]
      rcases List.mem_cons.mp h with rfl | h
      · exact Nat.le_max_left _ _
      · exact Nat.le_trans (ih h) (Nat.le_max_right _ _)

theorem depth_hypergraph_lt (h : level d = .ok l) : depth l.hypergraph < depth d := by
  obtain ⟨fields, rfl, hl⟩ := level_eq_ok_iff.mp h
  exact Nat.lt_succ_of_le (depth_le_depthFields (mem_of_field? (hasLevel_iff.mp hl).1))

/-- What holds of a document as soon as it holds of the hypergraph of its level holds of every document. -/
theorem level_induction {P : Document → Prop} (h : ∀ d, (∀ l, level d = .ok l → P l.hypergraph) → P d) (d : Document) :
    P d := by
  induction hn : depth d using Nat.strong_induction_on generalizing d with
  | _ n ih =>
    refine h d fun l hl => ih _ ?_ l.hypergraph rfl
    exact hn ▸ depth_hypergraph_lt hl

theorem hypergraph_array (n : Nat) (ds : List Document) :
    hypergraph n (.array ds) = (do return .edges (← ds.mapM edge)) := by
  cases n <;> rfl

theorem hypergraph_succ (n : Nat) (hd : ∀ ds, d ≠ .array ds) :
    hypergraph (n + 1) d = (do
      let l ← level d
      let base ← hypergraph n l.hypergraph
      return .evolved base (← layer l)) := by
  cases d with
  | array ds => exact absurd rfl (hd ds)
  | _ => rfl

theorem depth_pos (d : Document) : 0 < depth d := by
  cases d <;> exact Nat.succ_pos _

/-- A hypergraph read with as much depth as it has. -/
def wholeHypergraph (d : Document) : Result Hypergraph := hypergraph (depth d) d

/-- More depth than a document has does not change what is read. -/
theorem hypergraph_eq_whole {n : Nat} (hn : depth d ≤ n) : hypergraph n d = wholeHypergraph d := by
  induction d using level_induction generalizing n with
  | _ d ih =>
    by_cases hd : ∃ ds, d = .array ds
    · obtain ⟨ds, rfl⟩ := hd
      rw [wholeHypergraph, hypergraph_array, hypergraph_array]
    · rw [not_exists] at hd
      have hpos := depth_pos d
      obtain ⟨k, hk⟩ : ∃ k, depth d = k + 1 := ⟨depth d - 1, by omega⟩
      obtain ⟨n, rfl⟩ : ∃ m, n = m + 1 := ⟨n - 1, by omega⟩
      rw [wholeHypergraph, hk, hypergraph_succ n hd, hypergraph_succ k hd]
      cases hl : level d with
      | error why => rfl
      | ok l =>
          -- Both spend one on this level, and what is left is still enough for the hypergraph of the level.
          have hlt := depth_hypergraph_lt hl
          have hbase : hypergraph n l.hypergraph = hypergraph k l.hypergraph :=
            (ih l hl (by omega)).trans (ih l hl (by omega)).symm
          simp only [bind, Except.bind, hbase]

theorem artifact_eq (d : Document) :
    artifact d = (do
      let l ← level d
      let base ← wholeHypergraph l.hypergraph
      return { ← layer l with hypergraph := base }) := by
  rw [artifact]
  cases hl : level d with
  | error why => rfl
  | ok l =>
      have hbase := hypergraph_eq_whole (depth_hypergraph_lt hl).le
      simp only [bind, Except.bind, hbase]

/-- What is no array is read as a hypergraph the way it is read as an artifact. -/
theorem wholeHypergraph_eq (hd : ∀ ds, d ≠ .array ds) :
    wholeHypergraph d = (do return (← artifact d).evolved) := by
  obtain ⟨k, hk⟩ : ∃ k, depth d = k + 1 := ⟨depth d - 1, by have := depth_pos d; omega⟩
  rw [wholeHypergraph, hk, hypergraph_succ k hd, artifact_eq]
  cases hl : level d with
  | error why => rfl
  | ok l =>
      have hlt := depth_hypergraph_lt hl
      have hbase : hypergraph k l.hypergraph = wholeHypergraph l.hypergraph := hypergraph_eq_whole (by omega)
      simp only [bind, Except.bind, hbase]
      cases wholeHypergraph l.hypergraph with
      | error why => rfl
      | ok base => cases layer l <;> rfl

theorem wholeHypergraph_array (ds : List Document) :
    wholeHypergraph (.array ds) = (do return .edges (← ds.mapM edge)) := hypergraph_array _ ds

theorem artifact_eq_ok_iff {a : Artifact} :
    artifact d = .ok a ↔
      ∃ l, level d = .ok l ∧ wholeHypergraph l.hypergraph = .ok a.hypergraph ∧ layer l = .ok a.toLayer := by
  simp only [artifact_eq, bind_eq_ok_iff, pure, Except.pure, Except.ok.injEq]
  constructor
  · rintro ⟨l, hl, base, hbase, y, hy, rfl⟩
    exact ⟨l, hl, hbase, hy⟩
  · rintro ⟨l, hl, hbase, hy⟩
    exact ⟨l, hl, _, hbase, _, hy, rfl⟩

theorem wholeHypergraph_eq_ok_iff {h : Hypergraph} :
    wholeHypergraph d = .ok h ↔
      (∃ ds es, d = .array ds ∧ ds.mapM edge = .ok es ∧ h = .edges es) ∨ ∃ a, artifact d = .ok a ∧ h = a.evolved := by
  by_cases hd : ∃ ds, d = .array ds
  · obtain ⟨ds, rfl⟩ := hd
    have hno : ∀ a, artifact (.array ds) ≠ .ok a := by
      intro a ha
      obtain ⟨l, hl, -⟩ := artifact_eq_ok_iff.mp ha
      cases hl
    simp only [wholeHypergraph_array, bind_eq_ok_iff, pure, Except.pure, Except.ok.injEq, hno, false_and, exists_false,
      or_false, Document.array.injEq]
    constructor
    · rintro ⟨es, hes, rfl⟩
      exact ⟨ds, es, rfl, hes, rfl⟩
    · rintro ⟨_, es, rfl, hes, rfl⟩
      exact ⟨es, hes, rfl⟩
  · rw [not_exists] at hd
    simp only [wholeHypergraph_eq hd, bind_eq_ok_iff, pure, Except.pure, Except.ok.injEq, hd, false_and, exists_false,
      false_or, eq_comm (a := h)]

/-! ## Acceptance -/

theorem isArtifact_iff : IsArtifact d ↔ ∃ l, level d = .ok l ∧ IsLayer l ∧ IsHypergraph l.hypergraph := by
  simp only [level_eq_ok_iff]
  constructor
  · intro h
    cases h with
    | ground hlevel hlayer hbase => exact ⟨_, ⟨_, rfl, hlevel⟩, hlayer, .inl hbase⟩
    | evolved hlevel hlayer hbase => exact ⟨_, ⟨_, rfl, hlevel⟩, hlayer, .inr hbase⟩
  · rintro ⟨l, ⟨fields, rfl, hlevel⟩, hlayer, hbase | hbase⟩
    · exact .ground hlevel hlayer hbase
    · exact .evolved hlevel hlayer hbase

theorem exists_wholeHypergraph_iff_or :
    (∃ h, wholeHypergraph d = .ok h) ↔ IsEdges d ∨ ∃ a, artifact d = .ok a := by
  simp only [wholeHypergraph_eq_ok_iff]
  constructor
  · rintro ⟨h, ⟨ds, es, hd, hes, -⟩ | ⟨a, ha, -⟩⟩
    · exact .inl ⟨ds, hd, exists_mapM_edge_iff.mp ⟨es, hes⟩⟩
    · exact .inr ⟨a, ha⟩
  · rintro (⟨ds, hd, hes⟩ | ⟨a, ha⟩)
    · obtain ⟨es, hes⟩ := exists_mapM_edge_iff.mpr hes
      exact ⟨_, .inl ⟨ds, es, hd, hes, rfl⟩⟩
    · exact ⟨_, .inr ⟨a, ha, rfl⟩⟩

theorem exists_artifact_iff : (∃ a, artifact d = .ok a) ↔ IsArtifact d := by
  induction d using level_induction with
  | _ d ih =>
    -- The hypergraph of a level is an array of edges or, one level down, an artifact.
    have hbelow : ∀ l, level d = .ok l →
        ((∃ h, wholeHypergraph l.hypergraph = .ok h) ↔ IsHypergraph l.hypergraph) := by
      intro l hl
      rw [exists_wholeHypergraph_iff_or, ih l hl, IsHypergraph]
    simp only [isArtifact_iff, artifact_eq_ok_iff]
    constructor
    · rintro ⟨a, l, hl, hbase, hlayer⟩
      exact ⟨l, hl, exists_layer_iff.mp ⟨_, hlayer⟩, (hbelow l hl).mp ⟨_, hbase⟩⟩
    · rintro ⟨l, hl, hlayer, hbase⟩
      obtain ⟨y, hy⟩ := exists_layer_iff.mpr hlayer
      obtain ⟨base, hbase⟩ := (hbelow l hl).mpr hbase
      exact ⟨{ y with hypergraph := base }, l, hl, hbase, hy⟩

theorem exists_wholeHypergraph_iff : (∃ h, wholeHypergraph d = .ok h) ↔ IsHypergraph d := by
  rw [exists_wholeHypergraph_iff_or, exists_artifact_iff, IsHypergraph]

end Wire

end HyperEvolve
