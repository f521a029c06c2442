import HyperEvolve.Proofs.Artifact.Grammar
import HyperEvolve.Proofs.Artifact.Wire

/-!
# The document that an artifact is read from

An artifact writes the document it was read from in a normal form: fields that are not read are gone, a
vertex is the text that shows it, and a role that lists nothing is the empty array. A document that is
strict about these is written as it was read, up to the order of the fields of a level.
-/

namespace HyperEvolve

open Document

namespace Wire

/-! ## The normal form -/

def normalVertices : Document → Document
  | .array vs => .array (vs.map fun v => .text v.shown)
  | d => d

def normalEdge : Document → Document
  | .object fields =>
    .object ((fields.filter fun f => f.1 = Text.ofString "vertices").map fun f => (f.1, normalVertices f.2))
  | d => d

def normalRole : Document → Document
  | .array es => .array (es.map normalEdge)
  | .text [] => .array []
  | .object [] => .array []
  | d => d

def normalRule : Document → Document
  | .object roles => .object (roles.map fun r => (r.1, normalRole r.2))
  | d => d

mutual
def normal : Document → Document
  | .array es => .array (es.map normalEdge)
  | .object fields => .object (normalFields fields)
  | d => d

def normalFields : List (Text × Document) → List (Text × Document)
  | [] => []
  | (k, d) :: fs =>
    if k = Text.ofString "hypergraph" then (k, normal d) :: normalFields fs
    else if k = Text.ofString "rule" then (k, normalRule d) :: normalFields fs
    else if k = Text.ofString "steps" ∨ k = Text.ofString "clean" then (k, d) :: normalFields fs
    else normalFields fs
end

/-! ## Strict documents -/

def IsStrictEdge (d : Document) : Prop :=
  ∃ vs : List Text, d = .object [(Text.ofString "vertices", .array (vs.map Document.text))]

def IsStrictRole (d : Document) : Prop := ∃ es, d = .array es ∧ ∀ e ∈ es, IsStrictEdge e

def IsStrictRule (d : Document) : Prop := ∃ roles, d = .object roles ∧ ∀ r ∈ roles, IsStrictRole r.2

/-- Every field has a known name, every vertex is a text, and every role is an array. -/
inductive IsStrict : Document → Prop where
  | ground {fields : List (Text × Document)} {l : Level} (hlevel : HasLevel fields l)
      (hnames : ∀ f ∈ fields, f.1 ∈ l.fields.map Prod.fst) (hrule : IsStrictRule l.rule)
      (hbase : IsStrictRole l.hypergraph) : IsStrict (.object fields)
  | evolved {fields : List (Text × Document)} {l : Level} (hlevel : HasLevel fields l)
      (hnames : ∀ f ∈ fields, f.1 ∈ l.fields.map Prod.fst) (hrule : IsStrictRule l.rule)
      (hbase : IsStrict l.hypergraph) : IsStrict (.object fields)

variable {d : Document} {l : Level} {fields : List (Text × Document)}

theorem normalEdge_of_strict (h : IsStrictEdge d) : normalEdge d = d := by
  obtain ⟨vs, rfl⟩ := h
  simp [normalEdge, normalVertices, shown]

theorem map_normalEdge_of_strict {es : List Document} (h : ∀ e ∈ es, IsStrictEdge e) : es.map normalEdge = es :=
  (List.map_congr_left fun e he => normalEdge_of_strict (h e he)).trans (List.map_id' es)

theorem normalRole_of_strict (h : IsStrictRole d) : normalRole d = d := by
  obtain ⟨es, rfl, hes⟩ := h
  rw [normalRole, map_normalEdge_of_strict hes]

theorem normalRule_of_strict (h : IsStrictRule d) : normalRule d = d := by
  obtain ⟨roles, rfl, hroles⟩ := h
  have hsame : ∀ r ∈ roles, (r.1, normalRole r.2) = r := fun r hr => by rw [normalRole_of_strict (hroles r hr)]
  rw [normalRule, List.map_congr_left hsame, List.map_id']

/-! ## The normal form of a level -/

/-- The value of a field in the normal form. -/
def normalValue (f : Text × Document) : Document :=
  if f.1 = Text.ofString "hypergraph" then normal f.2
  else if f.1 = Text.ofString "rule" then normalRule f.2
  else f.2

theorem normalFields_eq (l : Level) (fields : List (Text × Document)) :
    normalFields fields = (fields.filter fun f => f.1 ∈ l.fields.map Prod.fst).map fun f => (f.1, normalValue f) := by
  induction fields with
  | nil => rfl
  | cons f fs ih =>
      obtain ⟨k, d⟩ := f
      simp only [normalFields, ih, List.filter_cons, Level.fields, List.map_cons, List.map_nil, List.mem_cons,
        List.not_mem_nil, or_false, normalValue]
      -- One case for each of the four names, and one for all others, which are dropped on both sides.
      grind

/-- The level with its fields in the normal form. -/
def normalLevel (l : Level) : Level := { l with hypergraph := normal l.hypergraph, rule := normalRule l.rule }

theorem map_normalValue_fields (l : Level) : (l.fields.map fun f => (f.1, normalValue f)) = (normalLevel l).fields := by
  simp [Level.fields, normalLevel, normalValue, Text.ofString_inj]

theorem nodup_names (l : Level) : (l.fields.map Prod.fst).Nodup := by
  simp [Level.fields, Text.ofString_inj]

theorem normalFields_perm (hnames : (fields.map Prod.fst).Nodup) (hlevel : HasLevel fields l) :
    (normalFields fields).Perm (normalLevel l).fields := by
  rw [normalFields_eq l, ← map_normalValue_fields]
  exact (filter_perm_of_field? hnames (nodup_names l) hlevel).map _

/-- A strict level is its own normal form as soon as its hypergraph is. -/
theorem normalFields_of_strict (hdistinct : (fields.map Prod.fst).Nodup) (hlevel : HasLevel fields l)
    (hnames : ∀ f ∈ fields, f.1 ∈ l.fields.map Prod.fst) (hrule : IsStrictRule l.rule)
    (hbase : normal l.hypergraph = l.hypergraph) : normalFields fields = fields := by
  have hsame : (normalLevel l).fields = l.fields := by
    rw [normalLevel, hbase, normalRule_of_strict hrule]
  have hvalue : ∀ f ∈ l.fields, (f.1, normalValue f) = f := by
    rw [← map_normalValue_fields] at hsame
    exact List.map_inj_left.mp (hsame.trans (List.map_id' l.fields).symm)
  have hmem : ∀ f ∈ fields, f ∈ l.fields := by
    intro f hf
    obtain ⟨g, hg, hname⟩ := List.mem_map.mp (hnames f hf)
    have hanswer : field? fields f.1 = some g.2 := hname ▸ hlevel g hg
    rw [(field?_eq_some_iff hdistinct).mpr hf] at hanswer
    exact Prod.ext hname (Option.some.inj hanswer.symm) ▸ hg
  have hknown : (fields.filter fun f => f.1 ∈ l.fields.map Prod.fst) = fields :=
    List.filter_eq_self.mpr fun f hf => decide_eq_true (hnames f hf)
  rw [normalFields_eq l, hknown]
  exact (List.map_congr_left fun f hf => hvalue f (hmem f hf)).trans (List.map_id' fields)

theorem HasLevel.distinct (hd : (Document.object fields).Distinct) (h : HasLevel fields l) :
    ∀ f ∈ l.fields, f.2.Distinct :=
  fun f hf => hd.field _ (mem_of_field? (h f hf))

theorem normal_of_strict (hd : d.Distinct) (h : IsStrict d) : normal d = d := by
  induction h with
  | ground hlevel hnames hrule hbase =>
      obtain ⟨es, hd', hes⟩ := hbase
      have hground : normal (.array es) = .array es := by rw [normal, map_normalEdge_of_strict hes]
      rw [normal, normalFields_of_strict hd.nodup hlevel hnames hrule (hd' ▸ hground)]
  | evolved hlevel hnames hrule _ ih =>
      have hbelow := ih (hlevel.distinct hd _ List.mem_cons_self)
      rw [normal, normalFields_of_strict hd.nodup hlevel hnames hrule hbelow]

/-! ## What is written of what was read -/

theorem edge_document_eq (hd : d.Distinct) {e : Hyperedge} (h : edge d = .ok e) : e.document = normalEdge d := by
  obtain ⟨fields, vs, rfl, hvs, rfl⟩ := edge_eq_ok_iff.mp h
  have hasked : ∀ g ∈ [(Text.ofString "vertices", Document.array vs)], field? fields g.1 = some g.2 :=
    List.forall_mem_singleton.mpr hvs
  have honly : (fields.filter fun f => f.1 = Text.ofString "vertices") = [(Text.ofString "vertices", .array vs)] := by
    simpa using filter_perm_of_field? hd.nodup (by simp) hasked
  rw [normalEdge, honly]
  simp [Hyperedge.document, record, normalVertices]

theorem edgesDocument_eq {ds : List Document} (hd : ∀ d ∈ ds, d.Distinct) {es : List Hyperedge}
    (h : ds.mapM edge = .ok es) : edgesDocument es = .array (ds.map normalEdge) := by
  rw [edgesDocument, map_eq_of_mapM (fun d hmem e he => edge_document_eq (hd d hmem) he) h]

theorem roleEdges_document_eq (hd : d.Distinct) {es : List Hyperedge} (h : roleEdges d = .ok es) :
    edgesDocument es = normalRole d := by
  obtain ⟨ds, rfl, -⟩ | rfl | rfl := exists_roleEdges_iff.mp ⟨es, h⟩
  · exact edgesDocument_eq hd.item h
  · cases h
    rfl
  · cases h
    rfl

theorem rule_document_eq (hd : d.Distinct) {r : Table Text (List Hyperedge)} (h : rule d = .ok r) :
    ruleDocument r = normalRule d := by
  obtain ⟨roles, ps, rfl, hps, rfl⟩ := rule_eq_ok_iff.mp h
  have hkeys : ps.map Prod.fst = roles.map Prod.fst :=
    map_eq_of_mapM (fun f _ p hp => (namedRole_eq_ok_iff.mp hp).1) hps
  -- No name is repeated, so writing the table keeps every role in its place.
  have hentries : (Table.ofList ps).entries = ps :=
    congrArg Table.entries (Table.ofList_entries ⟨ps, hkeys ▸ hd.nodup⟩)
  have hroles : (ps.map fun p => (p.1, edgesDocument p.2)) = roles.map fun f => (f.1, normalRole f.2) := by
    refine map_eq_of_mapM (fun f hf p hp => ?_) hps
    obtain ⟨hname, hes⟩ := namedRole_eq_ok_iff.mp hp
    rw [hname, roleEdges_document_eq (hd.field f hf) hes]
  rw [ruleDocument, hentries, normalRule, hroles]

theorem layer_document_eq (hd : l.rule.Distinct) {y : Layer} (h : layer l = .ok y) :
    y.document (normal l.hypergraph) = .object (normalLevel l).fields := by
  obtain ⟨hrule, hsteps, hclean⟩ := layer_eq_ok_iff.mp h
  rw [Layer.document, rule_document_eq hd hrule, ← steps_eq_ok_iff.mp hsteps, ← clean_eq_ok_iff.mp hclean]
  rfl

/-- An artifact is written as the normal form of the document it was read from. -/
theorem artifact_document_rearranged (hd : d.Distinct) {a : Artifact} (h : artifact d = .ok a) :
    Rearranged a.document (normal d) := by
  induction d using level_induction generalizing a with
  | _ d ih =>
    obtain ⟨l, hl, hbase, hlayer⟩ := artifact_eq_ok_iff.mp h
    obtain ⟨fields, rfl, hlevel⟩ := level_eq_ok_iff.mp hl
    have hgraph : l.hypergraph.Distinct := hlevel.distinct hd _ List.mem_cons_self
    have hrule : l.rule.Distinct := hlevel.distinct hd (Text.ofString "rule", l.rule) (by simp [Level.fields])
    have hbelow : Rearranged a.hypergraph.document (normal l.hypergraph) := by
      obtain ⟨ds, es, hds, hes, ha⟩ | ⟨b, hb, ha⟩ := wholeHypergraph_eq_ok_iff.mp hbase
      · rw [hds] at hgraph ⊢
        rw [ha, Hypergraph.document, edgesDocument_eq hgraph.item hes]
        exact .refl _
      · rw [ha]
        exact ih l hl hgraph hb
    -- First the hypergraph is put in its normal form where it stands, then the fields of the level are moved.
    have hinside : Rearranged a.document (a.toLayer.document (normal l.hypergraph)) :=
      @Rearranged.field [] _ _ _ _ hbelow
    rw [layer_document_eq hrule hlayer] at hinside
    exact hinside.trans (.perm (normalFields_perm hd.nodup hlevel).symm)

end Wire

/-! ## Wire texts -/

theorem Artifact.deserialize_eq_ok_iff {t : Text} {a : Artifact} :
    Artifact.deserialize t = .ok a ↔ ∃ d, value? t = some d ∧ Wire.artifact d = .ok a := by
  rw [deserialize, value?]
  cases read t with
  | error fault => cases fault <;> simp
  | ok d => simp

open Wire in
/-- A text is an artifact exactly when its value is in the grammar. What is written of the artifact is then
the normal form of this value, and the value itself when it is strict. -/
theorem Artifact.deserialize_accepts_and_normalizes (t : Text) :
    ((∃ a, Artifact.deserialize t = .ok a) ↔ ∃ d, value? t = some d ∧ IsArtifact d) ∧
      ∀ d a, value? t = some d → Artifact.deserialize t = .ok a →
        Rearranged a.document (normal d) ∧ (IsStrict d → Rearranged a.document d) := by
  simp only [deserialize_eq_ok_iff]
  refine ⟨?_, ?_⟩
  · simp only [← exists_artifact_iff]
    constructor
    · rintro ⟨a, d, hd, ha⟩
      exact ⟨d, hd, a, ha⟩
    · rintro ⟨d, hd, a, ha⟩
      exact ⟨a, d, hd, ha⟩
  · rintro d a hvalue ⟨d', hvalue', ha⟩
    cases hvalue.symm.trans hvalue'
    have hdistinct := distinct_of_value? hvalue
    have hnormal := artifact_document_rearranged hdistinct ha
    exact ⟨hnormal, fun hstrict => normal_of_strict hdistinct hstrict ▸ hnormal⟩

/-! ## A document of two levels -/

/-- An edge with some vertices below two levels. Other fields may stand in the edge and in the outer level. -/
def steppedDocument (other : List (String × Document)) (vertices : List Document) (left right : Document) :
    Document :=
  record (("hypergraph", record [("clean", .bool false), ("steps", .int 3), ("rule", record []),
      ("hypergraph", .array [record (("vertices", .array vertices) :: other)])]) ::
    ("rule", record [("L", left), ("R", right)]) :: ("steps", .null) :: ("clean", .bool true) :: other)

theorem readable_steppedDocument {other : List (String × Document)} {vertices : List Document}
    {left right : Document} (hother : other = [] ∨ other = [("note", .null)]) (hvertices : ∀ v ∈ vertices, v.Readable)
    (hleft : left.Readable) (hright : right.Readable) : (steppedDocument other vertices left right).Readable := by
  have hnote : ∀ f ∈ other, f.2.Readable := by
    rcases hother with rfl | rfl <;> simp [Readable.null]
  have hedge : (record (("vertices", .array vertices) :: other)).Readable := by
    refine readable_record ?_ (List.forall_mem_cons.mpr ⟨.array hvertices, hnote⟩)
    rcases hother with rfl | rfl <;> simp
  have hbase : (record [("clean", .bool false), ("steps", .int 3), ("rule", record []),
      ("hypergraph", .array [record (("vertices", .array vertices) :: other)])]).Readable := by
    refine readable_record (by simp) ?_
    have hsteps : (Document.int 3).Readable := .int (by decide)
    simpa [Readable.bool, hsteps, readable_record] using Readable.array (List.forall_mem_singleton.mpr hedge)
  have hrule : (record [("L", left), ("R", right)]).Readable := readable_record (by simp) (by simp [hleft, hright])
  refine readable_record ?_ ?_
  · rcases hother with rfl | rfl <;> simp
  · simpa [hbase, hrule, Readable.null, Readable.bool] using hnote

theorem normal_steppedDocument (vertices : List Document) (left right : Document) :
    Wire.normal (steppedDocument [("note", .null)] vertices left right) =
      steppedDocument [] (vertices.map fun v => .text v.shown) (Wire.normalRole left) (Wire.normalRole right) := by
  simp [steppedDocument, record, Wire.normal, Wire.normalFields, Wire.normalEdge, Wire.normalVertices, Wire.normalRule,
    Text.ofString_inj]

theorem isArtifact_steppedDocument {other : List (String × Document)} (hother : other = [] ∨ other = [("note", .null)])
    (vertices : List Document) {left right : Document} (hleft : Wire.IsRole left) (hright : Wire.IsRole right) :
    Wire.IsArtifact (steppedDocument other vertices left right) := by
  have hedge : Wire.IsEdge (record (("vertices", .array vertices) :: other)) := by
    refine ⟨_, vertices, rfl, ?_⟩
    rcases hother with rfl | rfl <;> simp [field?, Text.ofString_inj]
  have hbase : Wire.IsArtifact (record [("clean", .bool false), ("steps", .int 3), ("rule", record []),
      ("hypergraph", .array [record (("vertices", .array vertices) :: other)])]) := by
    refine .ground (l := ⟨_, record [], .int 3, .bool false⟩) ?_ ⟨⟨[], rfl, by simp⟩, .inr ⟨3, rfl⟩, false, rfl⟩
      ⟨_, rfl, List.forall_mem_singleton.mpr hedge⟩
    simp [Wire.hasLevel_iff, field?, Text.ofString_inj]
  refine .evolved (l := ⟨_, record [("L", left), ("R", right)], .null, .bool true⟩) ?_
    ⟨⟨_, rfl, by simp [hleft, hright]⟩, .inl rfl, true, rfl⟩ hbase
  rcases hother with rfl | rfl <;> simp [Wire.hasLevel_iff, field?, record, Text.ofString_inj]

theorem isStrict_steppedDocument (vs : List Text) {left right : Document} (hleft : Wire.IsStrictRole left)
    (hright : Wire.IsStrictRole right) : Wire.IsStrict (steppedDocument [] (vs.map Document.text) left right) := by
  have hbase : Wire.IsStrict (record [("clean", .bool false), ("steps", .int 3), ("rule", record []),
      ("hypergraph", .array [record [("vertices", .array (vs.map Document.text))]])]) := by
    refine .ground (l := ⟨_, record [], .int 3, .bool false⟩) ?_ (by simp [Wire.Level.fields]) ⟨[], rfl, by simp⟩
      ⟨_, rfl, List.forall_mem_singleton.mpr ⟨vs, rfl⟩⟩
    simp [Wire.hasLevel_iff, field?, record, Text.ofString_inj]
  refine .evolved (l := ⟨_, record [("L", left), ("R", right)], .null, .bool true⟩) ?_ (by simp [Wire.Level.fields])
    ⟨_, rfl, by simp [hleft, hright]⟩ hbase
  simp [Wire.hasLevel_iff, field?, record, Text.ofString_inj]

/-- Vertices of several kinds. -/
def lenientVertices : List Document := [.int (-1), .null, .bool true, .text "a"]

def strictVertices : List Text := ["-1", "None", "True", "a"]

/-- With fields that are not read, vertices that are no texts and roles that are no arrays. -/
def lenientDocument : Document := steppedDocument [("note", .null)] lenientVertices (.text []) (record [])

def strictDocument : Document := steppedDocument [] (strictVertices.map Document.text) (.array []) (.array [])

theorem normal_lenientDocument : Wire.normal lenientDocument = strictDocument := by
  have hshown : lenientVertices.map shown = strictVertices := by decide +kernel
  rw [lenientDocument, normal_steppedDocument, strictDocument, ← hshown, List.map_map]
  rfl

theorem readable_lenientDocument : lenientDocument.Readable := by
  refine readable_steppedDocument (.inr rfl) ?_ (.text (by decide)) (readable_record (by simp) (by simp))
  have hint : (Document.int (-1)).Readable := .int (by decide)
  have htext : (Document.text "a").Readable := .text (Text.unpaired_ofString "a")
  simp [lenientVertices, hint, htext, Readable.null, Readable.bool]

theorem readable_strictDocument : strictDocument.Readable := by
  refine readable_steppedDocument (.inl rfl) ?_ (.array (by simp)) (.array (by simp))
  intro v hv
  obtain ⟨t, ht, rfl⟩ := List.mem_map.mp hv
  revert t
  simp [strictVertices, Readable.text, Text.unpaired_ofString]

theorem Artifact.deserialize_accepts_and_normalizes_lenientDocument :
    (∃ a, Artifact.deserialize (Text.ofString lenientDocument.compact) = .ok a ∧
      Rearranged a.document strictDocument) ∧
    ∃ a, Artifact.deserialize (Text.ofString strictDocument.compact) = .ok a ∧
      Rearranged a.document strictDocument := by
  have hlenient := value?_compact readable_lenientDocument
  have hstrict := value?_compact readable_strictDocument
  obtain ⟨haccept, hwrite⟩ := Artifact.deserialize_accepts_and_normalizes (Text.ofString lenientDocument.compact)
  obtain ⟨haccept', hwrite'⟩ := Artifact.deserialize_accepts_and_normalizes (Text.ofString strictDocument.compact)
  obtain ⟨a, ha⟩ := haccept.mpr ⟨_, hlenient,
    isArtifact_steppedDocument (.inr rfl) _ (.inr (.inl rfl)) (.inr (.inr rfl))⟩
  obtain ⟨a', ha'⟩ := haccept'.mpr ⟨_, hstrict,
    isArtifact_steppedDocument (.inl rfl) _ (.inl ⟨[], rfl, by simp⟩) (.inl ⟨[], rfl, by simp⟩)⟩
  refine ⟨⟨a, ha, ?_⟩, a', ha', ?_⟩
  · exact normal_lenientDocument ▸ (hwrite _ a hlenient ha).1
  · exact (hwrite' _ a' hstrict ha').2 (isStrict_steppedDocument _ ⟨[], rfl, by simp⟩ ⟨[], rfl, by simp⟩)

end HyperEvolve
