import HyperEvolve.Artifact.Wire
import HyperEvolve.Proofs.Document.RoundTrip
import HyperEvolve.Proofs.Traversal

/-!
# Artifacts read back

The decoder finds in the document of an artifact the artifact itself, at every depth of nesting and
with its roles in order.
-/

namespace HyperEvolve

open Document

/-! ## The data of an artifact -/

def Layer.texts (layer : Layer) : List Text :=
  layer.rule.entries.flatMap fun r => r.1 :: r.2.flatMap Hyperedge.vertices

/-- Every label and role name, at every level. -/
def Hypergraph.texts : Hypergraph → List Text
  | .edges es => es.flatMap Hyperedge.vertices
  | .evolved base layer => base.texts ++ layer.texts

def Artifact.texts (a : Artifact) : List Text := a.evolved.texts

/-! ## Decoding what was encoded -/

namespace Wire

theorem edge_document (e : Hyperedge) : edge e.document = .ok e := by
  have hshown : (e.vertices.map Document.text).map Document.shown = e.vertices := by
    rw [List.map_map]
    exact List.map_id e.vertices
  simp only [edge, Hyperedge.document, record, field?_record]
  simp only [List.reverse_singleton, List.find?_singleton, decide_true, ↓reduceIte, Option.map_some, hshown]

theorem mapM_edge_document (es : List Hyperedge) : (es.map Hyperedge.document).mapM edge = .ok es := by
  rw [List.mapM_map]
  refine (mapM_eq_pure_map (g := id) fun e _ => edge_document e).trans ?_
  exact congrArg pure (List.map_id es)

theorem roleEdges_edgesDocument (es : List Hyperedge) : roleEdges (edgesDocument es) = .ok es :=
  mapM_edge_document es

theorem rule_ruleDocument (r : Table Text (List Hyperedge)) : rule (ruleDocument r) = .ok r := by
  have hfields : (r.entries.map fun e => (e.1, edgesDocument e.2)).mapM
      (fun f => do return (f.1, ← roleEdges f.2)) = (.ok r.entries : Result _) := by
    rw [List.mapM_map]
    refine (mapM_eq_pure_map (g := id) fun e _ => ?_).trans (congrArg pure (List.map_id r.entries))
    rw [Function.comp_apply, roleEdges_edgesDocument]
    rfl
  rw [ruleDocument, rule, hfields]
  exact congrArg Except.ok (Table.ofList_entries r)

theorem steps_stepsDocument (n : Option Int) : steps (stepsDocument n) = .ok n := by
  cases n <;> rfl

theorem level_document (l : Layer) (d : Document) :
    level (l.document d) = .ok ⟨d, ruleDocument l.rule, stepsDocument l.steps, .bool l.clean⟩ := by
  simp only [level, Layer.document, record, require, field?_record]
  simp [bind, Except.bind, pure, Except.pure]

theorem layer_document (l : Layer) (d : Document) :
    layer ⟨d, ruleDocument l.rule, stepsDocument l.steps, .bool l.clean⟩ = .ok l := by
  rw [layer, rule_ruleDocument, steps_stepsDocument]
  rfl

theorem depth_lt_depth_document (l : Layer) (d : Document) : depth d < depth (l.document d) := by
  simp only [Layer.document, record, depth, List.map_cons, depthFields]
  omega

theorem hypergraph_document (h : Hypergraph) {n : Nat} (hn : depth h.document ≤ n) :
    hypergraph n h.document = .ok h := by
  induction h generalizing n with
  | edges es =>
      have hedges : hypergraph n (.array (es.map Hyperedge.document)) =
          (do return .edges (← (es.map Hyperedge.document).mapM edge)) := by
        cases n <;> rfl
      rw [Hypergraph.document, edgesDocument, hedges, mapM_edge_document]
      rfl
  | evolved base l ih =>
      have hlt := depth_lt_depth_document l base.document
      rw [Hypergraph.document] at hn ⊢
      obtain ⟨n, rfl⟩ : ∃ m, n = m + 1 := ⟨n - 1, by omega⟩
      have hbase : hypergraph n base.document = .ok base := ih (by omega)
      have hsucc : hypergraph (n + 1) (l.document base.document) = (do
          let x ← level (l.document base.document)
          let b ← hypergraph n x.hypergraph
          return .evolved b (← layer x)) := rfl
      simp only [hsucc, level_document, bind, Except.bind, hbase, layer_document]
      rfl

theorem artifact_document (a : Artifact) : artifact a.document = .ok a := by
  have hbase := hypergraph_document a.hypergraph (Nat.le_of_lt (depth_lt_depth_document a.toLayer _))
  simp only [artifact, Artifact.document, level_document, bind, Except.bind, hbase, layer_document]
  rfl

end Wire

/-! ## The document of an artifact can be read -/

theorem Hyperedge.readable_document {e : Hyperedge} (h : ∀ t ∈ e.vertices, t.Unpaired) :
    e.document.Readable := by
  refine readable_record (by simp) ?_
  rw [List.forall_mem_singleton]
  refine .array ?_
  intro d hd
  obtain ⟨t, ht, rfl⟩ := List.mem_map.mp hd
  exact .text (h t ht)

theorem readable_edgesDocument {es : List Hyperedge} (h : ∀ t ∈ es.flatMap Hyperedge.vertices, t.Unpaired) :
    (edgesDocument es).Readable := by
  refine .array ?_
  intro d hd
  obtain ⟨e, he, rfl⟩ := List.mem_map.mp hd
  exact Hyperedge.readable_document fun t ht => h t (List.mem_flatMap.mpr ⟨e, he, ht⟩)

theorem readable_ruleDocument {l : Layer} (h : ∀ t ∈ l.texts, t.Unpaired) : (ruleDocument l.rule).Readable := by
  have hroles : ∀ r ∈ l.rule.entries, ∀ t ∈ r.1 :: r.2.flatMap Hyperedge.vertices, t.Unpaired :=
    fun r hr t ht => h t (List.mem_flatMap.mpr ⟨r, hr, ht⟩)
  refine .object ?_ ?_ ?_
  · rw [List.map_map]
    exact l.rule.nodup
  · intro f hf
    obtain ⟨r, hr, rfl⟩ := List.mem_map.mp hf
    exact hroles r hr r.1 List.mem_cons_self
  · intro f hf
    obtain ⟨r, hr, rfl⟩ := List.mem_map.mp hf
    exact readable_edgesDocument (List.forall_mem_cons.mp (hroles r hr)).2

theorem Layer.readable_document {l : Layer} {d : Document} (hd : d.Readable)
    (ht : ∀ t ∈ l.texts, t.Unpaired)
    (hn : ∀ n ∈ l.steps, Decimal.width n.natAbs ≤ Decimal.maxDigits) : (l.document d).Readable := by
  have hsteps : (stepsDocument l.steps).Readable := by
    cases hl : l.steps with
    | none => exact .null
    | some n => exact .int (hn n hl)
  refine readable_record (by simp) ?_
  simp only [List.forall_mem_cons, List.not_mem_nil, false_implies, implies_true, and_true]
  exact ⟨hd, readable_ruleDocument ht, hsteps, .bool l.clean⟩

theorem Hypergraph.readable_document {h : Hypergraph} (ht : ∀ t ∈ h.texts, t.Unpaired)
    (hn : ∀ n ∈ h.counts, Decimal.width n.natAbs ≤ Decimal.maxDigits) : h.document.Readable := by
  induction h with
  | edges es => exact readable_edgesDocument ht
  | evolved base l ih =>
      rw [texts, List.forall_mem_append] at ht
      rw [counts, List.forall_mem_append] at hn
      exact Layer.readable_document (ih ht.1 hn.1) ht.2 fun n hl => hn.2 n (Option.mem_toList.mpr hl)

theorem Artifact.readable_document {a : Artifact} (ht : ∀ t ∈ a.texts, t.Unpaired)
    (hn : ∀ n ∈ a.counts, Decimal.width n.natAbs ≤ Decimal.maxDigits) : a.document.Readable :=
  Hypergraph.readable_document (h := a.evolved) ht hn

/-! ## Wire texts -/

theorem Artifact.deserialize_serialize {a : Artifact} (h : a.document.Readable) :
    Artifact.deserialize a.serialize = .ok a := by
  rw [serialize, ofString_compact, deserialize, read_write h]
  change Wire.artifact a.document.merged = .ok a
  rw [h.merged_eq, Wire.artifact_document]

end HyperEvolve
