import HyperEvolve.Proofs.Artifact.Grammar

/-!
# How the reading of an artifact fails

A text that is no artifact is refused with an error of its value, but for one place: what a role lists is
asked for before it is known to list anything. Reading stops there, in the first such role, as soon as
everything that is looked into before it is as it should be.
-/

namespace HyperEvolve

open Document

/-- An error of the value that is read. The other kind tells that an operation does not apply to it. -/
def WireError.IsValueError : WireError → Prop
  | .roleNotIterable _ => False
  | _ => True

theorem WireError.not_isValueError_iff {e : WireError} : ¬e.IsValueError ↔ ∃ d, e = .roleNotIterable d := by
  cases e <;> simp [IsValueError]

namespace Wire

/-- What cannot be iterated: the null value, truth values and numbers. -/
def ListsNothing : Document → Prop
  | .null | .bool _ | .int _ | .float _ => True
  | _ => False

/-- The first role that cannot be iterated, where reading gets that far. -/
inductive StopsAt : Document → Document → Prop where
  | role {fields before after : List (Text × Document)} {l : Level} {k : Text} {v : Document}
      (hlevel : HasLevel fields l) (hbase : IsHypergraph l.hypergraph)
      (hrule : l.rule = .object (before ++ (k, v) :: after)) (hbefore : ∀ r ∈ before, IsRole r.2)
      (hv : ListsNothing v) : StopsAt (.object fields) v
  | inner {fields : List (Text × Document)} {l : Level} {v : Document} (hlevel : HasLevel fields l)
      (h : StopsAt l.hypergraph v) : StopsAt (.object fields) v

/-! ## Where reading stops -/

variable {d v : Document} {l : Level}

theorem edge_ne_stop : edge d ≠ .error (.roleNotIterable v) := by
  cases d with
  | object fields =>
      rw [edge]
      split <;> simp
  | _ => simp [edge]

theorem mapM_edge_ne_stop {ds : List Document} : ds.mapM edge ≠ .error (.roleNotIterable v) := by
  intro h
  obtain ⟨_, d, _, -, -, hd⟩ := mapM_eq_error_iff.mp h
  exact edge_ne_stop hd

theorem members_eq_stop_iff : members d = .error (.roleNotIterable v) ↔ ListsNothing d ∧ d = v := by
  cases d <;> simp [members, ListsNothing]

theorem roleEdges_eq_stop_iff : roleEdges d = .error (.roleNotIterable v) ↔ ListsNothing d ∧ d = v := by
  simp only [roleEdges, bind_eq_error_iff, members_eq_stop_iff, mapM_edge_ne_stop, and_false, exists_false, or_false]

theorem namedRole_eq_stop_iff {f : Text × Document} :
    namedRole f = .error (.roleNotIterable v) ↔ ListsNothing f.2 ∧ f.2 = v := by
  simp only [namedRole, bind_eq_error_iff, roleEdges_eq_stop_iff, pure, Except.pure, reduceCtorEq, and_false,
    exists_false, or_false]

theorem rule_eq_stop_iff : rule d = .error (.roleNotIterable v) ↔
    ∃ before k after, d = .object (before ++ (k, v) :: after) ∧ (∀ r ∈ before, IsRole r.2) ∧ ListsNothing v := by
  cases d with
  | object roles =>
      simp only [rule_object, bind_eq_error_iff, pure, Except.pure, reduceCtorEq, and_false, exists_false, or_false,
        mapM_eq_error_iff, exists_namedRole_iff, namedRole_eq_stop_iff, Document.object.injEq]
      constructor
      · rintro ⟨before, ⟨k, _⟩, after, hroles, hbefore, hv, rfl⟩
        exact ⟨before, k, after, hroles, hbefore, hv⟩
      · rintro ⟨before, k, after, hroles, hbefore, hv⟩
        exact ⟨before, (k, v), after, hroles, hbefore, hv, rfl⟩
  | _ => simp [rule]

theorem steps_ne_stop : steps d ≠ .error (.roleNotIterable v) := by
  cases d <;> simp [steps]

theorem clean_ne_stop : clean d ≠ .error (.roleNotIterable v) := by
  cases d <;> simp [clean]

theorem layer_eq_stop_iff :
    layer l = .error (.roleNotIterable v) ↔ rule l.rule = .error (.roleNotIterable v) := by
  simp only [layer, bind_eq_error_iff, steps_ne_stop, clean_ne_stop, pure, Except.pure, reduceCtorEq, and_false,
    exists_false, or_false]

theorem require_ne_stop {fields : List (Text × Document)} {name : String} :
    require fields name ≠ .error (.roleNotIterable v) := by
  rw [require]
  cases field? fields name <;> simp

theorem level_ne_stop : level d ≠ .error (.roleNotIterable v) := by
  cases d with
  | object fields =>
      simp only [level, ne_eq, bind_eq_error_iff, require_ne_stop, pure, Except.pure, reduceCtorEq, and_false,
        exists_false, or_false, not_false_eq_true]
  | _ => simp [level]

theorem wholeHypergraph_eq_stop_iff :
    wholeHypergraph d = .error (.roleNotIterable v) ↔ artifact d = .error (.roleNotIterable v) := by
  by_cases hd : ∃ ds, d = .array ds
  · obtain ⟨ds, rfl⟩ := hd
    have hartifact : artifact (.array ds) = .error (.notObject (.array ds)) := rfl
    simp only [wholeHypergraph_array, hartifact, bind_eq_error_iff, mapM_edge_ne_stop, pure, Except.pure, reduceCtorEq,
      and_false, exists_false, or_false, Except.error.injEq]
  · rw [not_exists] at hd
    simp only [wholeHypergraph_eq hd, bind_eq_error_iff, pure, Except.pure, reduceCtorEq, and_false, exists_false,
      or_false]

/-- The hypergraph is read before the rule, and the rule before the rest. -/
theorem artifact_eq_error_iff : artifact d = .error (.roleNotIterable v) ↔
    ∃ l, level d = .ok l ∧ (artifact l.hypergraph = .error (.roleNotIterable v) ∨
      IsHypergraph l.hypergraph ∧ rule l.rule = .error (.roleNotIterable v)) := by
  simp only [artifact_eq d, bind_eq_error_iff, level_ne_stop, false_or, wholeHypergraph_eq_stop_iff, layer_eq_stop_iff,
    pure, Except.pure, reduceCtorEq, and_false, exists_false, or_false, ← exists_wholeHypergraph_iff, exists_and_right]

theorem artifact_eq_stop_iff : artifact d = .error (.roleNotIterable v) ↔ StopsAt d v := by
  induction d using level_induction with
  | _ d ih =>
    rw [artifact_eq_error_iff]
    constructor
    · rintro ⟨l, hl, hbelow | ⟨hbase, hrule⟩⟩
      · obtain ⟨fields, rfl, hlevel⟩ := level_eq_ok_iff.mp hl
        exact .inner hlevel ((ih l hl).mp hbelow)
      · obtain ⟨fields, rfl, hlevel⟩ := level_eq_ok_iff.mp hl
        obtain ⟨before, k, after, hroles, hbefore, hv⟩ := rule_eq_stop_iff.mp hrule
        exact .role hlevel hbase hroles hbefore hv
    · intro h
      cases h with
      | role hlevel hbase hrule hbefore hv =>
          have hstop := rule_eq_stop_iff.mpr ⟨_, _, _, hrule, hbefore, hv⟩
          exact ⟨_, level_eq_ok_iff.mpr ⟨_, rfl, hlevel⟩, .inr ⟨hbase, hstop⟩⟩
      | inner hlevel h =>
          have hl := level_eq_ok_iff.mpr ⟨_, rfl, hlevel⟩
          exact ⟨_, hl, .inl ((ih _ hl).mpr h)⟩

end Wire

/-! ## Wire texts -/

theorem Artifact.deserialize_eq_stop_iff {t : Text} {v : Document} :
    Artifact.deserialize t = .error (.roleNotIterable v) ↔
      ∃ d, value? t = some d ∧ Wire.artifact d = .error (.roleNotIterable v) := by
  rw [deserialize, value?]
  cases read t with
  | error fault => cases fault <;> simp
  | ok d => simp

/-- Reading stops without an error of the value exactly at the first role that cannot be iterated. Any other
text gives an artifact or an error of its value. -/
theorem Artifact.deserialize_stops_iff (t : Text) :
    (∀ v, Artifact.deserialize t = .error (.roleNotIterable v) ↔ ∃ d, value? t = some d ∧ Wire.StopsAt d v) ∧
      (((∃ a, Artifact.deserialize t = .ok a) ∨ ∃ e, Artifact.deserialize t = .error e ∧ e.IsValueError) ↔
        ¬∃ d v, value? t = some d ∧ Wire.StopsAt d v) := by
  have hstops : ∀ v, Artifact.deserialize t = .error (.roleNotIterable v) ↔
      ∃ d, value? t = some d ∧ Wire.StopsAt d v := by
    intro v
    simp only [deserialize_eq_stop_iff, Wire.artifact_eq_stop_iff]
  refine ⟨hstops, ?_⟩
  rw [exists_comm]
  simp only [← hstops]
  cases Artifact.deserialize t with
  | ok a => simp
  | error e => simp [← WireError.not_isValueError_iff]

/-- All fields are there, but a role is null. -/
def nullRoleDocument : Document :=
  record [("hypergraph", .array []), ("rule", record [("L", .null)]), ("steps", .null), ("clean", .bool true)]

example : nullRoleDocument.compact =
    "\x7b\"hypergraph\":[],\"rule\":\x7b\"L\":null\x7d,\"steps\":null,\"clean\":true\x7d" := by decide +kernel

theorem Artifact.deserialize_nullRoleDocument :
    Artifact.deserialize (Text.ofString nullRoleDocument.compact) = .error (.roleNotIterable .null) ∧
      ¬(WireError.roleNotIterable .null).IsValueError := by
  have hreadable : nullRoleDocument.Readable := by
    refine readable_record (by simp) ?_
    simp [Readable.array, Readable.null, Readable.bool, readable_record]
  have hstops : Wire.StopsAt nullRoleDocument .null := by
    let l : Wire.Level := ⟨.array [], record [("L", .null)], .null, .bool true⟩
    have hrule : l.rule = .object ([] ++ (Text.ofString "L", .null) :: []) := rfl
    refine .role ?_ (.inl ⟨[], rfl, by simp⟩) hrule (by simp) trivial
    simp [l, Wire.hasLevel_iff, field?, Text.ofString_inj]
  exact ⟨deserialize_eq_stop_iff.mpr ⟨_, value?_compact hreadable, Wire.artifact_eq_stop_iff.mpr hstops⟩, id⟩

end HyperEvolve
