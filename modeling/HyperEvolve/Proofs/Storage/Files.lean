import HyperEvolve.Proofs.Table
import HyperEvolve.Storage.FileTree

/-!
# Files read back

A text of printable characters survives its way into a file and out of it. Writing a file moves no
other place, so the path that was written leads to the same place afterwards.
-/

namespace HyperEvolve

/-! ## Bytes of plain texts -/

namespace Utf8

theorem toNat_toUInt8 {c : Char} (h : c.toNat < 0x80) : c.val.toUInt8.toNat = c.toNat := by
  rw [UInt32.toNat_toUInt8]
  exact Nat.mod_eq_of_lt (Nat.lt_trans h (by decide))

theorem utf8EncodeChar_plain {c : Char} (h : c.toNat < 0x80) : String.utf8EncodeChar c = [c.val.toUInt8] := by
  have hval : c.val ≤ 0x7F := UInt32.le_iff_toNat_le.mpr (Nat.lt_succ_iff.mp h)
  exact String.utf8EncodeChar_eq_singleton (Char.utf8Size_eq_one_iff.mpr hval)

theorem encode_ofList {cs : List Char} (h : ∀ c ∈ cs, c.toNat < 0x80) :
    encode (String.ofList cs) = cs.map fun c => c.val.toUInt8 := by
  have hbytes : cs.flatMap String.utf8EncodeChar = cs.map fun c => c.val.toUInt8 := by
    rw [List.map_eq_flatMap, List.flatMap_def, List.flatMap_def,
      List.map_congr_left fun c hc => utf8EncodeChar_plain (h c hc)]
  rw [encode, String.toUTF8_eq_toByteArray, String.toByteArray_ofList, List.utf8Encode,
    List.toList_data_toByteArray, hbytes]

theorem decodeFrom_map {cs : List Char} (h : ∀ c ∈ cs, c.toNat < 0x80) (pos : Nat) :
    decodeFrom pos (cs.map fun c => c.val.toUInt8) = .ok cs := by
  induction cs generalizing pos with
  | nil => rw [List.map_nil, decodeFrom]
  | cons c cs ih =>
      have hc := h c List.mem_cons_self
      have hlt : c.val.toUInt8 < 0x80 := by
        rw [UInt8.lt_iff_toNat_lt, toNat_toUInt8 hc]
        exact hc
      rw [List.map_cons, decodeFrom]
      simp only [head, hlt, ↓reduceIte, List.drop_zero, ih fun d hd => h d (List.mem_cons_of_mem c hd),
        toNat_toUInt8 hc, Char.ofNat_toNat]
      rfl

theorem decode_encode_ofList {cs : List Char} (h : ∀ c ∈ cs, c.toNat < 0x80) :
    decode (encode (String.ofList cs)) = .ok cs := by
  rw [encode_ofList h]
  exact decodeFrom_map h 0

end Utf8

theorem Text.unifyNewlines_eq_self {cs : List Char} (h : '\r' ∉ cs) : unifyNewlines cs = cs := by
  induction cs with
  | nil => rfl
  | cons c cs ih =>
      rw [List.mem_cons, not_or] at h
      rw [unifyNewlines, ih h.2]
      · rintro cs' rfl
        exact absurd rfl h.1
      · rintro rfl
        exact absurd rfl h.1

/-! ## Places after a write -/

namespace FileTree

variable {t t' t₁ : FileTree} {place : Place} {content : Bytes}

/-- What work on a tree leaves as it is: directories stay, no name is made to lead elsewhere, and nothing
begins to swallow what is written to it. -/
structure Grows (t t' : FileTree) : Prop where
  cwd : t'.cwd = t.cwd
  follow : ∀ q, t'.follow q = t.follow q
  directory : ∀ q, t.entry? q = some .directory → t'.entry? q = some .directory
  void : ∀ q, t'.entry? q = some .void → t.entry? q = some .void

theorem Grows.refl (t : FileTree) : t.Grows t := ⟨rfl, fun _ => rfl, fun _ h => h, fun _ h => h⟩

theorem Grows.trans (h : t.Grows t₁) (h' : t₁.Grows t') : t.Grows t' where
  cwd := h'.cwd.trans h.cwd
  follow q := (h'.follow q).trans (h.follow q)
  directory q hq := h'.directory q (h.directory q hq)
  void q hq := h.void q (h'.void q hq)

/-- One name leads to the same place afterwards, if it led anywhere. -/
theorem Grows.enter (h : t.Grows t') {q q' : Place} {name : String} (hq : t.enter q name = .ok q') :
    t'.enter q name = .ok q' := by
  have hdir : t.entry? q = some .directory := by
    rw [FileTree.enter] at hq
    split at hq
    · cases hq
    · assumption
    · cases hq
  rw [FileTree.enter, hdir] at hq
  rw [FileTree.enter, h.directory q hdir, h.follow]
  exact hq

theorem Grows.foldlM_enter (h : t.Grows t') {names : List String} {q q' : Place}
    (hq : names.foldlM t.enter q = .ok q') : names.foldlM t'.enter q = .ok q' := by
  induction names generalizing q with
  | nil => exact hq
  | cons name names ih =>
      rw [List.foldlM_cons] at hq ⊢
      cases he : t.enter q name with
      | error e => rw [he] at hq; cases hq
      | ok r =>
          rw [he] at hq
          rw [h.enter he]
          exact ih hq

/-- A path leads to the same place afterwards, if it led anywhere. -/
theorem Grows.locate (h : t.Grows t') {p : Path} {q : Place} (hq : t.locate p = .ok q) : t'.locate p = .ok q := by
  rw [FileTree.locate] at hq ⊢
  split at hq
  · cases hq
  · rename_i hlength
    rw [if_neg hlength, h.cwd]
    exact h.foldlM_enter hq

/-- A place where a file may be written or a directory be made. -/
def Writable (t : FileTree) (place : Place) : Prop :=
  t.entry? place ≠ some .directory ∧ ∀ target, t.entry? place ≠ some (.link target)

theorem entry?_put (hw : t.Writable place) (e : Entry) (q : Place) :
    entry? (t.put place e) q = if q = place then some e else t.entry? q := by
  have hroot : place ≠ [] := by
    rintro rfl
    exact hw.1 rfl
  cases q with
  | nil => rw [if_neg hroot.symm]; rfl
  | cons n q => exact Table.get?_insert t.entries place (n :: q) e

/-- A name that stands for itself is followed to itself. -/
theorem follow_eq_self (h : ∀ target, t.entry? place ≠ some (.link target)) : t.follow place = place := by
  rw [follow]
  split
  · rename_i target he
    exact absurd he (h target)
  · rfl

theorem grows_put (hw : t.Writable place) {e : Entry} (hlink : ∀ target, e ≠ .link target) (hvoid : e ≠ .void) :
    t.Grows (t.put place e) where
  cwd := rfl
  follow q := by
    by_cases hq : q = place
    · subst hq
      have hput : ∀ target, entry? (t.put q e) q ≠ some (.link target) := by
        intro target
        rw [entry?_put hw, if_pos rfl, ne_eq, Option.some.injEq]
        exact hlink target
      rw [follow_eq_self hput, follow_eq_self hw.2]
    · rw [follow, entry?_put hw, if_neg hq, follow]
  directory q hq := by
    have hne : q ≠ place := by
      rintro rfl
      exact hw.1 hq
    rw [entry?_put hw, if_neg hne, hq]
  void q hq := by
    rw [entry?_put hw] at hq
    split at hq
    · exact absurd (Option.some.inj hq) hvoid
    · exact hq

/-! ## Storing -/

/-- What storing does: nothing at a place that swallows what is written, else the file stands there. -/
theorem store_cases (h : t.store place content = .ok t') :
    t' = t ∧ t.entry? place = some .void ∨ t' = t.put place (.file content) ∧ t.Writable place := by
  rw [store] at h
  cases he : t.entry? place with
  | none =>
      rw [he] at h
      simp only at h
      split at h
      · cases h
        exact .inr ⟨rfl, by simp [he], by simp [he]⟩
      · cases h
  | some e =>
      rw [he] at h
      cases e with
      | file c => cases h; exact .inr ⟨rfl, by simp [he], by simp [he]⟩
      | directory => cases h
      | void => cases h; exact .inl ⟨rfl, rfl⟩
      | program name => cases h; exact .inr ⟨rfl, by simp [he], by simp [he]⟩
      | link target => cases h

/-- A content has been stored at a place: it stands there, unless the place swallowed it, and nothing else
has changed. -/
structure Stored (t t' : FileTree) (place : Place) (content : Bytes) : Prop where
  grows : t.Grows t'
  entry : t'.entry? place = some .void ∨ t'.entry? place = some (.file content)
  other : ∀ q, q ≠ place → t'.entry? q = t.entry? q

theorem stored_of_store (h : t.store place content = .ok t') : Stored t t' place content := by
  obtain ⟨rfl, hvoid⟩ | ⟨rfl, hw⟩ := store_cases h
  · exact ⟨.refl t', .inl hvoid, fun _ _ => rfl⟩
  · refine ⟨grows_put hw (by simp) (by simp), .inr ?_, ?_⟩
    · rw [entry?_put hw, if_pos rfl]
    · intro q hq
      rw [entry?_put hw, if_neg hq]

/-! ## New directories -/

/-- Every entry is kept, and all that is new are directories. -/
structure Extends (t t' : FileTree) : Prop extends Grows t t' where
  keeps : ∀ q e, t.entry? q = some e → t'.entry? q = some e

theorem Extends.refl (t : FileTree) : t.Extends t := ⟨.refl t, fun _ _ h => h⟩

theorem Extends.trans (h : t.Extends t₁) (h' : t₁.Extends t') : t.Extends t' :=
  ⟨h.toGrows.trans h'.toGrows, fun q e hq => h'.keeps q e (h.keeps q e hq)⟩

instance : IsPreorder FileTree Extends where
  refl := .refl
  trans _ _ _ := .trans

theorem createDirectory_cases {p : Path} (h : t.createDirectory p = .ok t') :
    ∃ place, t.locate p = .ok place ∧ t.entry? place = none ∧ t' = t.put place .directory := by
  rw [createDirectory] at h
  cases hplace : t.locate p with
  | error e => rw [hplace] at h; cases h
  | ok place =>
      rw [hplace] at h
      simp only [bind, Except.bind] at h
      split at h
      · cases h
      · rename_i hnone
        split at h
        · cases h
          exact ⟨place, rfl, hnone, rfl⟩
        · cases h

theorem writable_of_none (h : t.entry? place = none) : t.Writable place := ⟨by simp [h], by simp [h]⟩

theorem extends_createDirectory {p : Path} (h : t.createDirectory p = .ok t') : t.Extends t' := by
  obtain ⟨place, -, hnone, rfl⟩ := createDirectory_cases h
  have hw := writable_of_none hnone
  refine ⟨grows_put hw (by simp) (by simp), ?_⟩
  intro q e hq
  have hne : q ≠ place := by
    rintro rfl
    rw [hnone] at hq
    cases hq
  rw [entry?_put hw, if_neg hne, hq]

end FileTree

/-! ## Work on a tree -/

namespace Disk

variable {α β : Type} {t t' : FileTree} {p : Path}

theorem run_bind (x : Disk α) (f : α → Disk β) (t : FileTree) :
    (x >>= f).run t = match x.run t with
      | (.ok a, t₁) => (f a).run t₁
      | (.error e, t₁) => (.error e, t₁) := by
  cases hx : x.run t with
  | mk r t₁ =>
      have hx' : StateT.run (ExceptT.run x) t = (r, t₁) := hx
      change StateT.run (ExceptT.run (x >>= f)) t = _
      rw [ExceptT.run_bind, StateT.run_bind, hx']
      cases r <;> rfl

theorem run_pure (a : α) : (pure a : Disk α).run t = (.ok a, t) := rfl

theorem run_get : (get : Disk FileTree).run t = (.ok t, t) := rfl

theorem run_bind_ok {x : Disk α} {f : α → Disk β} {b : β} (h : (x >>= f).run t = (.ok b, t')) :
    ∃ a t₁, x.run t = (.ok a, t₁) ∧ (f a).run t₁ = (.ok b, t') := by
  rw [run_bind] at h
  split at h
  · rename_i a t₁ hx
    exact ⟨a, t₁, hx, h⟩
  · cases h

theorem run_mapM_cons_ok {f : α → Disk β} {a : α} {as : List α} {bs : List β}
    (h : ((a :: as).mapM f).run t = (.ok bs, t')) :
    ∃ b t₁ rest, (f a).run t = (.ok b, t₁) ∧ (as.mapM f).run t₁ = (.ok rest, t') ∧ bs = b :: rest := by
  rw [List.mapM_cons] at h
  obtain ⟨b, t₁, hfirst, h⟩ := run_bind_ok h
  obtain ⟨rest, t₂, hothers, hpure⟩ := run_bind_ok h
  cases hpure
  exact ⟨b, t₁, rest, hfirst, hothers, rfl⟩

theorem run_guardNull : (guardNull p).run t = (if p.hasNull then .error .nullByte else .ok (), t) := by
  rw [guardNull]
  split <;> rfl

theorem run_writeText_ok {text : String} (h : (writeText p text).run t = (.ok (), t')) :
    p.hasNull = false ∧ ∃ place, t.locate p = .ok place ∧ t.store place (Utf8.encode text) = .ok t' := by
  simp only [writeText, run_bind, run_guardNull, run_get] at h
  cases hnull : p.hasNull with
  | true => simp [hnull] at h
  | false =>
      refine ⟨rfl, ?_⟩
      simp only [hnull, Bool.false_eq_true, ↓reduceIte] at h
      cases hplace : t.locate p with
      | error e => rw [hplace] at h; cases h
      | ok place =>
          refine ⟨place, rfl, ?_⟩
          simp only [hplace, bind, Except.bind] at h
          cases hstore : t.store place (Utf8.encode text) with
          | error e => rw [hstore] at h; cases h
          | ok t₁ => rw [hstore] at h; cases h; rfl

theorem stored_of_writeText {text : String} (h : (writeText p text).run t = (.ok (), t')) :
    p.hasNull = false ∧ ∃ place, t'.locate p = .ok place ∧ FileTree.Stored t t' place (Utf8.encode text) := by
  obtain ⟨hnull, place, hplace, hstore⟩ := run_writeText_ok h
  have hstored := FileTree.stored_of_store hstore
  exact ⟨hnull, place, hstored.grows.locate hplace, hstored⟩

theorem run_readText {place : Place} {content : Bytes} {cs : List Char} (hnull : p.hasNull = false)
    (hplace : t.locate p = .ok place) (hfile : t.entry? place = some (.file content))
    (hdecode : Utf8.decode content = .ok cs) :
    (readText p).run t = (.ok (String.ofList (Text.unifyNewlines cs)), t) := by
  have hlook : (t.look p >>= FileTree.contentOf) = .ok content := by
    simp only [FileTree.look, hplace, bind, Except.bind, hfile, FileTree.contentOf]
  simp only [readText, readBytes, run_bind, run_guardNull, hnull, Bool.false_eq_true, ↓reduceIte, run_get, hlook,
    run_pure, hdecode]

/-- A plain text without carriage returns is read back from the file that holds it. -/
theorem readText_of_file {place : Place} {cs : List Char} (hcs : ∀ c ∈ cs, c.toNat < 0x80 ∧ c ≠ '\r')
    (hnull : p.hasNull = false) (hplace : t.locate p = .ok place)
    (hfile : t.entry? place = some (.file (Utf8.encode (String.ofList cs)))) :
    (readText p).run t = (.ok (String.ofList cs), t) := by
  have hdecode := Utf8.decode_encode_ofList fun c hc => (hcs c hc).1
  rw [run_readText hnull hplace hfile hdecode, Text.unifyNewlines_eq_self fun hr => (hcs _ hr).2 rfl]

/-! ## Work that fails half way -/

/-- However the work ends, the trees before and after it are related. -/
def Keeps (R : FileTree → FileTree → Prop) (d : Disk α) : Prop := ∀ t, R t (d.run t).2

section

variable {R : FileTree → FileTree → Prop} [IsPreorder FileTree R]

theorem keeps_pure (a : α) : Keeps R (pure a : Disk α) := fun t => refl_of R t

theorem keeps_bind {d : Disk α} {f : α → Disk β} (hd : Keeps R d) (hf : ∀ a, Keeps R (f a)) :
    Keeps R (d >>= f) := by
  intro t
  have hfirst := hd t
  rw [run_bind]
  split
  · rename_i a t₁ hrun
    rw [hrun] at hfirst
    exact trans_of R hfirst (hf a t₁)
  · rename_i e t₁ hrun
    rw [hrun] at hfirst
    exact hfirst

theorem keeps_guardNull (p : Path) : Keeps R (guardNull p) := by
  intro t
  rw [run_guardNull]
  exact refl_of R t

theorem keeps_mapM {f : α → Disk β} {as : List α} (h : ∀ a ∈ as, Keeps R (f a)) : Keeps R (as.mapM f) := by
  induction as with
  | nil => exact keeps_pure []
  | cons a as ih =>
      rw [List.mapM_cons]
      refine keeps_bind (h a List.mem_cons_self) fun b => ?_
      exact keeps_bind (ih fun a' ha' => h a' (List.mem_cons_of_mem a ha')) fun bs => keeps_pure (b :: bs)

/-! ## Directories above a file -/

variable {Q : Path → Prop} (hparent : ∀ p, Q p → Q p.parent)
  (hcreate : ∀ p t t', Q p → t.createDirectory p = .ok t' → R t t')

include hparent hcreate in
/-- Making directories only ever makes one of a path that is given or lies above it. -/
theorem keeps_makeDirectoriesWithin (fuel : Nat) {p : Path} (hp : Q p) : Keeps R (makeDirectoriesWithin fuel p) := by
  have hexists : ∀ (t : FileTree) (p : Path) (errno : Errno),
      ((if t.isDirectory p then pure () else fail errno p : Disk Unit).run t).2 = t := by
    intro t p errno
    split <;> rfl
  induction fuel generalizing p with
  | zero =>
      intro t
      rw [makeDirectoriesWithin, run_bind, run_get]
      dsimp only
      split
      · exact hcreate p _ _ hp ‹_›
      · exact refl_of R t
      · rw [hexists]
        exact refl_of R t
  | succ fuel ih =>
      intro t
      rw [makeDirectoriesWithin, run_bind, run_get]
      dsimp only
      split
      · exact hcreate p _ _ hp ‹_›
      · -- The directories above come first; whether they can be made or not, the trees are related.
        have habove := ih (hparent p hp) t
        rw [run_bind]
        split
        · rename_i hrun
          rw [hrun] at habove
          rw [run_bind, run_get]
          dsimp only
          split
          · exact trans_of R habove (hcreate p _ _ hp ‹_›)
          · rw [hexists]
            exact habove
        · rename_i hrun
          rw [hrun] at habove
          exact habove
      · rw [hexists]
        exact refl_of R t

include hparent hcreate in
theorem keeps_makeDirectories {p : Path} (hp : Q p) : Keeps R (makeDirectories p) :=
  keeps_bind (keeps_guardNull p) fun _ => keeps_makeDirectoriesWithin hparent hcreate p.parts.length hp

end

theorem extends_makeDirectories (h : (makeDirectories p).run t = (.ok (), t')) : t.Extends t' := by
  have hkeeps : Keeps FileTree.Extends (makeDirectories p) :=
    keeps_makeDirectories (Q := fun _ => True) (fun _ _ => trivial)
      (fun _ _ _ _ => FileTree.extends_createDirectory) trivial
  have hextends := hkeeps t
  rw [h] at hextends
  exact hextends

end Disk

end HyperEvolve
