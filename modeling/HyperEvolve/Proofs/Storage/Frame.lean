import HyperEvolve.Proofs.Storage.Artifacts

/-!
# What writing leaves alone

Writing artifacts touches the files that their paths lead to and the directories missing above them, however it
ends. A frame says so of two trees; frames compose, so each kind of work only needs one for a single step.
-/

namespace HyperEvolve

namespace FileTree

variable {may : Path → Entry → Prop} {t t₁ t' : FileTree} {p : Path}

/-- The second tree differs from the first only where a path leads that may come to hold what is there now, and
a directory that is new was made where nothing stood. -/
structure Frame (may : Path → Entry → Prop) (t t' : FileTree) : Prop extends Grows t t' where
  changed : ∀ q, t'.entry? q = t.entry? q ∨
    ∃ p e, may p e ∧ t'.locate p = .ok q ∧ t'.entry? q = some e ∧ (e = .directory → t.entry? q = none)

theorem Frame.refl (t : FileTree) : Frame may t t := ⟨.refl t, fun _ => .inl rfl⟩

theorem Frame.trans (h : Frame may t t₁) (h' : Frame may t₁ t') : Frame may t t' where
  toGrows := h.toGrows.trans h'.toGrows
  changed q := by
    rcases h'.changed q with hsame | ⟨p, e, hmay, hplace, hentry, hnew⟩
    · rcases h.changed q with hbefore | ⟨p, e, hmay, hplace, hentry, hnew⟩
      · exact .inl (hsame.trans hbefore)
      · exact .inr ⟨p, e, hmay, h'.toGrows.locate hplace, hsame.trans hentry, hnew⟩
    · refine .inr ⟨p, e, hmay, hplace, hentry, ?_⟩
      intro he
      rcases h.changed q with hbefore | ⟨_, _, _, _, hsome, _⟩
      · exact hbefore.symm.trans (hnew he)
      · rw [hnew he] at hsome
        cases hsome

instance : IsPreorder FileTree (Frame may) where
  refl := .refl
  trans _ _ _ := .trans

theorem frame_put {place : Place} {e : Entry} (hw : t.Writable place) (hlink : ∀ target, e ≠ .link target)
    (hvoid : e ≠ .void) (hmay : may p e) (hplace : t.locate p = .ok place)
    (hnew : e = .directory → t.entry? place = none) : Frame may t (t.put place e) where
  toGrows := grows_put hw hlink hvoid
  changed q := by
    by_cases hq : q = place
    · subst hq
      refine .inr ⟨p, e, hmay, (grows_put hw hlink hvoid).locate hplace, ?_, hnew⟩
      rw [entry?_put hw, if_pos rfl]
    · rw [entry?_put hw, if_neg hq]
      exact .inl rfl

theorem frame_store {place : Place} {content : Bytes} (hmay : may p (.file content))
    (hplace : t.locate p = .ok place) (h : t.store place content = .ok t') : Frame may t t' := by
  rcases store_cases h with ⟨rfl, -⟩ | ⟨rfl, hw⟩
  · exact .refl t'
  · exact frame_put hw (by simp) (by simp) hmay hplace (by simp)

theorem frame_createDirectory (hmay : may p .directory) (h : t.createDirectory p = .ok t') : Frame may t t' := by
  obtain ⟨place, hplace, hnone, rfl⟩ := createDirectory_cases h
  exact frame_put (writable_of_none hnone) (by simp) (by simp) hmay hplace fun _ => hnone

theorem keeps_frame_writeText {p : Path} {text : String} (hmay : may p (.file (Utf8.encode text))) :
    Disk.Keeps (Frame may) (Disk.writeText p text) := by
  refine Disk.keeps_bind (Disk.keeps_guardNull p) fun _ => ?_
  intro t
  rw [Disk.run_bind, Disk.run_get]
  dsimp only
  split
  · rename_i t' hstore
    cases hplace : t.locate p with
    | error e => rw [hplace] at hstore; cases hstore
    | ok place =>
        rw [hplace] at hstore
        exact frame_store hmay hplace hstore
  · exact .refl t

theorem keeps_frame_makeDirectories (hparent : ∀ p, may p .directory → may p.parent .directory)
    (hmay : may p .directory) : Disk.Keeps (Frame may) (Disk.makeDirectories p) :=
  Disk.keeps_makeDirectories hparent (fun _ _ _ => frame_createDirectory) hmay

end FileTree

/-! ## Builds -/

/-- What may come to stand where a path leads when the artifacts of a compilation are written: an artifact, or a
directory above one. -/
inductive Built (c : Compilation) (dir : Path) : Path → Entry → Prop where
  | artifact {n : String} {a : Artifact} (h : c.artifact? n = some a) :
    Built c dir (artifactPath n dir) (.file (Utf8.encode a.serialize))
  | directory {n : String} {a : Artifact} (h : c.artifact? n = some a) :
    Built c dir (artifactPath n dir).parent .directory
  | above {p : Path} (h : Built c dir p .directory) : Built c dir p.parent .directory

theorem keeps_frame_writeArtifact {c : Compilation} {n : String} {a : Artifact} (h : c.artifact? n = some a)
    (dir : Path) : Disk.Keeps (FileTree.Frame (Built c dir)) (writeArtifact a (artifactPath n dir)) :=
  Disk.keeps_bind (FileTree.keeps_frame_makeDirectories (fun _ => .above) (.directory h))
    fun _ => FileTree.keeps_frame_writeText (.artifact h)

/-- However writing the artifacts ends, it has only made what belongs to them. -/
theorem keeps_frame_writeArtifacts (c : Compilation) (dir : Path) :
    Disk.Keeps (FileTree.Frame (Built c dir)) (writeArtifacts c dir) := by
  refine Disk.keeps_mapM fun e he => ?_
  have hheld : c.artifact? e.1 = some e.2 := Table.get?_of_mem he
  exact Disk.keeps_bind (keeps_frame_writeArtifact hheld dir) fun _ => Disk.keeps_pure _

end HyperEvolve
