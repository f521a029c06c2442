import HyperEvolve.Proofs.Artifact.Compiled
import HyperEvolve.Proofs.Storage.Artifacts

/-!
# Builds read back

The artifacts of a program are written one after the other. A file holds what was written to its place last,
so a state is read back unless the path of a state that is written later leads to the same place. Paths of
plain names below a directory that was empty never do.
-/

namespace HyperEvolve

/-! ## A sequence of writes -/

section

variable {dir : Path} {es : List (String × Artifact)} {t t₁ t' : FileTree}

/-- The artifacts have been written in this order: each path leads somewhere, places that no path leads to
are as before, and a place holds the artifact that was written to it last. -/
structure WroteAll (dir : Path) (es : List (String × Artifact)) (t t' : FileTree) : Prop where
  grows : t.Grows t'
  noNull : ∀ e ∈ es, (artifactPath e.1 dir).hasNull = false
  located : ∀ e ∈ es, ∃ place, t'.locate (artifactPath e.1 dir) = .ok place
  kept : ∀ place x, (∀ e ∈ es, t'.locate (artifactPath e.1 dir) ≠ .ok place) → t.entry? place = some x →
    t'.entry? place = some x
  last : ∀ before e after place, es = before ++ e :: after → t'.locate (artifactPath e.1 dir) = .ok place →
    (∀ m ∈ after, t'.locate (artifactPath m.1 dir) ≠ .ok place) →
    t'.entry? place = some .void ∨ t'.entry? place = some (.file (Utf8.encode e.2.serialize))

theorem WroteAll.nil (dir : Path) (t : FileTree) : WroteAll dir [] t t where
  grows := .refl t
  noNull e he := by cases he
  located e he := by cases he
  kept place x _ hx := hx
  last before e after place hes := by cases before <;> cases hes

/-- One artifact in front: the writes after it may take its place, but nothing else undoes it. -/
theorem WroteAll.cons {e : String × Artifact} {place : Place}
    (h : WroteArtifact e.2 (artifactPath e.1 dir) place t t₁) (hrest : WroteAll dir es t₁ t') :
    WroteAll dir (e :: es) t t' where
  grows := h.grows.trans hrest.grows
  noNull := List.forall_mem_cons.mpr ⟨h.noNull, hrest.noNull⟩
  located := List.forall_mem_cons.mpr ⟨⟨place, hrest.grows.locate h.located⟩, hrest.located⟩
  kept q x hq hx := by
    obtain ⟨hfirst, hothers⟩ := List.forall_mem_cons.mp hq
    have hne : q ≠ place := by
      rintro rfl
      exact hfirst (hrest.grows.locate h.located)
    exact hrest.kept q x hothers (h.other q x hne hx)
  last before f after q hes hlocated hafter := by
    cases before with
    | nil =>
        cases hes
        have hq : q = place := Except.ok.inj (hlocated.symm.trans (hrest.grows.locate h.located))
        subst hq
        exact h.entry.imp (hrest.kept q _ hafter) (hrest.kept q _ hafter)
    | cons _ before =>
        cases hes
        exact hrest.last before f after q rfl hlocated hafter

/-- By induction on the artifacts that are left to write. -/
theorem wroteAll_of_mapM {paths : List Path}
    (h : Disk.run (es.mapM fun e => do
      let p := artifactPath e.1 dir
      writeArtifact e.2 p
      return p) t = (.ok paths, t')) : WroteAll dir es t t' := by
  induction es generalizing t paths with
  | nil =>
      cases h
      exact .nil dir _
  | cons e es ih =>
      obtain ⟨_, t₁, rest, hfirst, hothers, -⟩ := Disk.run_mapM_cons_ok h
      obtain ⟨_, t₂, hwrite, hpure⟩ := Disk.run_bind_ok hfirst
      cases hpure
      obtain ⟨place, hwrote⟩ := wrote_of_writeArtifact hwrite
      exact .cons hwrote (ih hothers)

/-- An artifact is read back if no later one was written to its place. -/
theorem WroteAll.read_last (h : WroteAll dir es t t') {before after : List (String × Artifact)}
    {e : String × Artifact} (hes : es = before ++ e :: after) (hreadable : e.2.document.Readable)
    (hafter : ∀ m ∈ after, t'.locate (artifactPath m.1 dir) ≠ t'.locate (artifactPath e.1 dir))
    (hvoid : t'.look (artifactPath e.1 dir) ≠ .ok .void) :
    readArtifact (artifactPath e.1 dir) t' = .ok e.2 := by
  have he : e ∈ es := by
    rw [hes]
    exact List.mem_append_right before List.mem_cons_self
  obtain ⟨place, hplace⟩ := h.located e he
  rw [hplace] at hafter
  rcases h.last before e after place hes hplace hafter with hentry | hentry
  · refine absurd ?_ hvoid
    simp only [FileTree.look, hplace, bind, Except.bind, hentry]
  · exact readArtifact_of_file hreadable (h.noNull e he) hplace hentry

end

/-! ## Plain names -/

theorem Path.splitSlash_plain {cs : List Char} (h : '/' ∉ cs) : splitSlash cs = [cs] := by
  induction cs with
  | nil => rfl
  | cons c cs ih =>
      rw [List.mem_cons, not_or] at h
      rw [splitSlash, if_neg (Ne.symm h.1), ih h.2]

theorem Path.ofString_plain {s : String} (hslash : '/' ∉ s.toList) (hempty : s ≠ "") (hdot : s ≠ ".") :
    Path.ofString s = ⟨.relative, [s]⟩ := by
  have hroot : rootOf s.toList = .relative := by
    cases hs : s.toList with
    | nil => rfl
    | cons c cs =>
        rw [hs, List.mem_cons, not_or] at hslash
        simp [rootOf, Ne.symm hslash.1]
  rw [Path.ofString, hroot, splitSlash_plain hslash, List.map_singleton, String.ofList_toList]
  simp [hempty, hdot]

theorem append_suffix_ne {n s : String} (h : s.length < artifactSuffix.length) : n ++ artifactSuffix ≠ s := by
  rintro rfl
  rw [String.length_append] at h
  omega

theorem ofString_suffix_plain {n : String} (h : '/' ∉ n.toList) :
    Path.ofString (n ++ artifactSuffix) = ⟨.relative, [n ++ artifactSuffix]⟩ := by
  have hslash : '/' ∉ (n ++ artifactSuffix).toList := by
    rw [String.toList_append, List.mem_append, not_or]
    exact ⟨h, by decide⟩
  exact Path.ofString_plain hslash (append_suffix_ne (by decide)) (append_suffix_ne (by decide))

theorem artifactPath_plain {n : String} (h : '/' ∉ n.toList) (dir : Path) :
    artifactPath n dir = ⟨dir.root, dir.parts ++ [n ++ artifactSuffix]⟩ := by
  rw [artifactPath, ofString_suffix_plain h, Path.join]

namespace FileTree

variable {t t' : FileTree} {dir : Path}

theorem resolve_of_foldlM {names : List String} {q q' : Place} (h : names.foldlM t.enter q = .ok q') :
    names.foldl (fun place name => if name = ".." then place.dropLast else t.follow (place ++ [name])) q = q' := by
  induction names generalizing q with
  | nil => exact Except.ok.inj h
  | cons name names ih =>
      rw [List.foldlM_cons] at h
      cases he : t.enter q name with
      | error e => rw [he] at h; cases h
      | ok r =>
          rw [he] at h
          have hr : (if name = ".." then q.dropLast else t.follow (q ++ [name])) = r := by
            rw [enter] at he
            split at he
            · cases he
            · split at he
              · rename_i hname
                rw [if_pos hname]
                exact Except.ok.inj he
              · rename_i hname
                split at he
                · cases he
                · rw [if_neg hname]
                  exact Except.ok.inj he
            · cases he
          rw [List.foldl_cons, hr]
          exact ih h

theorem Grows.resolve (h : t.Grows t') (p : Path) : t'.resolve p = t.resolve p := by
  have hfollow : t'.follow = t.follow := funext h.follow
  rw [FileTree.resolve, FileTree.resolve, hfollow, h.cwd]

/-- The path of a plain name leads right below the directory, if nothing stands there to lead away. -/
theorem Grows.locate_plain (h : t.Grows t') {f : String} {place : Place} (hf : f ≠ "..")
    (hnone : t.entry? (t.resolve dir ++ [f]) = none) (hplace : t'.locate ⟨dir.root, dir.parts ++ [f]⟩ = .ok place) :
    place = t.resolve dir ++ [f] := by
  rw [FileTree.locate] at hplace
  split at hplace
  · cases hplace
  · have hresolve := resolve_of_foldlM hplace
    rw [List.foldl_append, List.foldl_cons, List.foldl_nil, if_neg hf] at hresolve
    have hself : t.follow (t.resolve dir ++ [f]) = t.resolve dir ++ [f] := follow_eq_self (by simp [hnone])
    rw [← hresolve, ← hself, ← h.follow, ← h.resolve]
    rfl

end FileTree

section

variable {dir : Path} {es : List (String × Artifact)} {t t' : FileTree}

/-- Every path of a plain name leads right below the build directory, to the file of that name. -/
theorem WroteAll.locate_plain (h : WroteAll dir es t t') (hplain : ∀ e ∈ es, '/' ∉ e.1.toList)
    (hempty : ∀ f, t.entry? (t.resolve dir ++ [f]) = none) :
    ∀ e ∈ es, t'.locate (artifactPath e.1 dir) = .ok (t.resolve dir ++ [e.1 ++ artifactSuffix]) := by
  intro e he
  obtain ⟨place, hplace⟩ := h.located e he
  have hbelow := hplace
  rw [artifactPath_plain (hplain e he)] at hbelow
  have hdots : e.1 ++ artifactSuffix ≠ ".." := append_suffix_ne (by decide)
  rw [hplace, h.grows.locate_plain hdots (hempty _) hbelow]

/-- Artifacts of different plain names keep out of each other's way. -/
theorem WroteAll.read_plain (h : WroteAll dir es t t') (hnodup : (es.map Prod.fst).Nodup)
    (hplain : ∀ e ∈ es, '/' ∉ e.1.toList) (hempty : ∀ f, t.entry? (t.resolve dir ++ [f]) = none)
    {e : String × Artifact} (he : e ∈ es) (hreadable : e.2.document.Readable) :
    readArtifact (artifactPath e.1 dir) t' = .ok e.2 := by
  have hplace := h.locate_plain hplain hempty
  obtain ⟨before, after, rfl⟩ := List.append_of_mem he
  refine h.read_last rfl hreadable ?_ ?_
  · intro m hm hsame
    rw [hplace m (List.mem_append_right before (List.mem_cons_of_mem e hm)), hplace e he, Except.ok.injEq,
      List.append_cancel_left_eq, List.cons.injEq] at hsame
    have hname : m.1 = e.1 := (String.append_left_inj _).mp hsame.1
    have hkey : m.1 ∈ after.map Prod.fst := List.mem_map_of_mem hm
    rw [List.map_append, List.map_cons, List.nodup_append, List.nodup_cons] at hnodup
    exact hnodup.2.1.1 (hname ▸ hkey)
  · -- Nothing that swallows what is written can have come to stand there.
    intro hvoid
    simp only [FileTree.look, hplace e he, bind, Except.bind] at hvoid
    split at hvoid
    · rename_i x hx
      cases hvoid
      have hold := h.grows.void _ hx
      rw [hempty] at hold
      cases hold
    · cases hvoid

end

/-! ## Programs -/

theorem Compilation.mem_states_of_mem_artifacts {c : Compilation} {n : String} {a : Artifact}
    (h : (n, a) ∈ c.artifacts.entries) : ∃ s ∈ c.states, s.name = n ∧ s.artifact = a := by
  obtain ⟨s, hs, he⟩ := List.mem_map.mp (Table.mem_of_get?_ofList (Table.get?_of_mem h))
  cases he
  exact ⟨s, hs, rfl, rfl⟩

/-- After the artifacts of a program have been written, a state is read back from its file unless its path
and that of a state written later lead to the same place. If no name of a state holds a separator and nothing
stood right below the build directory, every state is read back. -/
theorem writeArtifacts_read_back {ds : List Declaration} {c : Compilation} (hc : compileProgram ds = .ok c)
    {dir : Path} {t t' : FileTree} {paths : List Path} (hrun : (writeArtifacts c dir).run t = (.ok paths, t')) :
    (∀ before n a after, c.artifacts.entries = before ++ (n, a) :: after →
      (∀ m ∈ after, t'.locate (artifactPath m.1 dir) ≠ t'.locate (artifactPath n dir)) →
      t'.look (artifactPath n dir) ≠ .ok .void → readArtifact (artifactPath n dir) t' = .ok a) ∧
    ((∀ n ∈ c.stateNames, '/' ∉ n.toList) → (∀ f, t.entry? (t.resolve dir ++ [f]) = none) →
      ∀ n a, c.artifact? n = some a → readArtifact (artifactPath n dir) t' = .ok a) := by
  have hwrote : WroteAll dir c.artifacts.entries t t' := wroteAll_of_mapM hrun
  have hreadable : ∀ e ∈ c.artifacts.entries, e.2.document.Readable := by
    intro e he
    obtain ⟨s, hs, -, hartifact⟩ := Compilation.mem_states_of_mem_artifacts he
    exact hartifact ▸ readable_of_compileProgram hc hs
  constructor
  · intro before n a after hes hafter hvoid
    have he : (n, a) ∈ c.artifacts.entries := by
      rw [hes]
      exact List.mem_append_right before List.mem_cons_self
    exact hwrote.read_last (e := (n, a)) hes (hreadable _ he) hafter hvoid
  · intro hplain hempty n a ha
    have hplain' : ∀ e ∈ c.artifacts.entries, '/' ∉ e.1.toList := by
      intro e he
      obtain ⟨s, hs, hname, -⟩ := Compilation.mem_states_of_mem_artifacts he
      exact hname ▸ hplain s.name (List.mem_map_of_mem hs)
    have he : (n, a) ∈ c.artifacts.entries := Table.mem_of_get? ha
    exact hwrote.read_plain (e := (n, a)) c.artifacts.nodup hplain' hempty he (hreadable _ he)

/-! ## Names of one place -/

/-- A state of the given name with a hyperedge of its own. -/
def labelled (name label : String) : StateDecl := ⟨name, .groups [[label]], .item (.inline ["r"]), none⟩

/-- The names of the last two states lead to one place. -/
def overlapping : List Declaration :=
  [.state (labelled "b" "z"), .state (labelled "a" "x"), .state (labelled "./a" "y")]

def separate : List Declaration := [.state (labelled "b" "z"), .state (labelled "a" "x")]

def compiledOf (ds : List Declaration) : Compilation :=
  ⟨(stateDecls ds).map (Symbols.ofDeclarations ds).compiled, (check ds).warnings⟩

/-- What is compiled of the state with this name and hyperedge. -/
def labelledArtifact (name label : String) : Artifact := Symbols.compileState (.ofDeclarations []) (labelled name label)

def buildDir : Path := ⟨.relative, ["build"]⟩

/-- A build directory with nothing in it. -/
def freshTree : FileTree := FileTree.put ⟨∅, []⟩ ["build"] .directory

def builtTree (ds : List Declaration) : FileTree := ((writeArtifacts (compiledOf ds) buildDir).run freshTree).2

theorem run_builtTree (ds : List Declaration)
    (h : ((writeArtifacts (compiledOf ds) buildDir).run freshTree).1.toBool = true) :
    ∃ paths, (writeArtifacts (compiledOf ds) buildDir).run freshTree = (.ok paths, builtTree ds) := by
  cases hrun : (writeArtifacts (compiledOf ds) buildDir).run freshTree with
  | mk r t =>
      rw [hrun] at h
      cases r with
      | error e => cases h
      | ok paths => exact ⟨paths, by rw [builtTree, hrun]⟩

theorem entries_overlapping : (compiledOf overlapping).artifacts.entries =
    [] ++ ("b", labelledArtifact "b" "z") :: [("a", labelledArtifact "a" "x"), ("./a", labelledArtifact "./a" "y")] :=
  rfl

theorem nothing_in_freshTree (f : String) : freshTree.entry? (freshTree.resolve buildDir ++ [f]) = none := rfl

theorem writeArtifacts_read_back_labelled :
    (compileProgram overlapping = .ok (compiledOf overlapping) ∧
      (∃ paths, (writeArtifacts (compiledOf overlapping) buildDir).run freshTree = (.ok paths, builtTree overlapping)) ∧
      readArtifact (artifactPath "b" buildDir) (builtTree overlapping) = .ok (labelledArtifact "b" "z")) ∧
    (compileProgram separate = .ok (compiledOf separate) ∧
      (∃ paths, (writeArtifacts (compiledOf separate) buildDir).run freshTree = (.ok paths, builtTree separate)) ∧
      readArtifact (artifactPath "a" buildDir) (builtTree separate) = .ok (labelledArtifact "a" "x")) := by
  have hoverlapping : compileProgram overlapping = .ok (compiledOf overlapping) := rfl
  have hseparate : compileProgram separate = .ok (compiledOf separate) := rfl
  obtain ⟨paths, hrun⟩ := run_builtTree overlapping (by decide +kernel)
  obtain ⟨paths', hrun'⟩ := run_builtTree separate (by decide +kernel)
  refine ⟨⟨hoverlapping, ⟨paths, hrun⟩, ?_⟩, hseparate, ⟨paths', hrun'⟩, ?_⟩
  · refine (writeArtifacts_read_back hoverlapping hrun).1 [] "b" _ _ entries_overlapping ?_ ?_
    · have hother : ∀ n ∈ ["a", "./a"], (builtTree overlapping).locate (artifactPath n buildDir) ≠
          (builtTree overlapping).locate (artifactPath "b" buildDir) := by
        decide +kernel
      exact fun m hm => hother m.1 (List.mem_map_of_mem (f := Prod.fst) hm)
    · decide +kernel
  · exact (writeArtifacts_read_back hseparate hrun').2 (by decide) nothing_in_freshTree "a" _ rfl

/-- An artifact is lost: the file of the state holds that of another one. -/
theorem writeArtifacts_overlapping :
    compileProgram overlapping = .ok (compiledOf overlapping) ∧
    (∀ f, freshTree.entry? (freshTree.resolve buildDir ++ [f]) = none) ∧
    (∃ paths, (writeArtifacts (compiledOf overlapping) buildDir).run freshTree = (.ok paths, builtTree overlapping)) ∧
    (compiledOf overlapping).artifact? "a" = some (labelledArtifact "a" "x") ∧
    readArtifact (artifactPath "a" buildDir) (builtTree overlapping) ≠ .ok (labelledArtifact "a" "x") := by
  have hcompiles : compileProgram overlapping = .ok (compiledOf overlapping) := rfl
  obtain ⟨paths, hrun⟩ := run_builtTree overlapping (by decide +kernel)
  refine ⟨hcompiles, nothing_in_freshTree, ⟨paths, hrun⟩, rfl, ?_⟩
  have hpath : artifactPath "./a" buildDir = artifactPath "a" buildDir := by decide
  have hvoid : (builtTree overlapping).look (artifactPath "./a" buildDir) ≠ .ok .void := by decide +kernel
  have hreadable : (labelledArtifact "./a" "y").document.Readable :=
    readable_of_compileProgram hcompiles
      (s := ⟨"./a", labelledArtifact "./a" "y", (labelledArtifact "./a" "y").preview⟩)
      (List.mem_cons_of_mem _ (List.mem_cons_of_mem _ List.mem_cons_self))
  have hlast : (compiledOf overlapping).artifacts.entries =
      [("b", labelledArtifact "b" "z"), ("a", labelledArtifact "a" "x")] ++ ("./a", labelledArtifact "./a" "y") :: [] :=
    rfl
  have hread := (wroteAll_of_mapM hrun).read_last hlast hreadable (by simp) hvoid
  rw [← hpath, hread]
  intro h
  exact absurd (Except.ok.inj h) (by decide)

end HyperEvolve
