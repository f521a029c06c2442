import HyperEvolve.Proofs.Storage.Builds

/-!
# Files below the build directory

The file of a state is named by the build directory with the name of the state below it, so the name alone
decides where the file goes. It goes below every build directory if the name is relative and its parts never
climb above where they start, and under no other condition: an absolute name replaces the directory, and a name
that climbs leaves it for a directory whose own name it does not know.
-/

namespace HyperEvolve

namespace Path

/-- Strictly below a directory, once `..` has been resolved without looking at the files. -/
def IsBelow (cwd : List String) (p dir : Path) : Prop :=
  dir.resolve cwd <+: p.resolve cwd ∧ p.resolve cwd ≠ dir.resolve cwd

instance (cwd : List String) (p dir : Path) : Decidable (IsBelow cwd p dir) := inferInstanceAs (Decidable (_ ∧ _))

/-- Names that never lead above their start, of which `depth` have been entered so far and not been left. -/
def Stays : Nat → List String → Prop
  | _, [] => True
  | depth, name :: names =>
    if name = ".." then 0 < depth ∧ Stays (depth - 1) names else Stays (depth + 1) names

instance decidableStays : (depth : Nat) → (names : List String) → Decidable (Stays depth names)
  | _, [] => inferInstanceAs (Decidable True)
  | depth, name :: names =>
    if h : name = ".." then
      have := decidableStays (depth - 1) names
      decidable_of_iff (0 < depth ∧ Stays (depth - 1) names) (by rw [Stays, if_pos h])
    else
      have := decidableStays (depth + 1) names
      decidable_of_iff (Stays (depth + 1) names) (by rw [Stays, if_neg h])

/-! ## Names that stay -/

/-- Names that stay leave what lies above their start as it is. -/
theorem foldl_descend_of_stays {names : List String} (entered above : List String)
    (h : Stays entered.length names) : ∃ left, names.foldl descend (entered ++ above) = left ++ above := by
  induction names generalizing entered with
  | nil => exact ⟨entered, rfl⟩
  | cons name names ih =>
      rw [Stays] at h
      rw [List.foldl_cons, descend]
      split at h
      · rename_i hname
        obtain ⟨hpos, hrest⟩ := h
        cases entered with
        | nil => cases hpos
        | cons last entered =>
            rw [if_pos hname]
            exact ih entered hrest
      · rename_i hname
        rw [if_neg hname]
        exact ih (name :: entered) h

theorem Stays.of_append {names names' : List String} {depth : Nat} (h : Stays depth (names ++ names')) :
    Stays depth names := by
  induction names generalizing depth with
  | nil => trivial
  | cons name names ih =>
      rw [List.cons_append, Stays] at h
      rw [Stays]
      split at h
      · rename_i hname
        rw [if_pos hname]
        exact ⟨h.1, ih h.2⟩
      · rename_i hname
        rw [if_neg hname]
        exact ih h

/-! ## Names that climb -/

theorem mem_foldl_descend {names above : List String} {x : String} (h : x ∈ names.foldl descend above) :
    x ∈ names ∨ x ∈ above := by
  induction names generalizing above with
  | nil => exact .inr h
  | cons name names ih =>
      rw [List.foldl_cons] at h
      rcases ih h with hnames | habove
      · exact .inl (List.mem_cons_of_mem name hnames)
      · rw [descend] at habove
        split at habove
        · exact .inr (List.mem_of_mem_drop habove)
        · rcases List.mem_cons.mp habove with rfl | habove
          · exact .inl List.mem_cons_self
          · exact .inr habove

/-- Names that climb leave the name above their start, and do not come back to it unless it is one of them. -/
theorem notMem_foldl_descend {names : List String} {x : String} (entered : List String)
    (h : ¬ Stays entered.length names) (hnames : x ∉ names) (hentered : x ∉ entered) :
    x ∉ names.foldl descend (entered ++ [x]) := by
  induction names generalizing entered with
  | nil => exact absurd trivial h
  | cons name names ih =>
      rw [List.mem_cons, not_or] at hnames
      rw [Stays] at h
      rw [List.foldl_cons, descend]
      split at h
      · rename_i hname
        rw [if_pos hname]
        cases entered with
        | nil =>
            intro hx
            rcases mem_foldl_descend hx with hx | hx
            · exact hnames.2 hx
            · cases hx
        | cons last entered =>
            rw [List.mem_cons, not_or] at hentered
            exact ih entered (fun hrest => h ⟨Nat.succ_pos _, hrest⟩) hnames.2 hentered.2
      · rename_i hname
        rw [if_neg hname]
        refine ih (name :: entered) h hnames.2 ?_
        rw [List.mem_cons, not_or]
        exact ⟨hnames.1, hentered⟩

theorem resolve_join {q : Path} (hroot : q.root = .relative) (cwd : List String) (dir : Path) :
    (dir.join q).resolve cwd = (q.parts.foldl descend (dir.resolve cwd).reverse).reverse := by
  rw [join, hroot, resolve, resolve, List.reverse_reverse, List.foldl_append]

/-- A relative path that ends in a name and never climbs above where it starts leads below every directory. -/
theorem join_isBelow {q : Path} {init : List String} {last : String} (hparts : q.parts = init ++ [last])
    (hlast : last ≠ "..") (hroot : q.root = .relative) (hstays : Stays 0 q.parts) (cwd : List String)
    (dir : Path) : IsBelow cwd (dir.join q) dir := by
  rw [hparts] at hstays
  obtain ⟨left, hleft⟩ := foldl_descend_of_stays [] (dir.resolve cwd).reverse hstays.of_append
  rw [List.nil_append] at hleft
  have hresolve : (dir.join q).resolve cwd = dir.resolve cwd ++ (left.reverse ++ [last]) := by
    rw [resolve_join hroot, hparts, List.foldl_append, List.foldl_cons, List.foldl_nil, descend, if_neg hlast, hleft]
    simp
  rw [IsBelow, hresolve]
  refine ⟨List.prefix_append _ _, ?_⟩
  simp

theorem exists_length_le (names : List String) : ∃ bound, ∀ x ∈ names, x.length ≤ bound := by
  induction names with
  | nil => exact ⟨0, fun x hx => by cases hx⟩
  | cons name names ih =>
      obtain ⟨bound, hbound⟩ := ih
      refine ⟨max name.length bound, List.forall_mem_cons.mpr ⟨Nat.le_max_left _ _, ?_⟩⟩
      exact fun x hx => Nat.le_trans (hbound x hx) (Nat.le_max_right _ _)

theorem exists_plain_notMem (names : List String) :
    ∃ x : String, '/' ∉ x.toList ∧ x ≠ "" ∧ x ≠ "." ∧ x ≠ ".." ∧ x ∉ names := by
  obtain ⟨bound, hbound⟩ := exists_length_le names
  let x := String.ofList (List.replicate (bound + 3) 'x')
  have hlength : x.length = bound + 3 := by simp [x]
  have hne : ∀ s : String, s.length < 3 → x ≠ s := by
    rintro s hs rfl
    omega
  refine ⟨x, ?_, hne "" (by decide), hne "." (by decide), hne ".." (by decide), ?_⟩
  · simp [x]
  · intro hx
    have hle := hbound x hx
    omega

/-- No other path leads below every directory: an absolute one does not lead below itself, and one that climbs
leaves a directory whose name it does not hold. -/
theorem stays_of_join_isBelow {s : String}
    (h : ∀ cwd d, IsBelow cwd ((ofString d).join (ofString s)) (ofString d)) :
    (ofString s).root = .relative ∧ Stays 0 (ofString s).parts := by
  have hroot : (ofString s).root = .relative := by
    by_contra hroot
    have hself : (ofString s).join (ofString s) = ofString s := by
      rw [join]
      split
      · exact absurd ‹_› hroot
      · rfl
    have hbelow := h [] s
    rw [hself] at hbelow
    exact hbelow.2 rfl
  refine ⟨hroot, ?_⟩
  by_contra hclimbs
  obtain ⟨x, hslash, hempty, hdot, hdots, hx⟩ := exists_plain_notMem (ofString s).parts
  have hdir : (ofString x).resolve [] = [x] := by
    rw [ofString_plain hslash hempty hdot, resolve, List.foldl_cons, List.foldl_nil, descend, if_neg hdots]
    rfl
  have hprefix := (h [] x).1
  rw [resolve_join hroot, hdir] at hprefix
  have hmem := hprefix.mem List.mem_cons_self
  rw [List.mem_reverse] at hmem
  exact notMem_foldl_descend [] hclimbs hx List.not_mem_nil hmem

/-! ## Names of states -/

theorem splitSlash_append (cs : List Char) {ds : List Char} (h : '/' ∉ ds) :
    ∃ init last, splitSlash (cs ++ ds) = init ++ [last ++ ds] := by
  induction cs with
  | nil => exact ⟨[], [], splitSlash_plain h⟩
  | cons c cs ih =>
      obtain ⟨init, last, hsplit⟩ := ih
      rw [List.cons_append, splitSlash, hsplit]
      split
      · exact ⟨[] :: init, last, rfl⟩
      · cases init with
        | nil => exact ⟨[], c :: last, rfl⟩
        | cons first init => exact ⟨(c :: first) :: init, last, rfl⟩

end Path

/-- The path that a name of a state stands for ends in a name with the suffix of artifacts. -/
theorem parts_ofString_suffix (n : String) :
    ∃ init last, (Path.ofString (n ++ artifactSuffix)).parts = init ++ [last ++ artifactSuffix] := by
  have hplain : '/' ∉ artifactSuffix.toList := by decide
  obtain ⟨init, last, hsplit⟩ := Path.splitSlash_append n.toList hplain
  have hlast : String.ofList (last ++ artifactSuffix.toList) = String.ofList last ++ artifactSuffix := by
    rw [String.ofList_append, String.ofList_toList]
  refine ⟨(init.map String.ofList).filter fun p => p ≠ "" && p ≠ ".", String.ofList last, ?_⟩
  rw [Path.ofString, String.toList_append, hsplit, List.map_append, List.filter_append, List.map_singleton, hlast]
  have hempty : String.ofList last ++ artifactSuffix ≠ "" := append_suffix_ne (by decide)
  have hdot : String.ofList last ++ artifactSuffix ≠ "." := append_suffix_ne (by decide)
  simp [hempty, hdot]

/-- The name is relative, and its parts never climb above where they start. -/
def StaysBelow (n : String) : Prop :=
  (Path.ofString (n ++ artifactSuffix)).root = .relative ∧
    Path.Stays 0 (Path.ofString (n ++ artifactSuffix)).parts

instance (n : String) : Decidable (StaysBelow n) := inferInstanceAs (Decidable (_ ∧ _))

theorem artifactPath_isBelow {n : String} (h : StaysBelow n) (cwd : List String) (dir : Path) :
    (artifactPath n dir).IsBelow cwd dir := by
  obtain ⟨init, last, hparts⟩ := parts_ofString_suffix n
  exact Path.join_isBelow hparts (append_suffix_ne (by decide)) h.1 h.2 cwd dir

/-! ## Programs -/

theorem paths_of_mapM {dir : Path} {es : List (String × Artifact)} {t t' : FileTree} {paths : List Path}
    (h : Disk.run (es.mapM fun e => do
      let p := artifactPath e.1 dir
      writeArtifact e.2 p
      return p) t = (.ok paths, t')) : paths = es.map fun e => artifactPath e.1 dir := by
  induction es generalizing t paths with
  | nil =>
      cases h
      rfl
  | cons e es ih =>
      obtain ⟨_, t₁, rest, hfirst, hothers, rfl⟩ := Disk.run_mapM_cons_ok h
      obtain ⟨_, t₂, -, hpure⟩ := Disk.run_bind_ok hfirst
      cases hpure
      rw [ih hothers, List.map_cons]

theorem mem_keys_artifacts {ds : List Declaration} {c : Compilation} (h : compileProgram ds = .ok c) {n : String} :
    n ∈ c.artifacts.keys ↔ ∃ s, .state s ∈ ds ∧ s.name = n := by
  rw [Compilation.artifacts, Table.mem_keys_ofList, states_of_ok h]
  simp only [List.map_map, List.mem_map, Function.comp_apply, mem_stateDecls]
  rfl

/-- The artifacts of a program are written to the paths of its states. These lie below every build directory
if the name of the state is relative and never climbs above where it starts, and for no other name. -/
theorem writeArtifacts_below_iff {ε : Type} {parser : Parser ε} {text : Text} {r : CompileReport}
    (hr : compileText parser text = .ok r) :
    ∃ ds, parser text = .ok ds ∧
      (∀ dir t paths t', (writeArtifacts r.compilation dir).run t = (.ok paths, t') →
        ∀ p, p ∈ paths ↔ ∃ s, .state s ∈ ds ∧ p = artifactPath s.name dir) ∧
      ∀ s, .state s ∈ ds →
        (StaysBelow s.name → ∀ cwd dir, (artifactPath s.name dir).IsBelow cwd dir) ∧
        ((∀ cwd d, (artifactPath s.name (.ofString d)).IsBelow cwd (.ofString d)) → StaysBelow s.name) := by
  obtain ⟨ds, hparse, hc⟩ := compileProgram_of_compileText hr
  refine ⟨ds, hparse, ?_, fun s _ => ⟨artifactPath_isBelow, Path.stays_of_join_isBelow⟩⟩
  intro dir t paths t' hrun p
  have hpaths : paths = r.compilation.artifacts.keys.map fun n => artifactPath n dir := by
    rw [paths_of_mapM hrun, Table.keys, List.map_map]
    rfl
  rw [hpaths, List.mem_map]
  constructor
  · rintro ⟨n, hn, rfl⟩
    obtain ⟨s, hs, rfl⟩ := (mem_keys_artifacts hc).mp hn
    exact ⟨s, hs, rfl⟩
  · rintro ⟨s, hs, rfl⟩
    exact ⟨s.name, (mem_keys_artifacts hc).mpr ⟨s, hs, rfl⟩, rfl⟩

/-! ## A program that climbs -/

/-- A name that turns back but stays, one that climbs and one that is absolute. -/
def climbingProgram : List Declaration :=
  [.state (labelled "in/../a" "x"), .state (labelled "../b" "y"), .state (labelled "/c" "z")]

def climbingText : Text := .ofChars (programTree climbingProgram).write

def climbingReport : CompileReport := ⟨compiledOf climbingProgram, 3⟩

theorem treeParser_climbingText : treeParser climbingText = .ok climbingProgram := by
  have hparse : parseDeclarations climbingText = .ok climbingProgram := by decide +kernel
  rw [treeParser, hparse]

theorem compileText_climbingText : compileText treeParser climbingText = .ok climbingReport := by
  rw [compileText, treeParser_climbingText]
  rfl

theorem writeArtifacts_below_iff_climbingText :
    compileText treeParser climbingText = .ok climbingReport ∧
    (∃ paths, (writeArtifacts (compiledOf climbingProgram) buildDir).run freshTree =
        (.ok paths, builtTree climbingProgram) ∧ ⟨.slash, ["c.hg.json"]⟩ ∈ paths) ∧
    (∀ cwd dir, (artifactPath "in/../a" dir).IsBelow cwd dir) ∧
    ¬ ∀ cwd d, (artifactPath "../b" (.ofString d)).IsBelow cwd (.ofString d) := by
  obtain ⟨ds, hparse, hpaths, hbelow⟩ := writeArtifacts_below_iff compileText_climbingText
  obtain rfl : climbingProgram = ds := Except.ok.inj (treeParser_climbingText.symm.trans hparse)
  obtain ⟨paths, hrun⟩ := run_builtTree climbingProgram (by decide +kernel)
  have hstays : StaysBelow (labelled "in/../a" "x").name := by decide
  have hclimbs : ¬ StaysBelow (labelled "../b" "y").name := by decide
  refine ⟨compileText_climbingText, ⟨paths, hrun, ?_⟩, ?_, ?_⟩
  · exact (hpaths _ _ _ _ hrun _).mpr ⟨labelled "/c" "z", by simp [climbingProgram], by decide⟩
  · exact (hbelow (labelled "in/../a" "x") (by simp [climbingProgram])).1 hstays
  · exact fun h => hclimbs ((hbelow (labelled "../b" "y") (by simp [climbingProgram])).2 h)

/-- Two of the files are written next to the build directory and at the root, not below it. -/
theorem writeArtifacts_outside :
    compileText treeParser climbingText = .ok climbingReport ∧
    (∃ paths, (writeArtifacts (compiledOf climbingProgram) buildDir).run freshTree =
        (.ok paths, builtTree climbingProgram)) ∧
    ∀ n ∈ ["../b", "/c"], n ∈ climbingReport.compilation.stateNames ∧
      ¬ (artifactPath n buildDir).IsBelow freshTree.cwd buildDir := by
  have hnames : ∀ n ∈ ["../b", "/c"], n ∈ climbingReport.compilation.stateNames := by decide
  have hoff : ∀ n ∈ ["../b", "/c"], ¬ (artifactPath n buildDir).IsBelow freshTree.cwd buildDir := by decide
  refine ⟨compileText_climbingText, run_builtTree climbingProgram (by decide +kernel), ?_⟩
  exact fun n hn => ⟨hnames n hn, hoff n hn⟩

end HyperEvolve
