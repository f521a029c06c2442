import Mathlib.Data.Finset.Card
import Mathlib.Data.Finset.Dedup
import Mathlib.Data.List.Chain
import Mathlib.Logic.Relation
import HyperEvolve.Program.Cycle
import HyperEvolve.Proofs.Table

/-!
# The walk finds a cycle exactly when there is one

A name is grounded when every chain of references from it ends. The walk keeps its finished names
grounded, and its trail is a chain without repetition, so that a reference back into the trail closes
a cycle. Both follow from what one reference does (`follow`) and one visit does. The trail never
outgrows the map, so the depth of the walk always suffices.
-/

namespace HyperEvolve.References

variable {g : References}

/-- What the first name refers to includes the second. -/
def Refers (g : References) (a b : String) : Prop := b ∈ g.targets a

/-- Every chain of references from the name ends. -/
def Grounded (g : References) (a : String) : Prop := Acc (fun b a => g.Refers a b) a

/-- A closed chain of references that meets no name twice before it closes. -/
structure IsCycle (g : References) (c : List String) : Prop where
  two_le : 2 ≤ c.length
  closed : c.head? = c.getLast?
  chain : c.IsChain g.Refers
  nodup : c.dropLast.Nodup

theorem Refers.mem_keys {a b : String} (h : g.Refers a b) : a ∈ g.keys := by
  rw [← Table.isSome_get?_iff]
  cases ha : g.get? a with
  | none => simp [Refers, targets, ha] at h
  | some ts => rfl

theorem Grounded.intro {a : String} (h : ∀ b ∈ g.targets a, g.Grounded b) : g.Grounded a := Acc.intro a h

/-! ## Following references -/

theorem follow_eq_ok {trail done done' : List String} {enter : List String → String → Walk} {x : String}
    (h : follow trail enter done x = .ok done') :
    x ∈ done ∧ done' = done ∨ enter done x = .ok done' := by
  unfold follow at h
  split at h
  · cases h
  · split at h
    · rename_i hx; cases h; exact Or.inl ⟨hx, rfl⟩
    · exact Or.inr h

theorem follow_eq_error {trail done : List String} {enter : List String → String → Walk} {x : String}
    {e : Stop} (h : follow trail enter done x = .error e) :
    x ∈ trail ∧ e = .cycle (trail.dropWhile (· ≠ x) ++ [x]) ∨ x ∉ trail ∧ enter done x = .error e := by
  unfold follow at h
  split at h
  · rename_i hx; cases h; exact Or.inl ⟨hx, rfl⟩
  · rename_i hx
    split at h
    · cases h
    · exact Or.inr ⟨hx, h⟩

/-- A fold stops where one of its steps stops. -/
theorem foldlM_eq_error {f : List String → String → Walk} {xs done : List String} {e : Stop}
    (h : xs.foldlM f done = .error e) : ∃ x ∈ xs, ∃ done', f done' x = .error e := by
  induction xs generalizing done with
  | nil => cases h
  | cons x xs ih =>
      rw [List.foldlM_cons] at h
      cases hx : f done x with
      | error e' =>
          rw [hx] at h
          cases h
          exact ⟨x, by simp, done, hx⟩
      | ok done' =>
          rw [hx] at h
          obtain ⟨y, hy, d, hd⟩ := ih h
          exact ⟨y, List.mem_cons_of_mem _ hy, d, hd⟩

theorem visit_succ (g : References) (depth : Nat) (trail done : List String) (name : String) :
    g.visit (depth + 1) trail done name =
      ((g.targets name).foldlM (follow (trail ++ [name]) (g.visit depth (trail ++ [name]))) done).map
        (name :: ·) := rfl

theorem map_eq_error {α β : Type} {f : α → β} {r : Except Stop α} {e : Stop} (h : r.map f = .error e) :
    r = .error e := by
  cases r with
  | error e' => cases h; rfl
  | ok a => cases h

/-- A visit stops at a reference that closes a cycle, or where a deeper visit stops. -/
theorem visit_eq_error {depth : Nat} {trail done : List String} {name : String} {e : Stop}
    (h : g.visit (depth + 1) trail done name = .error e) :
    ∃ x, g.Refers name x ∧
      (x ∈ trail ++ [name] ∧ e = .cycle ((trail ++ [name]).dropWhile (· ≠ x) ++ [x]) ∨
        x ∉ trail ++ [name] ∧ ∃ done', g.visit depth (trail ++ [name]) done' x = .error e) := by
  rw [visit_succ] at h
  obtain ⟨x, hx, done', hf⟩ := foldlM_eq_error (map_eq_error h)
  refine ⟨x, hx, ?_⟩
  rcases follow_eq_error hf with hc | ⟨hn, he⟩
  · exact Or.inl hc
  · exact Or.inr ⟨hn, done', he⟩

/-! ## Finished names are grounded -/

/-- What a step of the walk does to the finished names: none is lost, and they stay grounded. -/
def Settles (g : References) (done done' : List String) : Prop :=
  (∀ a ∈ done, a ∈ done') ∧ ((∀ a ∈ done, g.Grounded a) → ∀ a ∈ done', g.Grounded a)

theorem Settles.refl (done : List String) : g.Settles done done := ⟨fun _ h => h, fun h => h⟩

theorem Settles.trans {d₁ d₂ d₃ : List String} (h : g.Settles d₁ d₂) (h' : g.Settles d₂ d₃) :
    g.Settles d₁ d₃ :=
  ⟨fun a ha => h'.1 a (h.1 a ha), fun hd => h'.2 (h.2 hd)⟩

theorem foldlM_settles {f : List String → String → Walk} {xs done done' : List String}
    (hf : ∀ x d d', f d x = .ok d' → g.Settles d d' ∧ x ∈ d') (h : xs.foldlM f done = .ok done') :
    g.Settles done done' ∧ ∀ x ∈ xs, x ∈ done' := by
  induction xs generalizing done with
  | nil => cases h; exact ⟨.refl _, by simp⟩
  | cons x xs ih =>
      rw [List.foldlM_cons] at h
      cases hx : f done x with
      | error e => rw [hx] at h; cases h
      | ok d =>
          rw [hx] at h
          obtain ⟨h₁, hd⟩ := hf x done d hx
          obtain ⟨h₂, hxs⟩ := ih h
          refine ⟨h₁.trans h₂, ?_⟩
          intro y hy
          rcases List.mem_cons.mp hy with rfl | hy
          · exact h₂.1 _ hd
          · exact hxs y hy

theorem follow_settles {trail done done' : List String} {enter : List String → String → Walk} {x : String}
    (henter : ∀ d d', enter d x = .ok d' → g.Settles d d' ∧ x ∈ d')
    (h : follow trail enter done x = .ok done') : g.Settles done done' ∧ x ∈ done' := by
  rcases follow_eq_ok h with ⟨hx, rfl⟩ | he
  · exact ⟨.refl _, hx⟩
  · exact henter _ _ he

/-- A visit that ends has finished its name. -/
theorem visit_settles {depth : Nat} {trail done done' : List String} {name : String}
    (h : g.visit depth trail done name = .ok done') : g.Settles done done' ∧ name ∈ done' := by
  induction depth generalizing trail done done' name with
  | zero => cases h
  | succ depth ih =>
      rw [visit_succ] at h
      cases hf : (g.targets name).foldlM
          (follow (trail ++ [name]) (g.visit depth (trail ++ [name]))) done with
      | error e => rw [hf] at h; cases h
      | ok d =>
          rw [hf] at h
          cases h
          obtain ⟨hs, ht⟩ := foldlM_settles (g := g)
            (fun x d d' hd => follow_settles (fun _ _ he => ih he) hd) hf
          refine ⟨⟨fun a ha => List.mem_cons_of_mem _ (hs.1 a ha), ?_⟩, by simp⟩
          intro hdone a ha
          have hd := hs.2 hdone
          rcases List.mem_cons.mp ha with rfl | ha
          · exact .intro fun b hb => hd b (ht b hb)
          · exact hd a ha

/-- A walk that ends leaves every name grounded. -/
theorem grounded_of_walk {depth : Nat} {done : List String} (h : g.walkWithin depth = .ok done)
    (a : String) : g.Grounded a := by
  obtain ⟨hs, hk⟩ := foldlM_settles (g := g)
    (fun x d d' hd => follow_settles (fun _ _ he => visit_settles he) hd) h
  have hdone := hs.2 (by simp)
  by_cases ha : a ∈ g.keys
  · exact hdone a (hk a ha)
  · exact .intro fun b hb => absurd (Refers.mem_keys hb) ha

/-! ## What is reported is a cycle -/

theorem dropWhile_ne {l : List String} {x : String} (h : x ∈ l) :
    ∃ q, l.dropWhile (· ≠ x) = x :: q := by
  induction l with
  | nil => cases h
  | cons y l ih =>
      by_cases hy : y = x
      · subst hy; exact ⟨l, by simp⟩
      · obtain ⟨q, hq⟩ := ih ((List.mem_cons.mp h).resolve_left (Ne.symm hy))
        exact ⟨q, by simpa [hy] using hq⟩

theorem isCycle_of_back {trail : List String} {name x : String} (hc : (trail ++ [name]).IsChain g.Refers)
    (hn : (trail ++ [name]).Nodup) (hx : x ∈ trail ++ [name]) (hr : g.Refers name x) :
    g.IsCycle ((trail ++ [name]).dropWhile (· ≠ x) ++ [x]) := by
  obtain ⟨q, hq⟩ := dropWhile_ne hx
  have hsuf : (x :: q) <:+ trail ++ [name] := hq ▸ List.dropWhile_suffix _
  have hlast : (x :: q).getLast? = some name := by
    obtain ⟨p, hp⟩ := hsuf
    have h := congrArg List.getLast? hp
    rwa [List.getLast?_append_of_ne_nil _ (by simp), List.getLast?_concat] at h
  rw [hq]
  refine ⟨by simp, by rw [List.getLast?_concat]; rfl, ?_, ?_⟩
  · refine List.isChain_append.mpr ⟨hc.suffix hsuf, by simp, ?_⟩
    intro a ha b hb
    rw [hlast] at ha
    cases ha; cases hb
    exact hr
  · rw [List.dropLast_concat]
    exact hn.sublist hsuf.sublist

/-- The trail of a visit is a chain of references without repetition, and so is what it becomes below
a new reference. -/
theorem isChain_extend {trail : List String} {name x : String} (hc : (trail ++ [name]).IsChain g.Refers)
    (hr : g.Refers name x) : (trail ++ [name] ++ [x]).IsChain g.Refers := by
  refine List.isChain_append.mpr ⟨hc, by simp, ?_⟩
  intro a ha b hb
  rw [List.getLast?_concat] at ha
  cases ha; cases hb
  exact hr

theorem nodup_extend {trail : List String} {x : String} (hn : trail.Nodup) (hx : x ∉ trail) :
    (trail ++ [x]).Nodup := by
  rw [List.nodup_append]
  exact ⟨hn, by simp, by rintro a ha b hb rfl; simp at hb; exact hx (hb ▸ ha)⟩

theorem visit_isCycle {depth : Nat} {trail done c : List String} {name : String}
    (hc : (trail ++ [name]).IsChain g.Refers) (hn : (trail ++ [name]).Nodup)
    (h : g.visit depth trail done name = .error (.cycle c)) : g.IsCycle c := by
  induction depth generalizing trail done name with
  | zero => cases h
  | succ depth ih =>
      obtain ⟨x, hr, ⟨hx, he⟩ | ⟨hx, d, hd⟩⟩ := visit_eq_error h
      · cases he
        exact isCycle_of_back hc hn hx hr
      · exact ih (isChain_extend hc hr) (nodup_extend hn hx) hd

theorem walkWithin_isCycle {depth : Nat} {c : List String} (h : g.walkWithin depth = .error (.cycle c)) :
    g.IsCycle c := by
  obtain ⟨x, -, d, hd⟩ := foldlM_eq_error h
  rcases follow_eq_error hd with ⟨hx, -⟩ | ⟨-, he⟩
  · cases hx
  · exact visit_isCycle (by simp) (by simp) he

/-! ## The depth suffices -/

/-- The names of a trail all refer to something, so they are names of the map. -/
theorem visit_ne_depth {depth : Nat} {trail done : List String} {name : String} (hn : trail.Nodup)
    (hk : trail ⊆ g.keys) (hname : name ∉ trail) (hd : g.size < depth + trail.length) :
    g.visit depth trail done name ≠ .error .depth := by
  induction depth generalizing trail done name with
  | zero =>
      have := hn.length_le_of_subset hk
      rw [Table.length_keys] at this
      omega
  | succ depth ih =>
      intro h
      obtain ⟨x, hr, ⟨-, he⟩ | ⟨hx, d, hd'⟩⟩ := visit_eq_error h
      · cases he
      · refine ih (nodup_extend hn hname) ?_ hx ?_ hd'
        · intro a ha
          rcases List.mem_append.mp ha with ha | ha
          · exact hk ha
          · rw [List.mem_singleton.mp ha]; exact hr.mem_keys
        · simp only [List.length_append, List.length_singleton]; omega

theorem walk_ne_depth (g : References) : g.walk ≠ .error .depth := by
  intro h
  obtain ⟨x, -, d, hd⟩ := foldlM_eq_error h
  rcases follow_eq_error hd with ⟨-, he⟩ | ⟨-, he⟩
  · cases he
  · exact visit_ne_depth List.nodup_nil (by simp) (by simp) (by simp) he

/-- A fold that does not run out of depth is the same with steps that have more. -/
theorem foldlM_mono {f f' : List String → String → Walk} {xs done : List String}
    (hf : ∀ d x, f d x ≠ .error .depth → f' d x = f d x) (h : xs.foldlM f done ≠ .error .depth) :
    xs.foldlM f' done = xs.foldlM f done := by
  induction xs generalizing done with
  | nil => rfl
  | cons x xs ih =>
      rw [List.foldlM_cons] at h
      rw [List.foldlM_cons, List.foldlM_cons]
      cases hx : f done x with
      | error e =>
          rw [hx] at h
          have he : f done x ≠ .error .depth := by rw [hx]; exact h
          rw [hf done x he, hx]
          rfl
      | ok d =>
          rw [hx] at h
          rw [hf done x (by rw [hx]; simp), hx]
          exact ih h

theorem follow_mono {trail done : List String} {enter enter' : List String → String → Walk} {x : String}
    (he : enter done x ≠ .error .depth → enter' done x = enter done x)
    (h : follow trail enter done x ≠ .error .depth) :
    follow trail enter' done x = follow trail enter done x := by
  unfold follow at h ⊢
  split
  · rfl
  · rename_i hx
    rw [if_neg hx] at h
    split
    · rfl
    · rename_i hd
      rw [if_neg hd] at h
      exact he h

theorem visit_mono {depth : Nat} {trail done : List String} {name : String}
    (h : g.visit depth trail done name ≠ .error .depth) :
    g.visit (depth + 1) trail done name = g.visit depth trail done name := by
  induction depth generalizing trail done name with
  | zero => exact absurd rfl h
  | succ depth ih =>
      rw [visit_succ] at h
      rw [visit_succ g (depth + 1), visit_succ g depth]
      refine congrArg (Except.map (name :: ·)) (foldlM_mono ?_ ?_)
      · intro d x hx
        exact follow_mono ih hx
      · intro he
        rw [he] at h
        exact h rfl

/-- More depth than the map needs changes nothing. -/
theorem walkWithin_eq_walk {depth : Nat} (h : g.size + 1 ≤ depth) : g.walkWithin depth = g.walk := by
  induction depth, h using Nat.le_induction with
  | base => rfl
  | succ depth _ ih =>
      rw [← ih]
      refine foldlM_mono (fun d x hx => follow_mono visit_mono hx) ?_
      intro he
      exact walk_ne_depth g (ih ▸ he)

/-- The first cycle met within a depth, `none` when the depth does not suffice. -/
def cycleWithin (g : References) (depth : Nat) : Option (Option (List String)) :=
  match g.walkWithin depth with
  | .ok _ => some none
  | .error (.cycle c) => some (some c)
  | .error .depth => none

theorem cycleWithin_eq {depth : Nat} (h : g.size + 1 ≤ depth) : g.cycleWithin depth = some g.cycle? := by
  rw [cycleWithin, walkWithin_eq_walk h, cycle?]
  cases hw : g.walk with
  | ok done => rfl
  | error e =>
      cases e with
      | cycle c => rfl
      | depth => exact absurd hw (walk_ne_depth g)

/-! ## The result of the walk -/

theorem cycle?_eq_some {c : List String} (h : g.cycle? = some c) : g.IsCycle c := by
  unfold cycle? at h
  split at h
  · rename_i c' hw
    cases h
    exact walkWithin_isCycle hw
  · cases h

theorem Grounded.not_transGen {a : String} (h : g.Grounded a) : ¬ Relation.TransGen g.Refers a a := by
  induction h with
  | intro a _ ih =>
      intro ht
      obtain ⟨b, hab, hba⟩ := Relation.TransGen.head'_iff.mp ht
      exact ih b hab (Relation.TransGen.tail' hba hab)

theorem transGen_of_isChain {a : String} {l : List String} (hl : l ≠ []) (h : (a :: l).IsChain g.Refers)
    {b : String} (hb : l.getLast? = some b) : Relation.TransGen g.Refers a b := by
  induction l generalizing a with
  | nil => exact absurd rfl hl
  | cons c l ih =>
      rw [List.isChain_cons_cons] at h
      cases l with
      | nil => cases hb; exact .single h.1
      | cons d l => exact .head h.1 (ih (by simp) h.2 (by simpa using hb))

/-- A closed chain leads from its first name back to it. -/
theorem IsCycle.exists_transGen {c : List String} (hc : g.IsCycle c) : ∃ a, Relation.TransGen g.Refers a a := by
  obtain ⟨htwo, hclosed, hchain, -⟩ := hc
  match c, htwo with
  | a :: b :: l, _ =>
      refine ⟨a, transGen_of_isChain (by simp) hchain ?_⟩
      rw [List.head?_cons, List.getLast?_cons_cons] at hclosed
      exact hclosed.symm

/-- No cycle is found exactly when every chain of references ends. -/
theorem cycle?_eq_none_iff : g.cycle? = none ↔ ∀ a, g.Grounded a := by
  constructor
  · intro h
    cases hw : g.walk with
    | ok done => exact grounded_of_walk hw
    | error e =>
        cases e with
        | cycle c => simp [cycle?, hw] at h
        | depth => exact absurd hw (walk_ne_depth g)
  · intro h
    cases hc : g.cycle? with
    | none => rfl
    | some c =>
        obtain ⟨a, ha⟩ := (cycle?_eq_some hc).exists_transGen
        exact absurd ha (h a).not_transGen

/-- No cycle is found exactly when no name leads back to itself. -/
theorem cycle?_eq_none_iff_acyclic : g.cycle? = none ↔ ∀ a, ¬ Relation.TransGen g.Refers a a := by
  constructor
  · intro h a
    exact (cycle?_eq_none_iff.mp h a).not_transGen
  · intro h
    cases hc : g.cycle? with
    | none => rfl
    | some c =>
        obtain ⟨a, ha⟩ := (cycle?_eq_some hc).exists_transGen
        exact absurd ha (h a)

/-- A map whose references are all references of a map without a cycle has none. -/
theorem cycle?_eq_none_of_refers {g' : References} (hr : ∀ a b, g'.Refers a b → g.Refers a b)
    (h : g.cycle? = none) : g'.cycle? = none :=
  cycle?_eq_none_iff.mpr fun a => Subrelation.accessible (fun hba => hr _ _ hba) (cycle?_eq_none_iff.mp h a)

/-- The search for a cycle ends on every map. It finds none exactly when no name leads back to itself, and
what it finds is a closed chain of references that meets no name twice before it closes. -/
theorem cycle?_exact (g : References) :
    (∃ bound, ∀ depth, bound ≤ depth → g.cycleWithin depth = some g.cycle?) ∧
    (g.cycle? = none ↔ ∀ a, ¬ Relation.TransGen g.Refers a a) ∧
    ∀ c, g.cycle? = some c →
      2 ≤ c.length ∧ c.head? = c.getLast? ∧ c.IsChain g.Refers ∧ c.dropLast.Nodup := by
  refine ⟨⟨g.size + 1, fun depth h => cycleWithin_eq h⟩, cycle?_eq_none_iff_acyclic, fun c hc => ?_⟩
  have h := cycle?_eq_some hc
  exact ⟨h.two_le, h.closed, h.chain, h.nodup⟩

/-- A name refers twice to another one, past a name without an entry, and the cycle lies below it. -/
def loopedReferences : References := .ofList [("a", ["x", "b", "b"]), ("b", ["c"]), ("c", ["d", "b"])]

theorem cycle?_exact_loopedReferences :
    loopedReferences.cycle? = some ["b", "c", "b"] ∧
    2 ≤ ["b", "c", "b"].length ∧ ["b", "c", "b"].head? = ["b", "c", "b"].getLast? ∧
      ["b", "c", "b"].IsChain loopedReferences.Refers ∧ ["b", "c", "b"].dropLast.Nodup :=
  ⟨by decide, (cycle?_exact loopedReferences).2.2 _ (by decide)⟩

/-! ## Ranks -/

open scoped Classical in
/-- Number of names of the map that can be reached from a name. -/
noncomputable def rank (g : References) (a : String) : Nat :=
  (g.keys.toFinset.filter fun k => Relation.ReflTransGen g.Refers a k).card

theorem rank_le_size (g : References) (a : String) : g.rank a ≤ g.size := by
  classical
  rw [← Table.length_keys]
  exact (Finset.card_filter_le _ _).trans (List.toFinset_card_le _)

theorem rank_pos {a : String} (h : a ∈ g.keys) : 0 < g.rank a := by
  classical
  refine Finset.card_pos.mpr ⟨a, ?_⟩
  simp only [Finset.mem_filter, List.mem_toFinset]
  exact ⟨h, .refl⟩

/-- A grounded name reaches strictly more names of the map than what it refers to. -/
theorem Refers.rank_lt {a b : String} (h : g.Refers a b) (ha : g.Grounded a) : g.rank b < g.rank a := by
  apply Finset.card_lt_card
  rw [Finset.ssubset_iff_of_subset]
  · refine ⟨a, ?_, ?_⟩
    · simp only [Finset.mem_filter, List.mem_toFinset]
      exact ⟨h.mem_keys, .refl⟩
    · simp only [Finset.mem_filter, not_and]
      intro _ hba
      exact ha.not_transGen (Relation.TransGen.head' h hba)
  · intro k hk
    simp only [Finset.mem_filter] at hk ⊢
    exact ⟨hk.1, .head h hk.2⟩

end HyperEvolve.References
