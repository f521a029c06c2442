import Mathlib.Data.List.Forall2

/-!
# Traversals that may fail

A traversal succeeds exactly when it does at every element.
-/

namespace HyperEvolve

variable {α β : Type}

theorem mapM_eq_pure_map {m : Type → Type} [Monad m] [LawfulMonad m] {f : α → m β} {g : α → β}
    {xs : List α} (h : ∀ x ∈ xs, f x = pure (g x)) : xs.mapM f = pure (xs.map g) := by
  induction xs with
  | nil => rfl
  | cons x xs ih =>
      rw [List.mapM_cons, h x (by simp), ih fun y hy => h y (List.mem_cons_of_mem _ hy)]
      simp

/-- Lists that correspond element by element are traversed alike. -/
theorem mapM_eq_of_forall₂ {γ : Type} {m : Type → Type} [Monad m] [LawfulMonad m] {f : α → m β} {f' : γ → m β}
    {R : α → γ → Prop} (hf : ∀ x y, R x y → f' y = f x) {xs : List α} {ys : List γ} (h : List.Forall₂ R xs ys) :
    ys.mapM f' = xs.mapM f := by
  induction h with
  | nil => rfl
  | cons hxy _ ih => rw [List.mapM_cons, List.mapM_cons, hf _ _ hxy, ih]

/-- What a function tells of each element it tells of the whole list. -/
theorem map_eq_of_map_eq {γ : Type} {f : α → β} {g : α → γ} {xs ys : List α}
    (hfg : ∀ x ∈ xs, ∀ y ∈ ys, f x = f y → g x = g y) (h : xs.map f = ys.map f) : xs.map g = ys.map g := by
  induction xs generalizing ys with
  | nil => rw [List.map_eq_nil_iff.mp h.symm]
  | cons x xs ih =>
      obtain ⟨y, ys, rfl, hxy, hrest⟩ := List.map_eq_cons_iff.mp h.symm
      rw [List.map_cons, List.map_cons, hfg x List.mem_cons_self y List.mem_cons_self hxy.symm]
      exact congrArg _
        (ih (fun x hx y hy => hfg x (List.mem_cons_of_mem _ hx) y (List.mem_cons_of_mem _ hy)) hrest.symm)

theorem exists_of_mapM {f : α → Option β} {xs : List α} {ys : List β} (h : xs.mapM f = some ys) :
    ∀ x ∈ xs, ∃ y, f x = some y := by
  induction xs generalizing ys with
  | nil => intro x hx; cases hx
  | cons x xs ih =>
      simp only [List.mapM_cons, Option.bind_eq_bind, Option.bind_eq_some_iff] at h
      obtain ⟨y, hy, zs, hzs, -⟩ := h
      intro x' hx'
      rcases List.mem_cons.mp hx' with rfl | hx'
      · exact ⟨y, hy⟩
      · exact ih hzs x' hx'

theorem mapM_mono {f f' : α → Option β} {xs : List α} {ys : List β}
    (hf : ∀ x ∈ xs, ∀ y, f x = some y → f' x = some y) (h : xs.mapM f = some ys) :
    xs.mapM f' = some ys := by
  induction xs generalizing ys with
  | nil => exact h
  | cons x xs ih =>
      simp only [List.mapM_cons, Option.bind_eq_bind, Option.bind_eq_some_iff] at h ⊢
      obtain ⟨y, hy, zs, hzs, hys⟩ := h
      exact ⟨y, hf x (by simp) y hy, zs, ih (fun z hz => hf z (List.mem_cons_of_mem _ hz)) hzs, hys⟩

/-! ## Results with an error -/

section Except

variable {ε : Type}

theorem bind_eq_ok_iff {r : Except ε α} {f : α → Except ε β} {y : β} :
    (r >>= f) = .ok y ↔ ∃ x, r = .ok x ∧ f x = .ok y := by
  cases r <;> simp [bind, Except.bind]

theorem bind_eq_error_iff {r : Except ε α} {f : α → Except ε β} {e : ε} :
    (r >>= f) = .error e ↔ r = .error e ∨ ∃ x, r = .ok x ∧ f x = .error e := by
  cases r <;> simp [bind, Except.bind]

theorem map_eq_ok_iff {r : Except ε α} {f : α → β} {y : β} : r.map f = .ok y ↔ ∃ x, r = .ok x ∧ f x = y := by
  cases r <;> simp [Except.map]

theorem mapM_eq_ok_iff {f : α → Except ε β} {xs : List α} {ys : List β} :
    xs.mapM f = .ok ys ↔ List.Forall₂ (fun x y => f x = .ok y) xs ys := by
  induction xs generalizing ys with
  | nil => cases ys <;> simp [pure, Except.pure]
  | cons x xs ih =>
      simp only [List.mapM_cons, bind_eq_ok_iff, pure, Except.pure, Except.ok.injEq, ih]
      constructor
      · rintro ⟨y, hy, ys, hys, rfl⟩
        exact .cons hy hys
      · rintro (_ | ⟨hy, hys⟩)
        exact ⟨_, hy, _, hys, rfl⟩

/-- What is told of each result is what is told of the element it comes from. -/
theorem map_eq_of_mapM {γ : Type} {f : α → Except ε β} {g : β → γ} {g' : α → γ} {xs : List α} {ys : List β}
    (hg : ∀ x ∈ xs, ∀ y, f x = .ok y → g y = g' x) (h : xs.mapM f = .ok ys) : ys.map g = xs.map g' := by
  induction mapM_eq_ok_iff.mp h with
  | nil => rfl
  | cons hxy hrest ih =>
      obtain ⟨hx, hg⟩ := List.forall_mem_cons.mp hg
      rw [List.map_cons, List.map_cons, hx _ hxy, ih hg (mapM_eq_ok_iff.mpr hrest)]

theorem exists_mapM_eq_ok_iff {f : α → Except ε β} {xs : List α} :
    (∃ ys, xs.mapM f = .ok ys) ↔ ∀ x ∈ xs, ∃ y, f x = .ok y := by
  induction xs with
  | nil => simp [pure, Except.pure]
  | cons x xs ih =>
      simp only [List.mapM_cons, bind_eq_ok_iff, pure, Except.pure, Except.ok.injEq, List.forall_mem_cons, ← ih]
      constructor
      · rintro ⟨_, y, hy, ys, hys, -⟩
        exact ⟨⟨y, hy⟩, ys, hys⟩
      · rintro ⟨⟨y, hy⟩, ys, hys⟩
        exact ⟨_, y, hy, ys, hys, rfl⟩

/-- A traversal fails as the first element does that fails. -/
theorem mapM_eq_error_iff {f : α → Except ε β} {xs : List α} {e : ε} :
    xs.mapM f = .error e ↔
      ∃ before x after, xs = before ++ x :: after ∧ (∀ x ∈ before, ∃ y, f x = .ok y) ∧ f x = .error e := by
  induction xs with
  | nil => simp [pure, Except.pure]
  | cons x xs ih =>
      simp only [List.mapM_cons, bind_eq_error_iff, pure, Except.pure, reduceCtorEq, and_false, exists_const, or_false,
        ih]
      constructor
      · rintro (hx | ⟨y, hy, before, z, after, rfl, hbefore, hz⟩)
        · exact ⟨[], x, xs, rfl, by simp, hx⟩
        · exact ⟨x :: before, z, after, rfl, List.forall_mem_cons.mpr ⟨⟨y, hy⟩, hbefore⟩, hz⟩
      · rintro ⟨before, z, after, hsplit, hbefore, hz⟩
        cases before with
        | nil =>
            cases hsplit
            exact .inl hz
        | cons x' before =>
            cases hsplit
            obtain ⟨⟨y, hy⟩, hbefore⟩ := List.forall_mem_cons.mp hbefore
            exact .inr ⟨y, hy, before, z, after, rfl, hbefore, hz⟩

end Except

end HyperEvolve
