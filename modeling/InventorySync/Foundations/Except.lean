import Mathlib.Tactic.Common

/-!
# Computations that may fail

Inversion rules for `Except` in `do` blocks and in folds that stop at the first error.
-/

namespace Except

variable {ε α β : Type*}

/-- A sequence succeeds exactly when both of its parts do. -/
theorem bind_eq_ok {x : Except ε α} {f : α → Except ε β} {b : β} :
    x.bind f = .ok b ↔ ∃ a, x = .ok a ∧ f a = .ok b := by
  cases x with
  | error e => simp [Except.bind]
  | ok a => simp [Except.bind]

theorem bind_eq_error {x : Except ε α} {f : α → Except ε β} {e : ε} :
    x.bind f = .error e ↔ x = .error e ∨ ∃ a, x = .ok a ∧ f a = .error e := by
  cases x with
  | error e => simp [Except.bind]
  | ok a => simp [Except.bind]

/-- The part that succeeds, of a result that is mapped. -/
theorem toOption_map (x : Except ε α) (f : α → β) : (x.map f).toOption = x.toOption.map f := by
  cases x <;> rfl

theorem toOption_bind (x : Except ε α) (f : α → Except ε β) :
    (x.bind f).toOption = x.toOption.bind fun a => (f a).toOption := by
  cases x <;> rfl

section Fold

variable {γ : Type} {δ : Type} {f : δ → γ → Except ε δ}

theorem foldlM_cons_eq_ok {x : γ} {xs : List γ} {s t : δ} :
    (x :: xs).foldlM f s = .ok t ↔ ∃ u, f s x = .ok u ∧ xs.foldlM f u = .ok t := by
  rw [List.foldlM_cons]
  exact bind_eq_ok

/-- A fold none of whose steps fails is the fold of their results. -/
theorem foldlM_eq_foldl {g : δ → γ → δ} {xs : List γ} (s : δ)
    (h : ∀ x ∈ xs, ∀ s, f s x = .ok (g s x)) : xs.foldlM f s = .ok (xs.foldl g s) := by
  induction xs generalizing s with
  | nil => rfl
  | cons x xs ih =>
    rw [foldlM_cons_eq_ok]
    exact ⟨g s x, h x List.mem_cons_self s, ih _ fun y hy => h y (List.mem_cons_of_mem x hy)⟩

/-- A fold that succeeds has succeeded at every element. -/
theorem exists_ok_of_foldlM {xs : List γ} {s t : δ} (h : xs.foldlM f s = .ok t) :
    ∀ x ∈ xs, ∃ u v, f u x = .ok v := by
  induction xs generalizing s with
  | nil => simp
  | cons x xs ih =>
    obtain ⟨u, hu, hrest⟩ := foldlM_cons_eq_ok.1 h
    intro y hy
    rcases List.mem_cons.1 hy with rfl | hy
    · exact ⟨s, u, hu⟩
    · exact ih hrest y hy

/-- What every step of a fold keeps holds of its result. -/
theorem foldlM_invariant {P : δ → Prop} {xs : List γ} {s t : δ} (h : xs.foldlM f s = .ok t)
    (hstep : ∀ x ∈ xs, ∀ u v, f u x = .ok v → P u → P v) (hs : P s) : P t := by
  induction xs generalizing s with
  | nil => exact Except.ok.inj h ▸ hs
  | cons x xs ih =>
    obtain ⟨u, hu, hrest⟩ := foldlM_cons_eq_ok.1 h
    exact ih hrest (fun y hy => hstep y (List.mem_cons_of_mem x hy))
      (hstep x List.mem_cons_self s u hu hs)

/-- What every step of a fold keeps, and one step establishes, holds of its result. -/
theorem foldlM_of_mem {P : δ → Prop} {xs : List γ} {s t : δ} (h : xs.foldlM f s = .ok t)
    (hstep : ∀ x ∈ xs, ∀ u v, f u x = .ok v → P u → P v) {x : γ} (hx : x ∈ xs)
    (hmake : ∀ u v, f u x = .ok v → P v) : P t := by
  induction xs generalizing s with
  | nil => cases hx
  | cons y xs ih =>
    obtain ⟨u, hu, hrest⟩ := foldlM_cons_eq_ok.1 h
    have hstep' : ∀ z ∈ xs, ∀ u v, f u z = .ok v → P u → P v := fun z hz =>
      hstep z (List.mem_cons_of_mem y hz)
    rcases List.mem_cons.1 hx with rfl | hx
    · exact foldlM_invariant hrest hstep' (hmake s u hu)
    · exact ih hrest hstep' hx

/-- How many elements a fold that stops at the first error takes from its list. -/
def foldlTaken (f : δ → γ → Except ε δ) (s : δ) : List γ → ℕ
  | [] => 0
  | x :: xs =>
    match f s x with
    | .error _ => 1
    | .ok t => foldlTaken f t xs + 1

/-- A fold that fails has taken the elements up to and including the one it failed at. -/
theorem exists_split_of_foldlM {xs : List γ} {s : δ} {e : ε} (h : xs.foldlM f s = .error e) :
    ∃ p x q t, xs = p ++ x :: q ∧ p.foldlM f s = .ok t ∧ f t x = .error e ∧
      foldlTaken f s xs = p.length + 1 := by
  induction xs generalizing s with
  | nil => cases h
  | cons x xs ih =>
    rw [List.foldlM_cons] at h
    cases hx : f s x with
    | error e' =>
      rw [hx] at h
      obtain rfl : e' = e := Except.error.inj h
      -- it fails at the first element: nothing stands before it
      refine ⟨[], x, xs, s, rfl, rfl, hx, ?_⟩
      rw [foldlTaken, hx]
      rfl
    | ok t =>
      rw [hx] at h
      -- it fails later, from the state that the first step leaves
      obtain ⟨p, y, q, u, rfl, hp, hy, htaken⟩ := ih h
      refine ⟨x :: p, y, q, u, rfl, foldlM_cons_eq_ok.2 ⟨t, hx, hp⟩, hy, ?_⟩
      rw [foldlTaken, hx]
      exact congrArg (· + 1) htaken

end Fold

section Traverse

variable {γ : Type} {δ : Type} {f : γ → Except ε δ}

/-- A traversal that fails has failed at some element. -/
theorem exists_error_of_mapM {xs : List γ} {e : ε} (h : xs.mapM f = .error e) :
    ∃ x ∈ xs, f x = .error e := by
  induction xs with
  | nil => cases h
  | cons x xs ih =>
    rw [List.mapM_cons] at h
    rcases bind_eq_error.1 h with hhead | ⟨y, -, htail⟩
    · exact ⟨x, List.mem_cons_self, hhead⟩
    · rcases bind_eq_error.1 htail with htail | ⟨ys, -, hpure⟩
      · obtain ⟨z, hz, hfail⟩ := ih htail
        exact ⟨z, List.mem_cons_of_mem x hz, hfail⟩
      · -- putting the results together does not fail
        cases hpure

/-- A traversal succeeds exactly when it does at every element. -/
theorem exists_mapM_eq_ok_iff {xs : List γ} :
    (∃ ys, xs.mapM f = .ok ys) ↔ ∀ x ∈ xs, ∃ y, f x = .ok y := by
  constructor
  · rintro ⟨ys, h⟩
    induction xs generalizing ys with
    | nil => simp
    | cons x xs ih =>
      rw [List.mapM_cons] at h
      obtain ⟨y, hy, htail⟩ := bind_eq_ok.1 h
      obtain ⟨ys', hys', -⟩ := bind_eq_ok.1 htail
      intro z hz
      rcases List.mem_cons.1 hz with rfl | hz
      · exact ⟨y, hy⟩
      · exact ih ys' hys' z hz
  · intro h
    -- an error would be the error of some element
    cases hmap : xs.mapM f with
    | ok ys => exact ⟨ys, rfl⟩
    | error e =>
      obtain ⟨x, hx, hfail⟩ := exists_error_of_mapM hmap
      obtain ⟨y, hy⟩ := h x hx
      cases hfail.symm.trans hy

end Traverse

end Except
