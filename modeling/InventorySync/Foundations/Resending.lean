import Mathlib.Order.Basic
import Mathlib.Data.Nat.Basic

/-!
# Doing something again until it is good

An attempt is made, and again while its reply asks for that and attempts are left. Only the last
attempt is reported, but each of them may have acted on the world.

* `exists_last`: an invariant of the single attempt holds when the last one is made;
* `Resender.reports`: a procedure that satisfies two laws on the single attempt makes just these
  attempts, and reports of the last one;
* `attempts_correspond`: attempts with corresponding replies end at the same one;
* `once_of_idempotent`: if an attempt does what is asked or nothing, and doing it twice is doing it
  once, then any number of attempts do it once or not at all.
-/

namespace Resending

variable {ω ω' ρ ρ' β : Type*}

/-- The last attempt: its reply, the world it left, and how many more could have been made. -/
structure Last (ω ρ : Type*) where
  reply : ρ
  world : ω
  left : ℕ

/-- Make attempt `n`, and go on while the reply asks for another and `left` is not used up. -/
def attempts (attempt : ℕ → ω → ρ × ω) (again : ρ → ℕ → Bool) : ℕ → ℕ → ω → Last ω ρ
  | 0, n, world => ⟨(attempt n world).1, (attempt n world).2, 0⟩
  | left + 1, n, world =>
    if again (attempt n world).1 (left + 1) then
      attempts attempt again left (n + 1) (attempt n world).2
    else ⟨(attempt n world).1, (attempt n world).2, left + 1⟩

/-- Everything that making attempts comes to: there was a last one, in some world that the earlier
ones left, and it is reported. -/
structure Ended (attempt : ℕ → ω → ρ × ω) (again : ρ → ℕ → Bool) (left n : ℕ)
    (I : ℕ → ω → Prop) (last : Last ω ρ) (k : ℕ) (world : ω) : Prop where
  le : k ≤ left
  inv : I (n + k) world
  reply : last.reply = (attempt (n + k) world).1
  world : last.world = (attempt (n + k) world).2
  left_eq : last.left = left - k
  /-- It was the last because its reply did not ask for another, or because none was left. -/
  stop : again last.reply last.left = true → last.left = 0

variable {attempt : ℕ → ω → ρ × ω} {again : ρ → ℕ → Bool}

variable (attempt again) in
/-- An invariant of the single attempt holds when the last one is made. -/
theorem exists_last (I : ℕ → ω → Prop) (left n : ℕ) (world : ω) (hstart : I n world)
    (hstep : ∀ m world left, again (attempt m world).1 (left + 1) = true → I m world →
      I (m + 1) (attempt m world).2) :
    ∃ k before, Ended attempt again left n I (attempts attempt again left n world) k before := by
  induction left generalizing n world with
  | zero => exact ⟨0, world, le_rfl, hstart, rfl, rfl, rfl, fun _ => rfl⟩
  | succ left ih =>
    by_cases hagain : again (attempt n world).1 (left + 1) = true
    · -- the rest starts in the world that this attempt left
      obtain ⟨k, before, h⟩ := ih (n + 1) (attempt n world).2 (hstep n world left hagain hstart)
      have hrest : attempts attempt again (left + 1) n world =
          attempts attempt again left (n + 1) (attempt n world).2 := by
        rw [attempts, if_pos hagain]
      have hcount : n + 1 + k = n + (k + 1) := by omega
      rw [hrest]
      exact ⟨k + 1, before, by have := h.le; omega, hcount ▸ h.inv, hcount ▸ h.reply,
        hcount ▸ h.world, by rw [h.left_eq]; omega, h.stop⟩
    · have hlast : attempts attempt again (left + 1) n world =
          ⟨(attempt n world).1, (attempt n world).2, left + 1⟩ := by
        rw [attempts, if_neg hagain]
      rw [hlast]
      exact ⟨0, world, Nat.zero_le _, hstart, rfl, rfl, rfl, fun h => absurd h hagain⟩

variable (attempt again) in
/-- If attempts `n` to `n + k` are made and the last of them is not repeated, it is reported. -/
theorem attempts_eq_of_repeated {k left n : ℕ} (hk : k ≤ left)
    (hagain : ∀ m < k, ∀ world, again (attempt (n + m) world).1 (left - m) = true)
    (hstop : ∀ world, again (attempt (n + k) world).1 (left - k) = false) (world : ω) :
    ∃ before, attempts attempt again left n world =
      ⟨(attempt (n + k) before).1, (attempt (n + k) before).2, left - k⟩ := by
  induction k generalizing left n world with
  | zero =>
    cases left with
    | zero => exact ⟨world, rfl⟩
    | succ left =>
      have hlast : ¬again (attempt n world).1 (left + 1) = true := by
        rw [Bool.not_eq_true]
        exact hstop world
      exact ⟨world, by rw [attempts, if_neg hlast]; rfl⟩
  | succ k ih =>
    obtain ⟨left, rfl⟩ : ∃ left', left = left' + 1 := ⟨left - 1, by omega⟩
    have hcount : ∀ m, n + 1 + m = n + (m + 1) := fun m => by omega
    obtain ⟨before, hrest⟩ := @ih left (n + 1) (by omega)
      (fun m hm world' => by
        have h := hagain (m + 1) (by omega) world'
        rwa [Nat.add_sub_add_right, ← hcount] at h)
      (fun world' => by
        have h := hstop world'
        rwa [Nat.add_sub_add_right, ← hcount] at h)
      (attempt n world).2
    have hfirst : again (attempt n world).1 (left + 1) = true := hagain 0 (by omega) world
    exact ⟨before, by rw [attempts, if_pos hfirst, hrest, hcount, Nat.add_sub_add_right]⟩

/-- Corresponding attempts in corresponding worlds end at the same one. -/
theorem attempts_correspond {attempt' : ℕ → ω' → ρ' × ω'} {again' : ρ' → ℕ → Bool}
    {R : ρ → ρ' → Prop} {W : ω → ω' → Prop}
    (hagain : ∀ r r' left, R r r' → again r left = again' r' left)
    (hattempt : ∀ n world world', W world world' →
      R (attempt n world).1 (attempt' n world').1 ∧ W (attempt n world).2 (attempt' n world').2)
    (left n : ℕ) {world : ω} {world' : ω'} (hworld : W world world') :
    R (attempts attempt again left n world).reply (attempts attempt' again' left n world').reply ∧
      W (attempts attempt again left n world).world
        (attempts attempt' again' left n world').world ∧
      (attempts attempt again left n world).left =
        (attempts attempt' again' left n world').left := by
  induction left generalizing n world world' with
  | zero => exact ⟨(hattempt n world world' hworld).1, (hattempt n world world' hworld).2, rfl⟩
  | succ left ih =>
    obtain ⟨hreply, hnext⟩ := hattempt n world world' hworld
    rw [attempts, attempts, hagain _ _ _ hreply]
    split
    next => exact ih (n + 1) hnext
    next => exact ⟨hreply, hnext, rfl⟩

/-! ### Procedures that do so -/

/-- A procedure that makes attempts: `run left n` makes attempt `n`, when `left` more could be made.
Of the last one it may report any result that `Reports` allows. -/
structure Resender (attempt : ℕ → ω → ρ × ω) (again : ρ → ℕ → Bool) (Reports : ρ → ℕ → β → Prop)
    (run : ℕ → ℕ → ω → β × ω) : Prop where
  resent : ∀ left n world, again (attempt n world).1 (left + 1) = true →
    run (left + 1) n world = run left (n + 1) (attempt n world).2
  last : ∀ left n world, (left = 0 ∨ again (attempt n world).1 left = false) →
    Reports (attempt n world).1 left (run left n world).1 ∧
      (run left n world).2 = (attempt n world).2

/-- It makes the attempts of `attempts`, and reports of the last of them. -/
theorem Resender.reports {Reports : ρ → ℕ → β → Prop} {run : ℕ → ℕ → ω → β × ω}
    (h : Resender attempt again Reports run) (left n : ℕ) (world : ω) :
    Reports (attempts attempt again left n world).reply (attempts attempt again left n world).left
        (run left n world).1 ∧
      (run left n world).2 = (attempts attempt again left n world).world := by
  induction left generalizing n world with
  | zero => exact h.last 0 n world (.inl rfl)
  | succ left ih =>
    by_cases hagain : again (attempt n world).1 (left + 1) = true
    · rw [h.resent left n world hagain, attempts, if_pos hagain]
      exact ih (n + 1) (attempt n world).2
    · rw [attempts, if_neg hagain]
      exact h.last (left + 1) n world (.inr (Bool.eq_false_iff.2 hagain))

/-! ### Attempts that write -/

/-- If an attempt does what is asked or nothing, and doing it twice is doing it once, then whatever
was attempted before it, together they do it once or not at all. -/
theorem once_of_idempotent {σ : Type*} {f : σ → σ} (hf : ∀ s, f (f s) = f s) {s s' s'' : σ}
    (hbefore : s' = s ∨ s' = f s) (hattempt : s'' = s' ∨ s'' = f s') : s'' = s ∨ s'' = f s := by
  rcases hattempt with rfl | rfl
  · exact hbefore
  · rcases hbefore with rfl | rfl
    · exact .inr rfl
    · exact .inr (hf s)

end Resending
