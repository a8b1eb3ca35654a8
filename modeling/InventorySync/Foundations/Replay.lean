import Mathlib.Data.List.Basic

/-!
# Calls that take effect or not

Calls are made on a state one after another. What such a run comes to is told by which of them took
effect: under a view of the state, the run ends as a replay of just these calls does, and every
reply is given at the place in the replay where its call stands (`exists_replay`).
-/

namespace Replay

variable {κ σ τ ρ : Type*}

/-- Make calls one after another, numbered from `i`. -/
def runCalls (perform : ℕ → κ → σ → ρ × σ) : ℕ → List κ → σ → List ρ × σ
  | _, [], s => ([], s)
  | i, call :: calls, s =>
    let (reply, s) := perform i call s
    let (replies, s) := runCalls perform (i + 1) calls s
    (reply :: replies, s)

/-- The state after the calls that took effect, and no others. -/
def replay (effect : κ → τ → τ) (took : ℕ → Bool) : List κ → τ → τ
  | [], t => t
  | call :: calls, t =>
    replay effect (fun j => took (j + 1)) calls (if took 0 then effect call t else t)

/-- What is known of single calls is known of a run: it replays the calls that took effect. -/
theorem exists_replay {perform : ℕ → κ → σ → ρ × σ} {effect : κ → τ → τ} {view : σ → τ}
    {P : ℕ → Bool → κ → τ → ρ → Prop}
    (h : ∀ i call s, ∃ took : Bool,
      view (perform i call s).2 = (if took then effect call (view s) else view s) ∧
        P i took call (view s) (perform i call s).1)
    (i : ℕ) (calls : List κ) (s : σ) :
    ∃ took : ℕ → Bool,
      view (runCalls perform i calls s).2 = replay effect took calls (view s) ∧
      (runCalls perform i calls s).1.length = calls.length ∧
      ∀ j call reply, calls[j]? = some call → (runCalls perform i calls s).1[j]? = some reply →
        P (i + j) (took j) call (replay effect took (calls.take j) (view s)) reply := by
  induction calls generalizing i s with
  | nil => exact ⟨fun _ => false, rfl, rfl, fun j call reply hcall => by simp at hcall⟩
  | cons call calls ih =>
    obtain ⟨first, hstate, hreply⟩ := h i call s
    obtain ⟨took, hrest, hlength, hreplies⟩ := ih (i + 1) (perform i call s).2
    refine ⟨fun j => j.casesOn first took, ?_, ?_, ?_⟩
    · refine hrest.trans ?_
      rw [hstate]
      rfl
    · simp only [runCalls, List.length_cons, hlength]
    · intro j call' reply hcall' hreply'
      cases j with
      | zero =>
        obtain rfl := Option.some.inj hcall'
        obtain rfl := Option.some.inj hreply'
        exact hreply
      | succ j =>
        have hlater := hreplies j call' reply hcall' hreply'
        rw [hstate, Nat.add_right_comm] at hlater
        exact hlater

end Replay
