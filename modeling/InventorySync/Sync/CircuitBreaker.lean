import Mathlib.Data.Int.Order.Basic
import Mathlib.Tactic.Common

/-!
# The circuit breaker

`ConsecutiveFailureCircuitBreaker`: it trips after a run of consecutive failures and stays tripped.
Its methods hold a lock, so calls from any number of threads happen one after the other and each is
one step on the breaker's state.
-/

namespace Sync

/-- The state of a breaker. -/
structure ConsecutiveFailureCircuitBreaker where
  threshold : ℤ
  consecutiveFailures : ℕ
  tripped : Bool
  /-- An untripped breaker has not reached its threshold. -/
  not_reached : tripped = false → (consecutiveFailures : ℤ) < max 1 threshold

namespace ConsecutiveFailureCircuitBreaker

/-- A fresh breaker. -/
def new (threshold : ℤ) : ConsecutiveFailureCircuitBreaker where
  threshold := threshold
  consecutiveFailures := 0
  tripped := false
  not_reached _ := by omega

variable (self : ConsecutiveFailureCircuitBreaker)

/-- Whether this breaker has latched open. -/
def isTripped : Bool := self.tripped

/-- Record a successful call, resetting the consecutive count. -/
def recordSuccess : ConsecutiveFailureCircuitBreaker :=
  -- latched: a late success does not close the breaker again
  if self.tripped then self
  else { self with
    consecutiveFailures := 0
    not_reached := fun _ => by omega }

/-- Record a failed call, tripping the breaker at the threshold. The first component is `True` only
for the call that trips it. -/
def recordFailure : Bool × ConsecutiveFailureCircuitBreaker :=
  -- failures after the trip are not counted
  if htripped : self.tripped then (false, self)
  else if hreached : self.threshold ≤ (self.consecutiveFailures + 1 : ℕ) then
    (true, { self with
      consecutiveFailures := self.consecutiveFailures + 1
      tripped := true
      not_reached := by simp })
  else
    (false, { self with
      consecutiveFailures := self.consecutiveFailures + 1
      not_reached := fun _ => by omega })

variable {self}

/-- A tripped breaker never changes. -/
theorem recordSuccess_of_tripped (h : self.tripped = true) : self.recordSuccess = self := by
  rw [recordSuccess, if_pos h]

/-- A tripped breaker never changes, and no later failure trips it again. -/
theorem recordFailure_of_tripped (h : self.tripped = true) :
    self.recordFailure = (false, self) := by
  rw [recordFailure, dif_pos h]

@[simp]
theorem threshold_recordSuccess : self.recordSuccess.threshold = self.threshold := by
  unfold recordSuccess
  split <;> rfl

@[simp]
theorem tripped_recordSuccess : self.recordSuccess.tripped = self.tripped := by
  unfold recordSuccess
  split <;> rfl

@[simp]
theorem threshold_recordFailure : self.recordFailure.2.threshold = self.threshold := by
  unfold recordFailure
  split
  · rfl
  · split <;> rfl

theorem consecutiveFailures_recordSuccess (h : self.tripped = false) :
    self.recordSuccess.consecutiveFailures = 0 := by
  rw [recordSuccess, if_neg (by simp [h])]

/-- A failure trips an untripped breaker exactly when it completes a run of `max 1 threshold`
failures. -/
theorem recordFailure_of_not_tripped (h : self.tripped = false) :
    self.recordFailure.2.consecutiveFailures = self.consecutiveFailures + 1 ∧
      self.recordFailure.2.tripped = self.recordFailure.1 ∧
      (self.recordFailure.1 = true ↔
        (self.consecutiveFailures + 1 : ℤ) = max 1 self.threshold) := by
  have hlt := self.not_reached h
  rw [recordFailure, dif_neg (by simp [h])]
  split
  -- below the threshold before the call, at it now: equality, not only `≥`
  next hreached => exact ⟨rfl, rfl, by simp only [true_iff]; omega⟩
  next hreached => exact ⟨rfl, h, by simp only [Bool.false_eq_true, false_iff]; omega⟩

/-- A failure that trips the breaker finds it untripped. -/
theorem not_tripped_of_recordFailure (h : self.recordFailure.1 = true) : self.tripped = false := by
  cases htripped : self.tripped with
  | false => rfl
  | true =>
    rw [recordFailure_of_tripped htripped] at h
    cases h

end ConsecutiveFailureCircuitBreaker

end Sync
