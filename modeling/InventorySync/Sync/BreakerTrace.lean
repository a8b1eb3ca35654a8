import InventorySync.Sync.History

/-!
# The breaker as its trace tells it

`Recorded` replays a trace on a fresh breaker: every check in it read the breaker that the earlier
events left, and every recorded failure returned what that breaker answered. From it follow the
facts that hold on every interleaving: the breaker is tripped exactly when the trace holds a trip,
every check after the trip finds it tripped, and a trip takes as many failures as the threshold.
-/

open Python Pandas Transport ThreadPool

namespace Sync

/-- The breaker that the events of a trace, newest first, leave behind. -/
inductive Recorded (threshold : ℤ) : List Event → ConsecutiveFailureCircuitBreaker → Prop
  | new : Recorded threshold [] (.new threshold)
  | checked {trace breaker i} (h : Recorded threshold trace breaker) :
      Recorded threshold (.checked i breaker.isTripped :: trace) breaker
  | called {trace breaker i call} (h : Recorded threshold trace breaker) :
      Recorded threshold (.called i call :: trace) breaker
  | returned {trace breaker i reply} (h : Recorded threshold trace breaker) :
      Recorded threshold (.returned i reply :: trace) breaker
  | recordedFailure {trace breaker i} (h : Recorded threshold trace breaker) :
      Recorded threshold (.recordedFailure i breaker.recordFailure.1 :: trace)
        breaker.recordFailure.2
  | recordedSuccess {trace breaker i} (h : Recorded threshold trace breaker) :
      Recorded threshold (.recordedSuccess i :: trace) breaker.recordSuccess

namespace Recorded

variable {threshold : ℤ} {trace : List Event} {breaker : ConsecutiveFailureCircuitBreaker}

theorem threshold_eq (h : Recorded threshold trace breaker) : breaker.threshold = threshold := by
  induction h with
  | new => rfl
  | checked _ ih => exact ih
  | called _ ih => exact ih
  | returned _ ih => exact ih
  | recordedFailure _ ih => rw [ConsecutiveFailureCircuitBreaker.threshold_recordFailure, ih]
  | recordedSuccess _ ih => rw [ConsecutiveFailureCircuitBreaker.threshold_recordSuccess, ih]

/-- The breaker is tripped exactly when some recorded failure tripped it. -/
theorem tripped_iff (h : Recorded threshold trace breaker) :
    breaker.tripped = true ↔ ∃ i, Event.recordedFailure i true ∈ trace := by
  induction h with
  | new => simp [ConsecutiveFailureCircuitBreaker.new]
  | checked _ ih => simpa using ih
  | called _ ih => simpa using ih
  | returned _ ih => simpa using ih
  | @recordedFailure trace breaker i _ ih =>
    cases htripped : breaker.tripped with
    | true =>
      -- latched: the trip is an older event
      rw [htripped, eq_self, true_iff] at ih
      obtain ⟨j, hj⟩ := ih
      rw [ConsecutiveFailureCircuitBreaker.recordFailure_of_tripped htripped]
      simp only [htripped, true_iff]
      exact ⟨j, List.mem_cons_of_mem _ hj⟩
    | false =>
      -- no older trip, so it is this failure or none
      rw [htripped, Bool.false_eq_true, false_iff] at ih
      obtain ⟨-, htrips, -⟩ :=
        ConsecutiveFailureCircuitBreaker.recordFailure_of_not_tripped htripped
      rw [htrips]
      constructor
      · intro hnow
        exact ⟨i, by simp [hnow]⟩
      · rintro ⟨j, hj⟩
        rcases List.mem_cons.1 hj with hnow | hold
        · injection hnow with _ hnow
          exact hnow.symm
        · exact absurd ⟨j, hold⟩ ih
  | recordedSuccess _ ih => simpa using ih

/-- A trace is recorded up to any of its events. -/
theorem of_append {post pre : List Event} (h : Recorded threshold (post ++ pre) breaker) :
    ∃ earlier, Recorded threshold pre earlier := by
  induction post generalizing breaker with
  | nil => exact ⟨breaker, h⟩
  | cons ev post ih =>
    cases h with
    | checked h => exact ih h
    | called h => exact ih h
    | returned h => exact ih h
    | recordedFailure h => exact ih h
    | recordedSuccess h => exact ih h

/-- Every check after the trip finds the breaker tripped. -/
theorem checked_after_trip {post pre : List Event} {i j : ℕ} {tripped : Bool}
    (h : Recorded threshold (post ++ .recordedFailure i true :: pre) breaker)
    (hj : Event.checked j tripped ∈ post) : tripped = true := by
  obtain ⟨later, earlier, rfl⟩ := List.append_of_mem hj
  rw [List.append_assoc] at h
  -- the breaker that this check read
  obtain ⟨_, hcheck⟩ := h.of_append
  cases hcheck with
  | checked hbefore => exact hbefore.tripped_iff.2 ⟨i, by simp⟩

/-- A check that finds the breaker tripped comes after a trip. -/
theorem tripped_of_checked {j : ℕ} (h : Recorded threshold trace breaker)
    (hj : Event.checked j true ∈ trace) : breaker.tripped = true := by
  obtain ⟨later, earlier, rfl⟩ := List.append_of_mem hj
  obtain ⟨_, hcheck⟩ := h.of_append
  generalize hev : Event.checked j true = ev at hcheck
  cases hcheck with
  | checked hbefore =>
    injection hev with _ htripped
    obtain ⟨i, hi⟩ := hbefore.tripped_iff.1 htripped.symm
    exact h.tripped_iff.2 ⟨i, by simp [hi]⟩
  | called => cases hev
  | returned => cases hev
  | recordedFailure => cases hev
  | recordedSuccess => cases hev

/-- The streak is no longer than the number of recorded failures. -/
theorem consecutiveFailures_le (h : Recorded threshold trace breaker) :
    breaker.consecutiveFailures ≤ trace.countP Event.isFailure := by
  induction h with
  | new => exact Nat.zero_le _
  | checked _ ih => simpa [Event.isFailure] using ih
  | called _ ih => simpa [Event.isFailure] using ih
  | returned _ ih => simpa [Event.isFailure] using ih
  | @recordedFailure trace breaker i _ ih =>
    rw [List.countP_cons_of_pos rfl]
    cases htripped : breaker.tripped with
    | true =>
      rw [ConsecutiveFailureCircuitBreaker.recordFailure_of_tripped htripped]
      -- a failure after the trip is in the trace but not in the streak
      exact Nat.le_succ_of_le ih
    | false =>
      rw [(ConsecutiveFailureCircuitBreaker.recordFailure_of_not_tripped htripped).1]
      exact Nat.succ_le_succ ih
  | @recordedSuccess trace breaker i _ ih =>
    rw [List.countP_cons_of_neg (by simp [Event.isFailure])]
    cases htripped : breaker.tripped with
    | true =>
      rw [ConsecutiveFailureCircuitBreaker.recordSuccess_of_tripped htripped]
      exact ih
    | false =>
      rw [ConsecutiveFailureCircuitBreaker.consecutiveFailures_recordSuccess htripped]
      exact Nat.zero_le _

/-- A breaker trips on a full streak, and the streak stays. -/
theorem le_consecutiveFailures (h : Recorded threshold trace breaker)
    (htripped : breaker.tripped = true) : max 1 threshold ≤ breaker.consecutiveFailures := by
  induction h with
  | new => cases htripped
  | checked _ ih => exact ih htripped
  | called _ ih => exact ih htripped
  | returned _ ih => exact ih htripped
  | @recordedFailure trace breaker i hbefore ih =>
    cases hbreaker : breaker.tripped with
    | true =>
      rw [ConsecutiveFailureCircuitBreaker.recordFailure_of_tripped hbreaker]
      exact ih hbreaker
    | false =>
      obtain ⟨hcount, htrips, hreached⟩ :=
        ConsecutiveFailureCircuitBreaker.recordFailure_of_not_tripped hbreaker
      -- this failure is the trip
      have hfull := hreached.1 (htrips ▸ htripped)
      rw [hbefore.threshold_eq] at hfull
      rw [hcount]
      omega
  | @recordedSuccess trace breaker i _ ih =>
    -- a success resets the streak only while the breaker is closed
    rw [ConsecutiveFailureCircuitBreaker.tripped_recordSuccess] at htripped
    rw [ConsecutiveFailureCircuitBreaker.recordSuccess_of_tripped htripped]
    exact ih htripped

/-- A trip takes as many recorded failures as the threshold. -/
theorem le_countP_isFailure (h : Recorded threshold trace breaker)
    (htripped : breaker.tripped = true) : max 1 threshold ≤ trace.countP Event.isFailure := by
  have hle := h.consecutiveFailures_le
  have hfull := h.le_consecutiveFailures htripped
  omega

/-- While nothing has succeeded and nothing has tripped, the streak is all recorded failures. -/
theorem consecutiveFailures_eq (h : Recorded threshold trace breaker)
    (hfails : ∀ i, Event.recordedSuccess i ∉ trace) (hclosed : breaker.tripped = false) :
    breaker.consecutiveFailures = trace.countP Event.isFailure := by
  induction h with
  | new => rfl
  | checked _ ih => simpa [Event.isFailure] using ih (by simpa using hfails) hclosed
  | called _ ih => simpa [Event.isFailure] using ih (by simpa using hfails) hclosed
  | returned _ ih => simpa [Event.isFailure] using ih (by simpa using hfails) hclosed
  | @recordedFailure trace breaker i _ ih =>
    -- a latched breaker stays latched, so it was closed before the failure too
    have hbreaker : breaker.tripped = false := by
      cases hbreaker : breaker.tripped with
      | false => rfl
      | true =>
        rw [ConsecutiveFailureCircuitBreaker.recordFailure_of_tripped hbreaker, hbreaker] at hclosed
        cases hclosed
    rw [List.countP_cons_of_pos rfl,
      (ConsecutiveFailureCircuitBreaker.recordFailure_of_not_tripped hbreaker).1,
      ih (by simpa using hfails) hbreaker]
  | recordedSuccess => exact absurd List.mem_cons_self (hfails _)

/-- While nothing has succeeded, the trip is the failure whose number is the threshold. -/
theorem countP_at_trip {i : ℕ} (h : Recorded threshold (.recordedFailure i true :: trace) breaker)
    (hfails : ∀ j, Event.recordedSuccess j ∉ trace) :
    (trace.countP Event.isFailure + 1 : ℤ) = max 1 threshold := by
  generalize htrips : true = trips at h
  cases h with
  | @recordedFailure _ before _ hbefore =>
    have hclosed := ConsecutiveFailureCircuitBreaker.not_tripped_of_recordFailure htrips.symm
    obtain ⟨-, -, hreached⟩ :=
      ConsecutiveFailureCircuitBreaker.recordFailure_of_not_tripped hclosed
    rw [← hbefore.consecutiveFailures_eq hfails hclosed, hreached.1 htrips.symm,
      hbefore.threshold_eq]

end Recorded

namespace BaseODataSyncRunner

variable {ι ω : Type} {self : BaseODataSyncRunner} {logger : Logger} {upsert : Upsert ι ω}

/-- A step of a call records what it did to the breaker. -/
theorem recorded_of_upsertStep {threshold : ℤ} {i : ℕ} {row : NamedTuple} {stage : Stage} {inp : ι}
    {s s' : Shared ω} {pr : Progress Stage (Except PyException Outcome)}
    (h : self.Step logger upsert i row s stage inp pr s')
    (hs : Recorded threshold s.trace s.breaker) : Recorded threshold s'.trace s'.breaker := by
  cases h with
  | skip htripped => exact htripped ▸ hs.checked
  | check hclosed => exact hclosed ▸ hs.checked
  | unreadable => exact hs
  | unbuilt => exact hs
  | call => exact hs.called
  | answer => exact hs.returned
  -- the two reports to the breaker; a call that raises makes none
  | succeed => exact hs.recordedSuccess
  | escape => exact hs
  | unlogged => exact hs
  | fail => exact hs.recordedFailure

theorem recorded_of_step {W : ℕ} {threshold : ℤ} {p p' : SyncPool ω}
    {m : ThreadPool.Label NamedTuple ι} (hp : Recorded threshold p.shared.trace p.shared.breaker)
    (h : Pool.Step W (self.upsertCallable logger upsert) p m p') :
    Recorded threshold p'.shared.trace p'.shared.breaker := by
  cases h with
  | submit => exact hp
  | dequeue => exact hp
  | advance hcall hstep => exact recorded_of_upsertStep (step_of_upsertStep hstep) hp

/-- In every state of a run, the trace tells the state of the breaker. -/
theorem recorded_of_syncReaches {records : List NamedTuple} {world : ω}
    {s : WriteLoop NamedTuple Stage (Shared ω)}
    (h : self.SyncReaches logger upsert records world s) :
    Recorded self.failureThreshold s.pool.shared.trace s.pool.shared.breaker :=
  WriteLoop.pool_invariant
    (P := fun p => Recorded self.failureThreshold p.shared.trace p.shared.breaker)
    (fun _ _ _ _ hp hstep => recorded_of_step hp hstep) .new h

section Skipped

variable {records : List NamedTuple} {world : ω} {s : WriteLoop NamedTuple Stage (Shared ω)}

/-- Only a tripped breaker skips. -/
theorem tripped_of_skipped (h : self.SyncReaches logger upsert records world s) {i : ℕ}
    (hskipped : s.pool.results[i]? = some (some (.ok .skipped))) :
    s.pool.shared.breaker.tripped = true := by
  obtain ⟨row, -, -, hhistory⟩ := history_of_result h hskipped
  have hevents : eventsOf i s.pool.shared.trace = [.checked i true] := hhistory.returned.of_skipped
  have hmem : Event.checked i true ∈ eventsOf i s.pool.shared.trace := by simp [hevents]
  exact (recorded_of_syncReaches h).tripped_of_checked (mem_eventsOf.1 hmem).1

/-- When `sync_records` returns with rows skipped, at least a threshold of rows failed. -/
theorem le_failed_of_skipped (h : self.SyncReaches logger upsert records world s)
    (hphase : s.phase = .exited none) (hskipped : s.result .skipped ≠ 0) :
    max 1 self.failureThreshold ≤ s.result .failed := by
  rw [(WriteLoop.inv_of_reachable h).count_of_returned hphase, ne_eq, List.count_eq_zero,
    not_not] at hskipped
  obtain ⟨i, hi⟩ := List.getElem?_of_mem hskipped
  rw [← countP_isFailure_of_returned h hphase]
  exact (recorded_of_syncReaches h).le_countP_isFailure (tripped_of_skipped h hi)

/-- When `sync_records` returns with no row failed, no row was skipped either. -/
theorem outcome_of_failed_eq_zero (h : self.SyncReaches logger upsert records world s)
    (hphase : s.phase = .exited none) (hfailed : s.result .failed = 0) {i : ℕ} {outcome : Outcome}
    (hresult : s.pool.results[i]? = some (some (.ok outcome))) :
    outcome ≠ .failed ∧ outcome ≠ .skipped := by
  have hcount := (WriteLoop.inv_of_reachable h).count_of_returned hphase
  have hmem : some (.ok outcome) ∈ s.pool.results := List.mem_of_getElem? hresult
  constructor
  · rintro rfl
    exact (List.count_pos_iff.2 hmem).ne' ((hcount .failed).symm.trans hfailed)
  · rintro rfl
    -- where rows were skipped, others failed before them
    have hskipped : s.result .skipped ≠ 0 := by
      rw [hcount]
      exact (List.count_pos_iff.2 hmem).ne'
    have hle := le_failed_of_skipped h hphase hskipped
    rw [hfailed] at hle
    omega

end Skipped

end BaseODataSyncRunner

end Sync
