import InventorySync.Foundations.Streaks
import InventorySync.Sync.BreakerTrace

/-!
# What the breaker makes of a history

The calls on one breaker happen one after the other, in the order in which its lock lets them
through. A fresh breaker that has been through a sequence of them is tripped exactly when the
sequence contains a block of `max(1, threshold)` failures, and the one call that is told so is the
one that completes the first such block.

* `tripped_replay_iff`, `reply_iff`: the state and the replies, read off the history;
* `breaker_exact`: both, and what the stored count means;
* `Recorded.replay_reports`: the breaker of a sync run has been through the calls of its trace.
-/

open Python Pandas Transport ThreadPool

namespace Sync

/-- A call that reports an outcome. -/
inductive BreakerCall
  | recordSuccess
  | recordFailure
  deriving DecidableEq

namespace ConsecutiveFailureCircuitBreaker

/-- What a call returns, and the breaker it leaves. -/
def call (self : ConsecutiveFailureCircuitBreaker) :
    BreakerCall → Option Bool × ConsecutiveFailureCircuitBreaker
  | .recordSuccess => (none, self.recordSuccess)
  | .recordFailure => (some self.recordFailure.1, self.recordFailure.2)

/-- What the calls of a history return, and the breaker they leave. -/
def replay (self : ConsecutiveFailureCircuitBreaker) :
    List BreakerCall → List (Option Bool) × ConsecutiveFailureCircuitBreaker
  | [] => ([], self)
  | c :: history =>
    let (reply, breaker) := self.call c
    let (replies, breaker) := breaker.replay history
    (reply :: replies, breaker)

variable {self : ConsecutiveFailureCircuitBreaker} {threshold : ℤ} {history : List BreakerCall}

/-- A history in two parts is replayed part by part. -/
theorem replay_append (history later : List BreakerCall) :
    self.replay (history ++ later) =
      ((self.replay history).1 ++ ((self.replay history).2.replay later).1,
        ((self.replay history).2.replay later).2) := by
  induction history generalizing self with
  | nil => rfl
  | cons c history ih => simp [replay, ih]

theorem replay_concat (history : List BreakerCall) (c : BreakerCall) :
    self.replay (history ++ [c]) =
      ((self.replay history).1 ++ [((self.replay history).2.call c).1],
        ((self.replay history).2.call c).2) :=
  replay_append history [c]

@[simp]
theorem length_replay (history : List BreakerCall) :
    (self.replay history).1.length = history.length := by
  induction history generalizing self with
  | nil => rfl
  | cons c history ih => simp [replay, ih]

theorem threshold_call (c : BreakerCall) : (self.call c).2.threshold = self.threshold := by
  cases c with
  | recordSuccess => exact threshold_recordSuccess
  | recordFailure => exact threshold_recordFailure

theorem threshold_replay (history : List BreakerCall) :
    (self.replay history).2.threshold = self.threshold := by
  induction history generalizing self with
  | nil => rfl
  | cons c history ih => exact ih.trans (threshold_call c)

/-- A tripped breaker is the same after any call, and no call trips it again. -/
theorem call_of_tripped (h : self.tripped = true) (c : BreakerCall) :
    (self.call c).2 = self ∧ (self.call c).1 ≠ some true := by
  cases c with
  | recordSuccess => exact ⟨recordSuccess_of_tripped h, by simp [call]⟩
  | recordFailure =>
    rw [call, recordFailure_of_tripped h]
    exact ⟨rfl, by simp⟩

/-- Once tripped, no later call changes the breaker. -/
theorem replay_of_tripped (h : self.tripped = true) (history : List BreakerCall) :
    (self.replay history).2 = self := by
  induction history with
  | nil => rfl
  | cons c history ih =>
    rw [← List.singleton_append, replay_append]
    change ((self.call c).2.replay history).2 = self
    rw [(call_of_tripped h c).1, ih]

/-- A call returns `True` exactly when it trips the breaker. -/
theorem reply_eq_true_iff (c : BreakerCall) :
    (self.call c).1 = some true ↔ self.tripped = false ∧ (self.call c).2.tripped = true := by
  cases htripped : self.tripped with
  | true => simp [(call_of_tripped htripped c).2]
  | false =>
    cases c with
    | recordSuccess => simp [call, htripped]
    | recordFailure =>
      obtain ⟨-, htrips, -⟩ := recordFailure_of_not_tripped htripped
      simp [call, htrips]

/-! ### The state after a history -/

/-- While the breaker is closed, its count is the streak of failures that the history ends in, and
no block of failures has been completed. -/
theorem replay_of_not_tripped
    (h : ((new threshold).replay history).2.tripped = false) :
    ((new threshold).replay history).2.consecutiveFailures =
        history.streak .recordFailure ∧
      ¬List.replicate (max 1 threshold).toNat BreakerCall.recordFailure <:+: history := by
  induction history using List.reverseRecOn with
  | nil =>
    refine ⟨rfl, fun hblock => ?_⟩
    have hnil := (List.replicate_eq_nil_iff _).1 (List.infix_nil.1 hblock)
    omega
  | append_singleton history c ih =>
    rw [replay_concat] at h ⊢
    -- the last call did not trip the breaker, so it was closed before
    have hbefore : ((new threshold).replay history).2.tripped = false := by
      cases hbefore : ((new threshold).replay history).2.tripped with
      | false => rfl
      | true =>
        rw [(call_of_tripped hbefore c).1, hbefore] at h
        cases h
    obtain ⟨hcount, hblock⟩ := ih hbefore
    rw [List.replicate_infix_concat, not_or]
    cases c with
    | recordSuccess =>
      rw [List.streak_concat_of_ne (by decide)]
      exact ⟨consecutiveFailures_recordSuccess hbefore, hblock, by omega⟩
    | recordFailure =>
      obtain ⟨hnext, -, -⟩ := recordFailure_of_not_tripped hbefore
      have hlt := ((new threshold).replay history).2.recordFailure.2.not_reached h
      rw [threshold_recordFailure, threshold_replay, hnext, hcount] at hlt
      rw [List.streak_concat_self]
      refine ⟨hnext.trans (by rw [hcount]), hblock, ?_⟩
      have hthreshold : (new threshold).threshold = threshold := rfl
      rw [hthreshold] at hlt
      omega

/-- A breaker is tripped exactly when its history contains a block of `max(1, threshold)`
failures. -/
theorem tripped_replay_iff :
    ((new threshold).replay history).2.tripped = true ↔
      List.replicate (max 1 threshold).toNat BreakerCall.recordFailure <:+: history := by
  constructor
  · intro h
    induction history using List.reverseRecOn with
    | nil => cases h
    | append_singleton history c ih =>
      rw [List.replicate_infix_concat]
      cases hbefore : ((new threshold).replay history).2.tripped with
      | true => exact .inl (ih hbefore)
      | false =>
        -- this call is the trip, a failure that fills the streak
        right
        rw [replay_concat] at h
        obtain ⟨hcount, -⟩ := replay_of_not_tripped hbefore
        cases c with
        | recordSuccess =>
          rw [call, tripped_recordSuccess, hbefore] at h
          cases h
        | recordFailure =>
          obtain ⟨-, htrips, hfull⟩ := recordFailure_of_not_tripped hbefore
          have hreached := hfull.1 (htrips.symm.trans h)
          rw [threshold_replay, hcount] at hreached
          have hthreshold : (new threshold).threshold = threshold := rfl
          rw [hthreshold] at hreached
          rw [List.streak_concat_self]
          omega
  · intro h
    by_contra hclosed
    exact (replay_of_not_tripped (by simpa using hclosed)).2 h

/-! ### The replies -/

/-- The reply to a call is that of the breaker which the calls before it leave. -/
theorem replies_getElem? (history : List BreakerCall) (i : ℕ) :
    (self.replay history).1[i]? =
      history[i]?.map fun c => ((self.replay (history.take i)).2.call c).1 := by
  induction history generalizing self i with
  | nil => rfl
  | cons c history ih =>
    cases i with
    | zero => rfl
    | succ i => exact ih i

/-- The `True` replies are those to the calls that complete the first block. -/
theorem reply_iff (history : List BreakerCall) (i : ℕ) :
    ((new threshold).replay history).1[i]? = some (some true) ↔ i < history.length ∧
      List.replicate (max 1 threshold).toNat BreakerCall.recordFailure <:+:
        history.take (i + 1) ∧
      ¬List.replicate (max 1 threshold).toNat BreakerCall.recordFailure <:+:
        history.take i := by
  rw [replies_getElem?]
  by_cases hi : i < history.length
  · have hsplit : history.take (i + 1) = history.take i ++ [history[i]] := by
      rw [List.take_add_one, List.getElem?_eq_getElem hi]
      rfl
    rw [List.getElem?_eq_getElem hi, Option.map_some, Option.some_inj, reply_eq_true_iff,
      ← tripped_replay_iff, ← tripped_replay_iff, hsplit, replay_concat, Bool.not_eq_true]
    tauto
  · rw [List.getElem?_eq_none (Nat.le_of_not_lt hi)]
    simp [hi]

/-- There is one `True` reply if a block is completed, and none otherwise. -/
theorem count_replies (history : List BreakerCall) :
    ((new threshold).replay history).1.count (some true) =
      if ((new threshold).replay history).2.tripped then 1 else 0 := by
  induction history using List.reverseRecOn with
  | nil => rfl
  | append_singleton history c ih =>
    have hreply := @reply_eq_true_iff ((new threshold).replay history).2 c
    rw [replay_concat, List.count_append, ih, List.count_singleton]
    cases hbefore : ((new threshold).replay history).2.tripped with
    | true =>
      rw [(call_of_tripped hbefore c).1, hbefore]
      simp [(call_of_tripped hbefore c).2]
    | false =>
      rw [hbefore, eq_self, true_and] at hreply
      simp [hreply]

/-- What a history makes of a fresh breaker: it is tripped exactly when the history contains a block
of `max(1, threshold)` failures; the call that completes the first block, and no other, returned
`True`; while closed, it counts the streak of failures that the history ends in; and once tripped,
it never changes. -/
theorem breaker_exact (threshold : ℤ) (history : List BreakerCall) :
    let block := List.replicate (max 1 threshold).toNat BreakerCall.recordFailure
    let breaker := ((new threshold).replay history).2
    let replies := ((new threshold).replay history).1
    (breaker.isTripped = true ↔ block <:+: history) ∧
      (∀ i, replies[i]? = some (some true) ↔
        i < history.length ∧ block <:+: history.take (i + 1) ∧ ¬block <:+: history.take i) ∧
      replies.count (some true) = (if breaker.isTripped then 1 else 0) ∧
      (breaker.isTripped = false →
        breaker.consecutiveFailures = history.streak .recordFailure ∧
          (breaker.consecutiveFailures : ℤ) < max 1 threshold) ∧
      (breaker.isTripped = true → ∀ later, (breaker.replay later).2 = breaker) := by
  intro block breaker replies
  refine ⟨tripped_replay_iff, reply_iff history, count_replies history, fun hclosed => ?_,
    fun htripped => replay_of_tripped htripped⟩
  have hlt := breaker.not_reached hclosed
  rw [threshold_replay] at hlt
  exact ⟨(replay_of_not_tripped hclosed).1, hlt⟩

end ConsecutiveFailureCircuitBreaker

/-! ### The breaker of a run -/

/-- The call on the breaker that an event records. -/
def Event.report? : Event → Option BreakerCall
  | .recordedFailure _ _ => some .recordFailure
  | .recordedSuccess _ => some .recordSuccess
  | _ => none

/-- The calls on the breaker that a trace records, oldest first. -/
def reportsOf (trace : List Event) : List BreakerCall := (trace.filterMap Event.report?).reverse

theorem reportsOf_cons (ev : Event) (trace : List Event) :
    reportsOf (ev :: trace) = reportsOf trace ++ ev.report?.toList := by
  rw [reportsOf, List.filterMap_cons]
  cases ev.report? <;> simp [reportsOf]

/-- The breaker of a run is a fresh one that has been through the calls of the trace. -/
theorem Recorded.replay_reports {threshold : ℤ} {trace : List Event}
    {breaker : ConsecutiveFailureCircuitBreaker} (h : Recorded threshold trace breaker) :
    ((ConsecutiveFailureCircuitBreaker.new threshold).replay (reportsOf trace)).2 = breaker := by
  induction h with
  | new => rfl
  | checked _ ih => simpa [reportsOf_cons, Event.report?] using ih
  | called _ ih => simpa [reportsOf_cons, Event.report?] using ih
  | returned _ ih => simpa [reportsOf_cons, Event.report?] using ih
  | recordedFailure _ ih =>
    rw [reportsOf_cons, ← ih]
    exact congrArg Prod.snd (ConsecutiveFailureCircuitBreaker.replay_concat _ .recordFailure)
  | recordedSuccess _ ih =>
    rw [reportsOf_cons, ← ih]
    exact congrArg Prod.snd (ConsecutiveFailureCircuitBreaker.replay_concat _ .recordSuccess)

/-- In every state of a run, the breaker is tripped exactly when some `max(1, threshold)` rows
reported failures with no success in between. -/
theorem BaseODataSyncRunner.tripped_iff_of_syncReaches {ι ω : Type} {self : BaseODataSyncRunner}
    {logger : Logger} {upsert : Upsert ι ω} {records : List NamedTuple} {world : ω}
    {s : WriteLoop NamedTuple Stage (Shared ω)}
    (h : self.SyncReaches logger upsert records world s) :
    s.pool.shared.breaker.isTripped = true ↔
      List.replicate (max 1 self.failureThreshold).toNat BreakerCall.recordFailure <:+:
        reportsOf s.pool.shared.trace := by
  rw [← ConsecutiveFailureCircuitBreaker.tripped_replay_iff,
    (recorded_of_syncReaches h).replay_reports]
  rfl

end Sync
