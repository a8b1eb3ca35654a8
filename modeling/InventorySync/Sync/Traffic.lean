import Mathlib.Algebra.Order.BigOperators.Group.Finset
import InventorySync.Sync.BreakerTrace
import InventorySync.Sync.DataverseRunner

/-!
# The breaker bounds traffic

Workers that passed their check before the trip may still start or finish a request after it. They
are on a worker when the breaker trips and are not the call that trips it, so there are fewer of
them than workers: `LateBound`, which every step keeps. Every later check skips its row.
-/

open Python Pandas Transport ThreadPool

namespace Sync

/-- The event is the start or the end of an `upsert_record` call. -/
def Event.isRequest : Event → Bool
  | .called _ _ => true
  | .returned _ _ => true
  | _ => false

/-- The calls whose `upsert_record` call starts or finishes among these events. -/
def requestIds (events : List Event) : Finset ℕ :=
  ((events.filter Event.isRequest).map Event.id).toFinset

namespace BaseODataSyncRunner

variable {ι ω : Type} {self : BaseODataSyncRunner} {logger : Logger} {upsert : Upsert ι ω}

/-- What a step of call `i` can add to the trace: a check when the call has just been entered, and
after a passed check at most one event that is none; the call that trips the breaker is over. -/
theorem trace_of_step {i : ℕ} {row : NamedTuple} {stage : Stage} {inp : ι} {s s' : Shared ω}
    {pr : Progress Stage (Except PyException Outcome)}
    (h : self.Step logger upsert i row s stage inp pr s') :
    (stage = .entered ∧ s'.trace = .checked i s.breaker.isTripped :: s.trace ∧
        ∀ stage', pr = .running stage' → s.breaker.tripped = false) ∨
      (stage ≠ .entered ∧ s'.trace = s.trace) ∨
      (stage ≠ .entered ∧ ∃ ev, s'.trace = ev :: s.trace ∧ ev.id = i ∧
        ∀ j stage', ev = .recordedFailure j true → pr ≠ .running stage') := by
  cases h with
  | skip htripped => exact .inl ⟨rfl, by rw [htripped], by simp⟩
  | check hclosed => exact .inl ⟨rfl, by rw [hclosed], fun _ _ => hclosed⟩
  | unreadable => exact .inr (.inl ⟨by simp, rfl⟩)
  | unbuilt => exact .inr (.inl ⟨by simp, rfl⟩)
  -- past its check, a call adds at most one event in a step
  | call => exact .inr (.inr ⟨by simp, _, rfl, rfl, by simp⟩)
  | answer => exact .inr (.inr ⟨by simp, _, rfl, rfl, by simp⟩)
  | succeed => exact .inr (.inr ⟨by simp, _, rfl, rfl, by simp⟩)
  | escape => exact .inr (.inl ⟨by simp, rfl⟩)
  | unlogged => exact .inr (.inl ⟨by simp, rfl⟩)
  | fail => exact .inr (.inr ⟨by simp, _, rfl, rfl, by simp⟩)

/-- After the trip, fewer than `W` calls do anything but check: those in `late`, which are the only
ones past their check. -/
def LateBound (W : ℕ) (p : SyncPool ω) : Prop :=
  ∀ post i pre, p.shared.trace = post ++ .recordedFailure i true :: pre →
    ∃ late : Finset ℕ, late.card < W ∧ (∀ ev ∈ post, ev.isCheck = false → ev.id ∈ late) ∧
      ∀ j row stage, p.calls[j]? = some ⟨row, .running stage⟩ → stage ≠ .entered → j ∈ late

/-- When the state of call `k` is set, the calls past their check are still late if call `k` is. -/
theorem late_of_setState {p : SyncPool ω} {late : Finset ℕ} {k : ℕ} {row : NamedTuple}
    {st st' : CallState Stage (Except PyException Outcome)} (hcall : p.calls[k]? = some ⟨row, st'⟩)
    (hk : ∀ stage, st = .running stage → stage ≠ .entered → k ∈ late)
    (hrunning : ∀ j row stage, j ≠ k → p.calls[j]? = some ⟨row, .running stage⟩ →
      stage ≠ .entered → j ∈ late) :
    ∀ j row' stage, (p.setState k row st)[j]? = some ⟨row', .running stage⟩ →
      stage ≠ .entered → j ∈ late := by
  intro j row' stage hj hstage
  rcases (Pool.getElem?_setState hcall _).1 hj with ⟨rfl, hnew⟩ | ⟨hjk, hold⟩
  · cases hnew
    exact hk stage rfl hstage
  · exact hrunning j row' stage hjk hold hstage

theorem lateBound_of_step {W : ℕ} {threshold : ℤ} {p p' : SyncPool ω}
    {m : ThreadPool.Label NamedTuple ι} (hcard : p.runningIds.card ≤ W)
    (hrecorded : Recorded threshold p.shared.trace p.shared.breaker) (hp : LateBound W p)
    (h : Pool.Step W (self.upsertCallable logger upsert) p m p') : LateBound W p' := by
  intro post i pre htrace
  cases h with
  | submit row =>
    obtain ⟨late, hlate, hpost, hrunning⟩ := hp post i pre htrace
    refine ⟨late, hlate, hpost, fun j row' stage hcall => ?_⟩
    rcases (Pool.getElem?_submit _).1 hcall with hold | ⟨-, hnew⟩
    · exact hrunning j row' stage hold
    · cases hnew
  | dequeue hcall hfree =>
    obtain ⟨late, hlate, hpost, hrunning⟩ := hp post i pre htrace
    refine ⟨late, hlate, hpost, late_of_setState hcall ?_ fun j row' stage _ =>
      hrunning j row' stage⟩
    rintro stage ⟨⟩ hstage
    exact absurd rfl hstage
  | @advance k inp row stage pr s' hcall hstep =>
    change s'.trace = _ at htrace
    rcases trace_of_step (step_of_upsertStep hstep) with
      ⟨rfl, hnew, hpr⟩ | ⟨hstage, hnew⟩ | ⟨hstage, ev, hnew, hid, hpr⟩
    -- a check after the trip finds the breaker tripped, so it ends its call
    · rw [hnew] at htrace
      cases post with
      | nil => cases htrace
      | cons ev post =>
        obtain ⟨rfl, hold⟩ := List.cons_eq_cons.1 htrace
        have htripped : p.shared.breaker.tripped = true :=
          hrecorded.tripped_iff.2 ⟨i, by simp [hold]⟩
        obtain ⟨late, hlate, hpost, hrunning⟩ := hp post i pre hold
        refine ⟨late, hlate, ?_, late_of_setState hcall (fun stage' hstage' => ?_)
          fun j row' stage' _ => hrunning j row' stage'⟩
        · intro ev hev hcheck
          rcases List.mem_cons.1 hev with rfl | hev
          · cases hcheck
          · exact hpost ev hev hcheck
        · cases pr with
          | running stage'' => simp [hpr stage'' rfl] at htripped
          | finished r => cases hstage'
    -- nothing is added to the trace
    · rw [hnew] at htrace
      obtain ⟨late, hlate, hpost, hrunning⟩ := hp post i pre htrace
      have hk : k ∈ late := hrunning k row stage hcall hstage
      exact ⟨late, hlate, hpost, late_of_setState hcall (fun _ _ _ => hk)
        fun j row' stage' _ => hrunning j row' stage'⟩
    · rw [hnew] at htrace
      cases post with
      | nil =>
        -- this step is the trip: the late calls are the others on a worker
        obtain ⟨hev, -⟩ := List.cons_eq_cons.1 htrace
        have hk : k ∈ p.runningIds := Pool.mem_runningIds.2 ⟨row, stage, hcall⟩
        refine ⟨p.runningIds.erase k, (Finset.card_erase_lt_of_mem hk).trans_le hcard, by simp,
          late_of_setState hcall (fun stage' hstage' => ?_) fun j row' stage' hjk hj _ =>
            Finset.mem_erase.2 ⟨hjk, Pool.mem_runningIds.2 ⟨row', stage', hj⟩⟩⟩
        cases pr with
        | running stage'' => exact absurd rfl (hpr i stage'' hev)
        | finished r => cases hstage'
      | cons ev' post =>
        -- a later event of a call past its check, which is late already
        obtain ⟨rfl, hold⟩ := List.cons_eq_cons.1 htrace
        obtain ⟨late, hlate, hpost, hrunning⟩ := hp post i pre hold
        have hk : k ∈ late := hrunning k row stage hcall hstage
        refine ⟨late, hlate, ?_, late_of_setState hcall (fun _ _ _ => hk)
          fun j row' stage' _ => hrunning j row' stage'⟩
        intro ev' hev' hcheck
        rcases List.mem_cons.1 hev' with rfl | hev'
        · exact hid ▸ hk
        · exact hpost ev' hev' hcheck

variable {records : List NamedTuple} {world : ω} {s : WriteLoop NamedTuple Stage (Shared ω)}

/-- Fewer calls than workers do anything but check after the trip. -/
theorem lateBound_of_syncReaches
    (h : self.SyncReaches logger upsert records world s) :
    LateBound self.maxWorkers.toNat s.pool := by
  -- the bound needs to know how many calls run, and that the trace is the breaker's
  have hall : s.pool.runningIds.card ≤ self.maxWorkers.toNat ∧
      Recorded self.failureThreshold s.pool.shared.trace s.pool.shared.breaker ∧
      LateBound self.maxWorkers.toNat s.pool := by
    refine WriteLoop.pool_invariant
      (P := fun p => p.runningIds.card ≤ self.maxWorkers.toNat ∧
        Recorded self.failureThreshold p.shared.trace p.shared.breaker ∧
        LateBound self.maxWorkers.toNat p) ?_ ?_ h
    · rintro p m p' - ⟨hcard, hrecorded, hlate⟩ hstep
      exact ⟨Pool.card_runningIds_le_of_step hstep hcard, recorded_of_step hrecorded hstep,
        lateBound_of_step hcard hrecorded hlate hstep⟩
    · refine ⟨by simp [Pool.runningIds], .new, ?_⟩
      intro post i pre htrace
      simp at htrace
  exact hall.2.2

/-- At most `max_workers - 1` calls start or finish a request after the trip. -/
theorem card_requestIds_lt
    (h : self.SyncReaches logger upsert records world s) {post pre : List Event} {i : ℕ}
    (htrace : s.pool.shared.trace = post ++ .recordedFailure i true :: pre) :
    ((requestIds post).card : ℤ) ≤ self.maxWorkers - 1 := by
  obtain ⟨late, hlate, hpost, -⟩ := lateBound_of_syncReaches h post i pre htrace
  have hsub : requestIds post ⊆ late := by
    intro j hj
    obtain ⟨ev, hev, rfl⟩ := List.mem_map.1 (List.mem_toFinset.1 hj)
    obtain ⟨hmem, hrequest⟩ := List.mem_filter.1 hev
    refine hpost ev hmem ?_
    cases ev <;> simp_all [Event.isRequest, Event.isCheck]
  have hcard := Finset.card_le_card hsub
  omega

/-- A row whose check comes after the trip is skipped, and no request is made for it. -/
theorem skipped_after_trip (h : self.SyncReaches logger upsert records world s)
    {post pre : List Event} {i j : ℕ} {tripped : Bool}
    (htrace : s.pool.shared.trace = post ++ .recordedFailure i true :: pre)
    (hj : .checked j tripped ∈ post) :
    s.pool.results[j]? = some (some (.ok .skipped)) ∧
      eventsOf j s.pool.shared.trace = [.checked j true] := by
  have hrecorded := recorded_of_syncReaches h
  rw [htrace] at hrecorded
  -- a breaker that tripped stays tripped, so the check found it open
  obtain rfl := hrecorded.checked_after_trip hj
  have hmem : Event.checked j true ∈ s.pool.shared.trace := by simp [htrace, hj]
  have htraced := traced_of_syncReaches h
  have hlt : j < s.pool.calls.length := htraced.id_lt _ hmem
  obtain ⟨⟨row, st⟩, hget⟩ : ∃ call, s.pool.calls[j]? = some call :=
    ⟨_, List.getElem?_eq_getElem hlt⟩
  obtain ⟨rfl, hevents⟩ :=
    (htraced.history j row st hget).of_checked_true (mem_eventsOf.2 ⟨hmem, rfl⟩)
  exact ⟨Pool.results_getElem?_eq_some.2 ⟨row, hget⟩, hevents⟩

/-! ### An outage: every upsert fails -/

/-- Every record's request can be prepared, and every `upsert_record` call fails. -/
structure Outage (runner : BaseODataSyncRunner) (upsert : Upsert ι ω)
    (records : List NamedTuple) : Prop where
  prepared : ∀ row ∈ records, ∃ key payload,
    row.getattr runner.dedupeKey = .ok key ∧ runner.buildPayload row = .ok payload
  fails : ∀ i call inp world, ∃ e,
    (upsert i call inp world).1 = .error e ∧ isTransportFailure e = true

section Outage

variable (hout : self.Outage upsert records)

include hout

theorem Outage.not_raised (hlogs : self.Logs logger)
    (h : self.SyncReaches logger upsert records world s) (e : PyException) : ¬s.Raised e := by
  refine not_raised_of_replies hlogs hout.prepared h ?_ e
  rintro i row key payload inp world e - - - - hreply
  obtain ⟨e', he', htransport⟩ := hout.fails i (self.upsertCall key payload) inp world
  cases he'.symm.trans hreply
  exact htransport

/-- In an outage a call that returned was skipped, or it failed and reported that. -/
theorem Outage.of_returned {i : ℕ} {row : NamedTuple} {outcome : Outcome} {events : List Event}
    (hrow : row ∈ records) (hreturned : self.Returned upsert i row outcome events) :
    (outcome = .skipped ∧ events = [.checked i true]) ∨
      (outcome = .failed ∧ ∃ call e trips, events =
        [.recordedFailure i trips, .returned i (.error e), .called i call, .checked i false]) := by
  obtain ⟨key, payload, hkey, hpayload⟩ := hout.prepared row hrow
  cases hreturned with
  | skipped => exact .inl ⟨rfl, rfl⟩
  | written _ _ hreply =>
    obtain ⟨inp, world, hreply⟩ := hreply
    obtain ⟨e, he, -⟩ := hout.fails i _ inp world
    cases he.symm.trans hreply
  | rejected => exact .inr ⟨rfl, _, _, _, rfl⟩
  | unbuilt _ hpayload' => cases hpayload.symm.trans hpayload'

section Returned

variable (h : self.SyncReaches logger upsert records world s) (hphase : s.phase = .exited none)

include h hphase

/-- Every call of a run that returned in an outage was skipped, or failed. -/
theorem Outage.of_id_lt {i : ℕ} (hi : i < records.length) :
    (s.pool.results[i]? = some (some (.ok .skipped)) ∧
        eventsOf i s.pool.shared.trace = [.checked i true]) ∨
      (s.pool.results[i]? = some (some (.ok .failed)) ∧
        ∃ call e trips, eventsOf i s.pool.shared.trace =
          [.recordedFailure i trips, .returned i (.error e), .called i call,
            .checked i false]) := by
  have hrow : records[i]? = some records[i] := List.getElem?_eq_getElem hi
  obtain ⟨outcome, events, hresult, rfl, hreturned⟩ := returned_of_syncReaches h hphase hrow
  rcases hout.of_returned (List.getElem_mem hi) hreturned with ⟨rfl, hevents⟩ | ⟨rfl, hevents⟩
  · exact .inl ⟨hresult, hevents⟩
  · exact .inr ⟨hresult, hevents⟩

/-- In an outage the attempted rows are those that reported a failure. -/
theorem Outage.countP_isCall :
    s.pool.shared.trace.countP Event.isCall = s.result .failed := by
  have hids : ∀ kind : Event → Bool, ∀ ev ∈ s.pool.shared.trace, kind ev = true →
      ev.id ∈ Finset.range records.length :=
    fun kind ev hev _ => Finset.mem_range.2 (id_lt_of_returned h hphase hev)
  rw [← countP_isFailure_of_returned h hphase, countP_eq_sum (hids _), countP_eq_sum (hids _)]
  apply Finset.sum_congr rfl
  intro i hi
  rcases hout.of_id_lt h hphase (Finset.mem_range.1 hi) with
    ⟨-, hevents⟩ | ⟨-, call, e, trips, hevents⟩ <;> rw [hevents] <;> rfl

theorem Outage.not_recordedSuccess (i : ℕ) :
    Event.recordedSuccess i ∉ s.pool.shared.trace := by
  intro hmem
  have hi : i < records.length := id_lt_of_returned h hphase hmem
  have hmem' : Event.recordedSuccess i ∈ eventsOf i s.pool.shared.trace :=
    mem_eventsOf.2 ⟨hmem, rfl⟩
  rcases hout.of_id_lt h hphase hi with ⟨-, hevents⟩ | ⟨-, call, e, trips, hevents⟩ <;>
    simp [hevents] at hmem'

/-- In an outage every row is failed or skipped. -/
theorem Outage.failed_add_skipped :
    s.result .failed + s.result .skipped = records.length := by
  have hinv := WriteLoop.inv_of_reachable h
  have hzero : ∀ outcome, outcome ≠ .failed → outcome ≠ .skipped → s.result outcome = 0 := by
    intro outcome hfailed hskipped
    rw [hinv.count_of_returned hphase, List.count_eq_zero]
    intro hmem
    obtain ⟨i, hi⟩ := List.getElem?_of_mem hmem
    have hlt : i < records.length := by
      rw [← hinv.length_of_returned hphase]
      simpa [Pool.results] using (List.getElem?_eq_some_iff.1 hi).1
    rcases hout.of_id_lt h hphase hlt with ⟨hresult, -⟩ | ⟨hresult, -⟩
    · exact hskipped (by simpa [hresult, eq_comm] using hi)
    · exact hfailed (by simpa [hresult, eq_comm] using hi)
  -- nothing was created and nothing updated
  have htotal := hinv.total_of_returned hphase
  rw [Result.total, hzero .created (by simp) (by simp),
    hzero .updated (by simp) (by simp)] at htotal
  omega

/-- A breaker that is not tripped skipped nothing, and has not reached its threshold. -/
theorem Outage.of_not_tripped (hclosed : s.pool.shared.breaker.tripped = false) :
    s.result .skipped = 0 ∧ (s.result .failed : ℤ) < max 1 self.failureThreshold := by
  have hrecorded := recorded_of_syncReaches h
  constructor
  · rw [(WriteLoop.inv_of_reachable h).count_of_returned hphase, List.count_eq_zero]
    intro hmem
    obtain ⟨i, hi⟩ := List.getElem?_of_mem hmem
    rw [tripped_of_skipped h hi] at hclosed
    cases hclosed
  · have hstreak := hrecorded.consecutiveFailures_eq (hout.not_recordedSuccess h hphase) hclosed
    have hlt := s.pool.shared.breaker.not_reached hclosed
    rwa [hstreak, hrecorded.threshold_eq, countP_isFailure_of_returned h hphase] at hlt

/-- A tripped breaker has seen a threshold of failures before the late calls reported theirs. -/
theorem Outage.of_tripped (htripped : s.pool.shared.breaker.tripped = true) :
    max 1 self.failureThreshold ≤ s.result .failed ∧
      (s.result .failed : ℤ) ≤ max 1 self.failureThreshold + self.maxWorkers - 1 := by
  have hrecorded := recorded_of_syncReaches h
  obtain ⟨i, hi⟩ := hrecorded.tripped_iff.1 htripped
  obtain ⟨post, pre, htrace⟩ := List.append_of_mem hi
  obtain ⟨late, hlate, hpost, -⟩ := lateBound_of_syncReaches h post i pre htrace
  rw [← countP_isFailure_of_returned h hphase]
  refine ⟨hrecorded.le_countP_isFailure htripped, ?_⟩
  -- the failures up to the trip are the threshold, those after it are late calls, one each
  have hpre : (pre.countP Event.isFailure + 1 : ℤ) = max 1 self.failureThreshold := by
    rw [htrace] at hrecorded
    obtain ⟨_, htrip⟩ := hrecorded.of_append
    refine htrip.countP_at_trip fun j hj => hout.not_recordedSuccess h hphase j ?_
    simp [htrace, hj]
  have honce : ∀ j, (eventsOf j post).countP Event.isFailure ≤ 1 := by
    intro j
    have hle := (traced_of_syncReaches h).countP_isFailure_le_one j
    rw [htrace, eventsOf, List.filter_append, List.countP_append] at hle
    exact (Nat.le_add_right _ _).trans hle
  have hlateFailures : post.countP Event.isFailure ≤ late.card := by
    have hids : ∀ ev ∈ post, ev.isFailure = true → ev.id ∈ late := by
      intro ev hev hfailure
      refine hpost ev hev ?_
      cases ev <;> simp_all [Event.isFailure, Event.isCheck]
    calc
      _ = ∑ j ∈ late, (eventsOf j post).countP Event.isFailure := countP_eq_sum hids
      _ ≤ ∑ _j ∈ late, 1 := Finset.sum_le_sum fun j _ => honce j
      _ = late.card := by simp
  rw [htrace, List.countP_append, List.countP_cons_of_pos rfl]
  omega

end Returned

end Outage

/-- With `W` workers and a threshold `T`, at most `W - 1` calls start or finish a request after the
trip and every row checked after it is skipped without one; so an outage costs at least
`min N T` and at most `T + W - 1` attempts, and every other row is skipped. -/
theorem breaker_bounds_traffic [Nonempty ι] (self : BaseODataSyncRunner)
    (hworkers : 1 ≤ self.maxWorkers)
    (hlogs : self.Logs logger) (upsert : Upsert ι ω) (records : List NamedTuple) (world : ω) :
    (∀ s, self.SyncReaches logger upsert records world s →
      ∀ post i pre, s.pool.shared.trace = post ++ .recordedFailure i true :: pre →
        ((requestIds post).card : ℤ) ≤ self.maxWorkers - 1 ∧
          ∀ j tripped, .checked j tripped ∈ post →
            s.pool.results[j]? = some (some (.ok .skipped)) ∧
              ∀ call, .called j call ∉ s.pool.shared.trace) ∧
      (self.Outage upsert records →
        self.SyncTerminates logger upsert records world ∧
          ∀ s, self.SyncEnds logger upsert records world s →
            s.phase = .exited none ∧
              min (records.length : ℤ) (max 1 self.failureThreshold) ≤
                s.pool.shared.trace.countP Event.isCall ∧
              (s.pool.shared.trace.countP Event.isCall : ℤ) ≤
                max 1 self.failureThreshold + self.maxWorkers - 1 ∧
              (s.result .skipped : ℤ) =
                records.length - s.pool.shared.trace.countP Event.isCall) := by
  constructor
  · intro s h post i pre htrace
    refine ⟨card_requestIds_lt h htrace, fun j tripped hj => ?_⟩
    obtain ⟨hresult, hevents⟩ := skipped_after_trip h htrace hj
    refine ⟨hresult, fun call hcall => ?_⟩
    -- its only event is the check
    have hmem : Event.called j call ∈ eventsOf j s.pool.shared.trace :=
      mem_eventsOf.2 ⟨hcall, rfl⟩
    simp [hevents] at hmem
  · intro hout
    refine ⟨syncTerminates, fun s h => ?_⟩
    have hphase : s.phase = .exited none :=
      returned_of_syncEnds hworkers h (hout.not_raised hlogs h.1)
    have hsum := hout.failed_add_skipped h.1 hphase
    -- in an outage, a row was sent exactly if it failed
    rw [hout.countP_isCall h.1 hphase]
    cases htripped : s.pool.shared.breaker.tripped with
    | false =>
      -- there were too few rows to trip the breaker
      obtain ⟨hskipped, hfailed⟩ := hout.of_not_tripped h.1 hphase htripped
      exact ⟨hphase, by omega, by omega, by omega⟩
    | true =>
      obtain ⟨hlower, hupper⟩ := hout.of_tripped h.1 hphase htripped
      exact ⟨hphase, by omega, hupper, by omega⟩

/-- A runner with two workers whose breaker trips at the first failure. -/
def twoWorkers : BaseODataSyncRunner :=
  DataverseInventorySyncRunner.odata
    { source := .oneShot (.error ⟨.fileNotFoundError, "feed"⟩)
      maxWorkers := 2
      failureThreshold := 1
      writeWindowSize := 2 }

/-- A destination that refuses every connection. -/
def refuse : Upsert Unit Unit := fun _ _ _ world =>
  (.error ⟨.connectionError, "Connection refused"⟩, world)

/-- Three rows of a feed. -/
def threeRows : List NamedTuple :=
  [inventoryRow (.str "A") (.str "a") (.int 1), inventoryRow (.str "B") (.str "b") (.int 2),
    inventoryRow (.str "C") (.str "c") (.int 3)]

/-- Three rows under two workers: the second call is past its check when the first one trips the
breaker, and the third row is skipped. -/
def lateCallSchedule : List (WriteLoop.Label Unit) :=
  [.main, .main, .dequeue 0, .dequeue 1, .advance 0 (), .advance 1 (), .advance 0 (), .advance 0 (),
    .advance 0 (), .advance 1 (), .advance 1 (), .advance 1 (), .wait {0}, .collect 0, .main,
    .dequeue 2, .advance 2 (), .main, .collect 1, .collect 2, .main, .main]

theorem outage_refuse : twoWorkers.Outage refuse threeRows where
  prepared row hrow := by
    obtain rfl | rfl | rfl := by simpa [threeRows] using hrow
    all_goals exact ⟨_, _, rfl, rfl⟩
  fails _ _ _ _ := ⟨_, rfl, rfl⟩

theorem breaker_bounds_traffic_late_call :
    ∃ s, twoWorkers.SyncEnds standardLogger refuse threeRows () s ∧
      s.pool.shared.trace.countP Event.isCall = 2 ∧ s.phase = .exited none ∧
        min ((3 : ℕ) : ℤ) (max 1 1) ≤ s.pool.shared.trace.countP Event.isCall ∧
        (s.pool.shared.trace.countP Event.isCall : ℤ) ≤ max 1 1 + 2 - 1 ∧
        (s.result .skipped : ℤ) = (3 : ℕ) - s.pool.shared.trace.countP Event.isCall := by
  have h := (breaker_bounds_traffic twoWorkers (by decide)
    (logs_of_dedupeKey standardLogger (by decide)) refuse threeRows ()).2 outage_refuse
  have hends := syncEnds_of_exec twoWorkers standardLogger refuse threeRows () lateCallSchedule rfl
    rfl
  exact ⟨_, hends, rfl, h.2 _ hends⟩

end BaseODataSyncRunner

end Sync
