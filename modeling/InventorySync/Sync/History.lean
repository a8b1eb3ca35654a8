import Mathlib.Algebra.BigOperators.Group.Finset.Piecewise
import InventorySync.Sync.Dispatch

/-!
# What the trace of a run says about each call

`History` gives, for each state a call can be in, the events that the call has put into the trace,
newest first. `Traced` says that every submitted call has its history in the trace of the run and
that the trace holds nothing else; every run keeps it.
-/

open Python Pandas Transport ThreadPool

namespace Sync

/-- The event is a `record_failure` call. -/
def Event.isFailure : Event → Bool
  | .recordedFailure _ _ => true
  | _ => false

/-- The event is the start of an `upsert_record` call. -/
def Event.isCall : Event → Bool
  | .called _ _ => true
  | _ => false

/-- The event is a check of `is_tripped`. -/
def Event.isCheck : Event → Bool
  | .checked _ _ => true
  | _ => false

/-- The events of call `i` in a trace. -/
def eventsOf (i : ℕ) (trace : List Event) : List Event :=
  trace.filter fun ev => ev.id == i

theorem mem_eventsOf {i : ℕ} {trace : List Event} {ev : Event} :
    ev ∈ eventsOf i trace ↔ ev ∈ trace ∧ ev.id = i := by
  rw [eventsOf, List.mem_filter, beq_iff_eq]

/-- Events that all belong to call `i` are in its history and in no other. -/
theorem eventsOf_append {i j : ℕ} {new trace : List Event} (hnew : ∀ ev ∈ new, ev.id = i) :
    eventsOf j (new ++ trace) = if j = i then new ++ eventsOf j trace else eventsOf j trace := by
  rw [eventsOf, eventsOf, List.filter_append]
  split
  -- the history of `i` itself takes all of the new events
  next hji =>
    rw [List.filter_eq_self.2]
    exact fun ev hev => beq_iff_eq.2 ((hnew ev hev).trans hji.symm)
  next hji =>
    rw [List.filter_eq_nil_iff.2, List.nil_append]
    intro ev hev hid
    exact hji ((beq_iff_eq.1 hid).symm.trans (hnew ev hev))

/-- Events of some kind are counted call by call, where `ids` are calls that they can belong to. -/
theorem countP_eq_sum {kind : Event → Bool} {ids : Finset ℕ} {trace : List Event}
    (hids : ∀ ev ∈ trace, kind ev = true → ev.id ∈ ids) :
    trace.countP kind = ∑ i ∈ ids, (eventsOf i trace).countP kind := by
  induction trace with
  | nil => simp [eventsOf]
  | cons ev trace ih =>
    have hrest := ih fun ev' hev' => hids ev' (List.mem_cons_of_mem _ hev')
    have hsplit : ∀ i, (eventsOf i (ev :: trace)).countP kind =
        (eventsOf i trace).countP kind + if ev.id = i then (if kind ev then 1 else 0) else 0 := by
      intro i
      rw [eventsOf, eventsOf, List.filter_cons]
      by_cases hi : ev.id = i
      · rw [if_pos (beq_iff_eq.2 hi), if_pos hi, List.countP_cons]
      · rw [if_neg (by simpa using hi), if_neg hi, Nat.add_zero]
    simp only [hsplit]
    rw [Finset.sum_add_distrib, Finset.sum_ite_eq, List.countP_cons, hrest]
    -- an event of the kind adds one to the sum at its own call
    by_cases hkind : kind ev = true
    · rw [if_pos hkind, if_pos (hids ev List.mem_cons_self hkind)]
    · rw [if_neg hkind, ite_self]

namespace BaseODataSyncRunner

variable {ι ω : Type} (self : BaseODataSyncRunner) (logger : Logger) (upsert : Upsert ι ω)

/-- The events that call `i` for `row` has produced, newest first, by the state it is in. -/
inductive History (i : ℕ) (row : NamedTuple) :
    CallState Stage (Except PyException Outcome) → List Event → Prop
  | queued : History i row .queued []
  | entered : History i row (.running .entered) []
  | skipped : History i row (.finished (.ok .skipped)) [.checked i true]
  | checked : History i row (.running .checked) [.checked i false]
  | unreadable {e} (hkey : row.getattr self.dedupeKey = .error e) :
      History i row (.finished (.error e)) [.checked i false]
  | calling {key payload} (hkey : row.getattr self.dedupeKey = .ok key)
      (hpayload : self.buildPayload row = .ok payload) :
      History i row (.running (.calling key payload))
        [.called i (self.upsertCall key payload), .checked i false]
  | unbuilt {key e} (hkey : row.getattr self.dedupeKey = .ok key)
      (hpayload : self.buildPayload row = .error e) :
      History i row (.running (.answered key (.error e))) [.checked i false]
  | answered {key payload reply} (hkey : row.getattr self.dedupeKey = .ok key)
      (hpayload : self.buildPayload row = .ok payload)
      (hreply : ∃ inp world, (upsert i (self.upsertCall key payload) inp world).1 = reply) :
      History i row (.running (.answered key reply))
        [.returned i reply, .called i (self.upsertCall key payload), .checked i false]
  | succeeded {key response events outcome}
      (hanswered : History i row (.running (.answered key (.ok response))) events)
      (houtcome : outcome = outcomeOf response) :
      History i row (.finished (.ok outcome)) (.recordedSuccess i :: events)
  | escaped {key e events} (hanswered : History i row (.running (.answered key (.error e))) events)
      (he : isTransportFailure e = false) : History i row (.finished (.error e)) events
  | unlogged {key e e' events}
      (hanswered : History i row (.running (.answered key (.error e))) events)
      (he : isTransportFailure e = true) (hlog : logger.log (self.failureLog key e) = .error e') :
      History i row (.finished (.error e')) events
  | failed {key e events result trips}
      (hanswered : History i row (.running (.answered key (.error e))) events)
      (he : isTransportFailure e = true) (hlog : logger.log (self.failureLog key e) = .ok ())
      (hresult : result = .ok .failed ∨
        trips = true ∧ ∃ e', logger.log self.tripLog = .error e' ∧ result = .error e') :
      History i row (.finished result) (.recordedFailure i trips :: events)

variable {self logger upsert}

/-- A step of a call extends its history. -/
theorem history_of_step {i : ℕ} {row : NamedTuple} {stage : Stage} {inp : ι} {s s' : Shared ω}
    {pr : Progress Stage (Except PyException Outcome)} {events : List Event}
    (h : self.Step logger upsert i row s stage inp pr s')
    (hevents : self.History logger upsert i row (.running stage) events) :
    ∃ new, s'.trace = new ++ s.trace ∧ (∀ ev ∈ new, ev.id = i) ∧
      self.History logger upsert i row pr.toState (new ++ events) := by
  -- the stage a step starts in leaves one history each, except behind `answered`
  cases h with
  | skip htripped =>
    cases hevents
    exact ⟨[.checked i true], rfl, by simp [Event.id], .skipped⟩
  | check hclosed =>
    cases hevents
    exact ⟨[.checked i false], rfl, by simp [Event.id], .checked⟩
  | unreadable hkey =>
    cases hevents
    exact ⟨[], rfl, by simp, .unreadable hkey⟩
  | unbuilt hkey hpayload =>
    cases hevents
    exact ⟨[], rfl, by simp, .unbuilt hkey hpayload⟩
  | call hkey hpayload =>
    cases hevents
    exact ⟨[.called i _], rfl, by simp [Event.id], .calling hkey hpayload⟩
  | answer hreply =>
    cases hevents with
    | calling hkey hpayload =>
      exact ⟨[.returned i _], rfl, by simp [Event.id],
        .answered hkey hpayload ⟨_, _, congrArg Prod.fst hreply⟩⟩
  | succeed => exact ⟨[.recordedSuccess i], rfl, by simp [Event.id], .succeeded hevents rfl⟩
  | escape he => exact ⟨[], rfl, by simp, .escaped hevents he⟩
  | unlogged he hlog => exact ⟨[], rfl, by simp, .unlogged hevents he hlog⟩
  | fail he hlog hresult =>
    exact ⟨[.recordedFailure i _], rfl, by simp [Event.id], .failed hevents he hlog hresult⟩

/-- What a call that returned an outcome did. -/
inductive Returned (runner : BaseODataSyncRunner) (upsert : Upsert ι ω) (i : ℕ)
    (row : NamedTuple) : Outcome → List Event → Prop
  | skipped : Returned runner upsert i row .skipped [.checked i true]
  | written {key payload response outcome} (hkey : row.getattr runner.dedupeKey = .ok key)
      (hpayload : runner.buildPayload row = .ok payload)
      (hreply : ∃ inp world,
        (upsert i (runner.upsertCall key payload) inp world).1 = .ok response)
      (houtcome : outcome = outcomeOf response) :
      Returned runner upsert i row outcome
        [.recordedSuccess i, .returned i (.ok response),
          .called i (runner.upsertCall key payload), .checked i false]
  | rejected {key payload e trips} (hkey : row.getattr runner.dedupeKey = .ok key)
      (hpayload : runner.buildPayload row = .ok payload)
      (hreply : ∃ inp world, (upsert i (runner.upsertCall key payload) inp world).1 = .error e)
      (he : isTransportFailure e = true) :
      Returned runner upsert i row .failed
        [.recordedFailure i trips, .returned i (.error e),
          .called i (runner.upsertCall key payload), .checked i false]
  | unbuilt {key e trips} (hkey : row.getattr runner.dedupeKey = .ok key)
      (hpayload : runner.buildPayload row = .error e) (he : isTransportFailure e = true) :
      Returned runner upsert i row .failed [.recordedFailure i trips, .checked i false]

/-- What a call that raised did, when its log lines did not raise. -/
inductive Raised (runner : BaseODataSyncRunner) (upsert : Upsert ι ω) (i : ℕ)
    (row : NamedTuple) (e : PyException) : List Event → Prop
  | unreadable (hkey : row.getattr runner.dedupeKey = .error e) :
      Raised runner upsert i row e [.checked i false]
  | unbuilt {key} (hkey : row.getattr runner.dedupeKey = .ok key)
      (hpayload : runner.buildPayload row = .error e) (he : isTransportFailure e = false) :
      Raised runner upsert i row e [.checked i false]
  | escaped {key payload} (hkey : row.getattr runner.dedupeKey = .ok key)
      (hpayload : runner.buildPayload row = .ok payload)
      (hreply : ∃ inp world, (upsert i (runner.upsertCall key payload) inp world).1 = .error e)
      (he : isTransportFailure e = false) :
      Raised runner upsert i row e
        [.returned i (.error e), .called i (runner.upsertCall key payload), .checked i false]

section History

variable {i : ℕ} {row : NamedTuple} {st : CallState Stage (Except PyException Outcome)}
  {events : List Event}

/-- A call that found the breaker tripped did nothing else, and returned `"skipped"`. -/
theorem History.of_checked_true (h : self.History logger upsert i row st events)
    (hmem : Event.checked i true ∈ events) :
    st = .finished (.ok .skipped) ∧ events = [.checked i true] := by
  cases h with
  | queued => simp at hmem
  | entered => simp at hmem
  | skipped => exact ⟨rfl, rfl⟩
  | checked => simp at hmem
  | unreadable => simp at hmem
  | calling => simp at hmem
  | unbuilt => simp at hmem
  | answered => simp at hmem
  -- every later stage starts from a check that found the breaker closed
  | succeeded hanswered => cases hanswered with | answered => simp at hmem
  | escaped hanswered => cases hanswered <;> simp at hmem
  | unlogged hanswered => cases hanswered <;> simp at hmem
  | failed hanswered => cases hanswered <;> simp at hmem

theorem History.returned {outcome : Outcome}
    (h : self.History logger upsert i row (.finished (.ok outcome)) events) :
    self.Returned upsert i row outcome events := by
  cases h with
  | skipped => exact .skipped
  | succeeded hanswered houtcome =>
    cases hanswered with
    | answered hkey hpayload hreply => exact .written hkey hpayload hreply houtcome
  | failed hanswered he hlog hresult =>
    rcases hresult with hresult | ⟨-, e', -, hresult⟩
    · -- a row counted as failed was refused by the destination, or never sent
      cases hresult
      cases hanswered with
      | unbuilt hkey hpayload => exact .unbuilt hkey hpayload he
      | answered hkey hpayload hreply => exact .rejected hkey hpayload hreply he
    · cases hresult

theorem History.raised {e : PyException} (hlogs : self.Logs logger)
    (h : self.History logger upsert i row (.finished (.error e)) events) :
    self.Raised upsert i row e events := by
  cases h with
  | unreadable hkey => exact .unreadable hkey
  | escaped hanswered he =>
    cases hanswered with
    | unbuilt hkey hpayload => exact .unbuilt hkey hpayload he
    | answered hkey hpayload hreply => exact .escaped hkey hpayload hreply he
  | unlogged hanswered he hlog => cases (hlogs.failureLog _ _).symm.trans hlog
  | failed hanswered he hlog hresult =>
    rcases hresult with hresult | ⟨-, e', htrip, -⟩
    · cases hresult
    · cases hlogs.tripLog.symm.trans htrip

/-- A call reports to `record_failure` at most once. -/
theorem History.countP_isFailure_le_one (h : self.History logger upsert i row st events) :
    events.countP Event.isFailure ≤ 1 := by
  cases h with
  | queued => exact Nat.zero_le 1
  | entered => exact Nat.zero_le 1
  | skipped => exact Nat.zero_le 1
  | checked => exact Nat.zero_le 1
  | unreadable => exact Nat.zero_le 1
  | calling => exact Nat.zero_le 1
  | unbuilt => exact Nat.zero_le 1
  | answered => exact Nat.zero_le 1
  | succeeded hanswered => cases hanswered with | answered => exact Nat.zero_le 1
  | escaped hanswered => cases hanswered <;> exact Nat.zero_le 1
  | unlogged hanswered => cases hanswered <;> exact Nat.zero_le 1
  -- only the last stage reports a failure, and it is the end of the call
  | failed hanswered => cases hanswered <;> exact Nat.le_refl 1

/-- A call that returned an outcome reported to `record_failure` exactly if that is `"failed"`. -/
theorem Returned.countP_isFailure {outcome : Outcome}
    (h : self.Returned upsert i row outcome events) :
    events.countP Event.isFailure = if outcome = .failed then 1 else 0 := by
  cases h with
  | skipped => rfl
  | @written key payload response outcome hkey hpayload hreply houtcome =>
    have hne : outcome ≠ .failed := by
      rw [houtcome, outcomeOf]
      split <;> simp
    rw [if_neg hne]
    rfl
  | rejected => rfl
  | unbuilt => rfl

/-- A call that returned `"skipped"` made one check. -/
theorem Returned.of_skipped (h : self.Returned upsert i row .skipped events) :
    events = [.checked i true] := by
  cases h with
  | skipped => rfl
  | written _ _ _ houtcome =>
    unfold outcomeOf at houtcome
    split at houtcome <;> cases houtcome

end History

/-- The pool of a `sync_records` run. -/
abbrev SyncPool (ω : Type) : Type := Pool NamedTuple Stage (Shared ω) (Except PyException Outcome)

/-- Every submitted call has its history in the trace, and the trace holds nothing else. -/
structure Traced (runner : BaseODataSyncRunner) (logger : Logger) (upsert : Upsert ι ω)
    (p : SyncPool ω) : Prop where
  history : ∀ i row st, p.calls[i]? = some ⟨row, st⟩ →
    runner.History logger upsert i row st (eventsOf i p.shared.trace)
  id_lt : ∀ ev ∈ p.shared.trace, ev.id < p.calls.length

theorem traced_of_step {W : ℕ} {p p' : SyncPool ω} {m : ThreadPool.Label NamedTuple ι}
    (hp : self.Traced logger upsert p)
    (h : Pool.Step W (self.upsertCallable logger upsert) p m p') :
    self.Traced logger upsert p' := by
  cases h with
  | submit row =>
    have hlen : (p.submit row).calls.length = p.calls.length + 1 := by simp [Pool.submit]
    refine ⟨?_, fun ev hev => hlen ▸ Nat.lt_succ_of_lt (hp.id_lt ev hev)⟩
    intro i row' st hcall
    rcases (Pool.getElem?_submit _).1 hcall with hold | ⟨hi, hnew⟩
    · exact hp.history i row' st hold
    · -- every event so far belongs to an older call
      cases hnew
      have hnone : eventsOf i p.shared.trace = [] := by
        rw [eventsOf, List.filter_eq_nil_iff]
        intro ev hev hid
        have hlt := hp.id_lt ev hev
        rw [beq_iff_eq.1 hid, hi] at hlt
        exact hlt.false
      change self.History logger upsert i row .queued (eventsOf i p.shared.trace)
      rw [hnone]
      exact .queued
  | @dequeue j row hcall hfree =>
    -- taking a call off the queue leaves no trace
    refine ⟨?_, fun ev hev => by simpa [Pool.setState] using hp.id_lt ev hev⟩
    intro i row' st hi
    rcases (Pool.getElem?_setState hcall _).1 hi with ⟨rfl, hnew⟩ | ⟨-, hold⟩
    · cases hnew
      have hqueued := hp.history i row .queued hcall
      change self.History logger upsert i row (.running .entered) (eventsOf i p.shared.trace)
      cases hempty : eventsOf i p.shared.trace with
      | nil => exact .entered
      | cons ev events =>
        rw [hempty] at hqueued
        cases hqueued
    · exact hp.history i row' st hold
  | @advance j inp row stage pr s' hcall hstep =>
    have hstep' := step_of_upsertStep hstep
    obtain ⟨new, htrace, hids, hnew⟩ := history_of_step hstep' (hp.history j row _ hcall)
    refine ⟨?_, ?_⟩
    · intro i row' st hi
      -- only the stepping call has new events
      change self.History logger upsert i row' st (eventsOf i s'.trace)
      rw [htrace, eventsOf_append hids]
      rcases (Pool.getElem?_setState hcall _).1 hi with ⟨rfl, hcallNew⟩ | ⟨hij, hold⟩
      · cases hcallNew
        rw [if_pos rfl]
        exact hnew
      · rw [if_neg hij]
        exact hp.history i row' st hold
    · intro ev hev
      change ev ∈ s'.trace at hev
      rw [htrace, List.mem_append] at hev
      have hlt : ev.id < p.calls.length := by
        rcases hev with hev | hev
        · rw [hids ev hev]
          exact (List.getElem?_eq_some_iff.1 hcall).1
        · exact hp.id_lt ev hev
      simpa [Pool.setState] using hlt

/-- No call reports to `record_failure` twice. -/
theorem Traced.countP_isFailure_le_one {p : SyncPool ω} (hp : self.Traced logger upsert p) (i : ℕ) :
    (eventsOf i p.shared.trace).countP Event.isFailure ≤ 1 := by
  cases hcall : p.calls[i]? with
  | some call => exact (hp.history i call.row call.state hcall).countP_isFailure_le_one
  | none =>
    have hnil : eventsOf i p.shared.trace = [] := by
      rw [List.eq_nil_iff_forall_not_mem]
      intro ev hev
      obtain ⟨hmem, hid⟩ := mem_eventsOf.1 hev
      have hlt := hp.id_lt ev hmem
      rw [hid] at hlt
      exact hlt.not_ge (List.getElem?_eq_none_iff.1 hcall)
    simp [hnil]

/-! ### Runs of `sync_records` -/

variable (self logger upsert)

/-- The states that `sync_records` can reach from a given world: a fresh breaker, and one
`_upsert_one` call for each record. -/
def SyncReaches (records : List NamedTuple) (world : ω)
    (s : WriteLoop NamedTuple Stage (Shared ω)) : Prop :=
  WriteLoop.Reachable self.maxWorkers self.writeWindowSize (self.upsertCallable logger upsert)
    records ⟨.new self.failureThreshold, world, []⟩ s

/-- The states in which a `sync_records` call can end: no step is enabled any more. -/
def SyncEnds (records : List NamedTuple) (world : ω)
    (s : WriteLoop NamedTuple Stage (Shared ω)) : Prop :=
  self.SyncReaches logger upsert records world s ∧
    TransitionSystem.Stuck (WriteLoop.step self.maxWorkers.toNat self.writeWindowSize
      (self.upsertCallable logger upsert)) s

/-- No schedule of a `sync_records` call goes on forever. -/
def SyncTerminates (records : List NamedTuple) (world : ω) : Prop :=
  ∃ bound, ∀ schedule s,
    TransitionSystem.exec (WriteLoop.step self.maxWorkers.toNat self.writeWindowSize
        (self.upsertCallable logger upsert))
      (WriteLoop.start records ⟨.new self.failureThreshold, world, []⟩) schedule = some s →
    schedule.length ≤ bound

variable {self logger upsert} {records : List NamedTuple} {world : ω}
  {s : WriteLoop NamedTuple Stage (Shared ω)}

theorem syncTerminates : self.SyncTerminates logger upsert records world :=
  ⟨_, fun _ _ => WriteLoop.length_le_of_exec⟩

variable (self logger upsert records world) in
/-- Some schedule leads to an end. -/
theorem exists_syncEnds : ∃ s, self.SyncEnds logger upsert records world s := by
  have hlt : ∀ s lab s', WriteLoop.step self.maxWorkers.toNat self.writeWindowSize
      (self.upsertCallable logger upsert) s lab = some s' →
      s'.stepsLeft (self.upsertCallable logger upsert) <
        s.stepsLeft (self.upsertCallable logger upsert) :=
    fun _ _ _ hstep => WriteLoop.stepsLeft_lt_of_step (WriteLoop.step_eq_some_iff.1 hstep)
  obtain ⟨schedule, s, hrun, hstuck⟩ := TransitionSystem.exists_exec_stuck hlt
    (WriteLoop.start records ⟨.new self.failureThreshold, world, []⟩)
  exact ⟨s, ⟨schedule, hrun⟩, hstuck⟩

variable (self logger upsert) in
/-- A schedule that leads out of `sync_records` leads to an end. -/
theorem syncEnds_of_exec (records : List NamedTuple) (world : ω)
    (schedule : List (WriteLoop.Label ι)) {raised : Option PyException}
    (hrun : TransitionSystem.exec (WriteLoop.step self.maxWorkers.toNat self.writeWindowSize
        (self.upsertCallable logger upsert))
      (WriteLoop.start records ⟨.new self.failureThreshold, world, []⟩) schedule = some s)
    (hphase : s.phase = .exited raised) : self.SyncEnds logger upsert records world s :=
  ⟨⟨schedule, hrun⟩, (WriteLoop.inv_of_reachable ⟨schedule, hrun⟩).stuck_of_exited hphase⟩

/-- A `sync_records` call ends only by returning or raising. -/
theorem exited_of_syncEnds [Nonempty ι] (hworkers : 1 ≤ self.maxWorkers)
    (h : self.SyncEnds logger upsert records world s) : ∃ raised, s.phase = .exited raised := by
  by_contra hphase
  push Not at hphase
  have hW : 0 < self.maxWorkers.toNat := by omega
  obtain ⟨lab, s', hstep⟩ := WriteLoop.exists_step (c := self.upsertCallable logger upsert) hW
    (WriteLoop.inv_of_reachable h.1) hphase
  rw [h.2 lab] at hstep
  cases hstep

/-- A `sync_records` call in which no call raises ends by returning. -/
theorem returned_of_syncEnds [Nonempty ι] (hworkers : 1 ≤ self.maxWorkers)
    (h : self.SyncEnds logger upsert records world s) (hraised : ∀ e, ¬s.Raised e) :
    s.phase = .exited none := by
  obtain ⟨raised, hphase⟩ := exited_of_syncEnds hworkers h
  cases raised with
  | none => exact hphase
  | some e => exact absurd ((WriteLoop.inv_of_reachable h.1).raised_of_exited hphase) (hraised e)

theorem traced_of_syncReaches (h : self.SyncReaches logger upsert records world s) :
    self.Traced logger upsert s.pool := by
  refine WriteLoop.pool_invariant (fun p m p' _ hp hstep => traced_of_step hp hstep) ?_ h
  exact ⟨by simp, by simp⟩

/-- A call that is over has a finished history. -/
theorem history_of_result (h : self.SyncReaches logger upsert records world s) {i : ℕ}
    {result : Except PyException Outcome} (hresult : s.pool.results[i]? = some (some result)) :
    ∃ row, s.pool.rows[i]? = some row ∧ row ∈ records ∧
      self.History logger upsert i row (.finished result) (eventsOf i s.pool.shared.trace) := by
  obtain ⟨row, hcall⟩ := Pool.results_getElem?_eq_some.1 hresult
  have hrow : s.pool.rows[i]? = some row := by rw [Pool.rows, List.getElem?_map, hcall]; rfl
  exact ⟨row, hrow, (WriteLoop.inv_of_reachable h).mem_records row (List.mem_of_getElem? hrow),
    (traced_of_syncReaches h).history i row _ hcall⟩

/-- A submitted row is the record with its number. -/
theorem records_getElem?_of_rows (h : self.SyncReaches logger upsert records world s) {i : ℕ}
    {row : NamedTuple} (hrow : s.pool.rows[i]? = some row) : records[i]? = some row := by
  have horder : s.pool.rows ++ s.pending = records := (WriteLoop.inv_of_reachable h).order
  rw [← horder, List.getElem?_append_left (List.getElem?_eq_some_iff.1 hrow).1]
  exact hrow

/-- An exception leaves `sync_records` only out of some call. -/
theorem raised_of_syncReaches (hlogs : self.Logs logger)
    (h : self.SyncReaches logger upsert records world s) {e : PyException} (he : s.Raised e) :
    ∃ i row events, records[i]? = some row ∧ eventsOf i s.pool.shared.trace = events ∧
      self.Raised upsert i row e events := by
  obtain ⟨i, hresult⟩ := he
  obtain ⟨row, hrow, -, hhistory⟩ := history_of_result h hresult
  exact ⟨i, row, _, records_getElem?_of_rows h hrow, rfl, hhistory.raised hlogs⟩

/-- If every row can be prepared, and an issued request raises only what is counted, then nothing
leaves `sync_records`. -/
theorem not_raised_of_replies (hlogs : self.Logs logger)
    (hprepared : ∀ row ∈ records, ∃ key payload,
      row.getattr self.dedupeKey = .ok key ∧ self.buildPayload row = .ok payload)
    (h : self.SyncReaches logger upsert records world s)
    (hreplies : ∀ (i : ℕ) row key payload inp w e, records[i]? = some row →
      row.getattr self.dedupeKey = .ok key → self.buildPayload row = .ok payload →
      Event.called i (self.upsertCall key payload) ∈ s.pool.shared.trace →
      (upsert i (self.upsertCall key payload) inp w).1 = .error e → isTransportFailure e = true)
    (e : PyException) : ¬s.Raised e := by
  intro he
  obtain ⟨i, row, events, hrow, hevents, hraised⟩ := raised_of_syncReaches hlogs h he
  obtain ⟨key, payload, hkey, hpayload⟩ := hprepared row (List.mem_of_getElem? hrow)
  cases hraised with
  | unreadable hkey' => cases hkey.symm.trans hkey'
  | unbuilt _ hpayload' => cases hpayload.symm.trans hpayload'
  -- what left `_upsert_one` came out of an issued request
  | @escaped key' payload' hkey' hpayload' hreply he =>
    obtain ⟨inp, w, hreply⟩ := hreply
    have hmem : Event.called i (self.upsertCall key' payload') ∈ s.pool.shared.trace :=
      (mem_eventsOf.1 (hevents ▸ List.mem_cons_of_mem _ List.mem_cons_self)).1
    exact Bool.false_ne_true
      (he.symm.trans (hreplies i row key' payload' inp w e hrow hkey' hpayload' hmem hreply))

/-- When `sync_records` returns, every call returned an outcome. -/
theorem returned_of_syncReaches (h : self.SyncReaches logger upsert records world s)
    (hphase : s.phase = .exited none) {i : ℕ} {row : NamedTuple} (hrow : records[i]? = some row) :
    ∃ outcome events, s.pool.results[i]? = some (some (.ok outcome)) ∧
      eventsOf i s.pool.shared.trace = events ∧
      self.Returned upsert i row outcome events := by
  have hinv := WriteLoop.inv_of_reachable h
  obtain ⟨outcome, hresult⟩ :=
    hinv.result_of_returned hphase (List.getElem?_eq_some_iff.1 hrow).1
  obtain ⟨row', hrow', -, hhistory⟩ := history_of_result h hresult
  rw [hinv.rows_of_returned hphase, hrow] at hrow'
  cases hrow'
  exact ⟨outcome, _, hresult, rfl, hhistory.returned⟩

theorem id_lt_of_returned (h : self.SyncReaches logger upsert records world s)
    (hphase : s.phase = .exited none) {ev : Event} (hev : ev ∈ s.pool.shared.trace) :
    ev.id < records.length :=
  (WriteLoop.inv_of_reachable h).length_of_returned hphase ▸ (traced_of_syncReaches h).id_lt ev hev

/-- When `sync_records` returns, `result["failed"]` is the number of `record_failure` calls. -/
theorem countP_isFailure_of_returned (h : self.SyncReaches logger upsert records world s)
    (hphase : s.phase = .exited none) :
    s.pool.shared.trace.countP Event.isFailure = s.result .failed := by
  have hinv := WriteLoop.inv_of_reachable h
  have hlen := hinv.length_of_returned hphase
  have hids : ∀ ev ∈ s.pool.shared.trace, ev.isFailure = true →
      ev.id ∈ Finset.range s.pool.calls.length :=
    fun ev hev _ => Finset.mem_range.2 (hlen ▸ id_lt_of_returned h hphase hev)
  -- both sides are sums over the calls, and agree call by call
  rw [countP_eq_sum hids, hinv.count_of_returned hphase, Pool.count_results, Finset.card_filter]
  apply Finset.sum_congr rfl
  intro i hi
  obtain ⟨outcome, hresult⟩ := hinv.result_of_returned hphase (hlen ▸ Finset.mem_range.1 hi)
  obtain ⟨row, -, -, hhistory⟩ := history_of_result h hresult
  rw [hhistory.returned.countP_isFailure, hresult]
  simp

end BaseODataSyncRunner

end Sync
