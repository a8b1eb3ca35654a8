import InventorySync.Sync.BadRecords
import InventorySync.Sync.Traffic

/-!
# Credentials revoked during a run

Every `upsert_record` call asks for a token of its own, so credentials can be revoked between any
two requests of a run. From then on `acquire_bearer_token` raises `AuthenticationError`, which is
none of the classes `_upsert_one` catches: it leaves `sync_records`, and nothing is counted.

* `RevokedRun`: the runs of `sync_records` in which credentials are revoked at some moment;
* `likeOutage_iff`: such a run ends as in an outage exactly when no call asks for a token after it.
-/

open Python Pandas Transport ThreadPool

namespace Sync

variable {ι ω : Type}

/-! ### Runs with a moment of revocation -/

/-- A session whose identity provider refuses a token once the credentials are revoked, which the
environment's answer says; what is raised then may differ from call to call. -/
def revocable (session : Session ι ω) (refusal : ι → PyException) : Session (ι × Bool) ω where
  acquireBearerToken inp world :=
    -- `_get_headers` asks for the token before the request goes out, so the destination is as
    -- before
    if inp.2 then (.error (refusal inp.1), world) else session.acquireBearerToken inp.1 world
  patch i request inp world := session.patch i request inp.1 world

/-- The step is taken while the credentials are revoked, or while they are not. -/
def WriteLoop.Label.TakenWhile (revoked : Bool) : WriteLoop.Label (ι × Bool) → Prop
  | .advance _ inp => inp.2 = revoked
  | _ => True

/-- No `except` clause of `_upsert_one` catches an `AuthenticationError`. -/
theorem isTransportFailure_of_authenticationError {e : PyException}
    (h : e.isInstance [.authenticationError] = true) : isTransportFailure e = false := by
  obtain ⟨cls, message⟩ := e
  cases cls with
  -- of all the exception classes, these two have `AuthenticationError` among their bases
  | authenticationError => rfl
  | dataverseAuthenticationError => rfl
  | _ => simp [PyException.isInstance, ExceptionClass.mro] at h

/-- Nor what building a URL raises. -/
theorem isTransportFailure_of_buildEntityUrl {baseUrl entitySet alternateKeyName : String}
    {key : PyValue} {e : PyException}
    (h : buildEntityUrl baseUrl entitySet alternateKeyName key = .error e) :
    isTransportFailure e = false := by
  rcases Except.bind_eq_error.1 h with hencode | ⟨_, -, hpure⟩
  · -- only encoding the key value raises, when it is no string
    cases key <;> cases hencode <;> rfl
  · cases hpure

/-- An `upsert_record` call under revoked credentials raises, and not as a transport failure. -/
theorem upsertRecord_of_revoked {refusal : ι → PyException}
    (hrefusal : ∀ inp, (refusal inp).isInstance [.authenticationError] = true)
    (client : ODataClient) (session : Session ι ω) (i : ℕ) (call : UpsertCall) {inp : ι × Bool}
    (hrevoked : inp.2 = true) (world : ω) :
    ∃ e, (client.upsertRecord (revocable session refusal) i call inp world).1 = .error e ∧
      isTransportFailure e = false := by
  cases hurl : buildEntityUrl client.baseUrl call.entitySet call.alternateKeyName
      call.keyValue with
  | error e =>
    -- the URL is built first, so the call may raise before it asks for a token
    refine ⟨e, ?_, isTransportFailure_of_buildEntityUrl hurl⟩
    simp only [ODataClient.upsertRecord, hurl]
  | ok url =>
    refine ⟨refusal inp.1, ?_, isTransportFailure_of_authenticationError (hrefusal inp.1)⟩
    simp only [ODataClient.upsertRecord, hurl, revocable, hrevoked, if_true]

namespace BaseODataSyncRunner

/-- The run is at `moment` when the credentials are revoked, and goes on to `s`. -/
structure RevokedRun (runner : BaseODataSyncRunner) (logger : Logger) (client : ODataClient)
    (session : Session ι ω) (refusal : ι → PyException) (records : List NamedTuple) (world : ω)
    (moment s : WriteLoop NamedTuple Stage (Shared ω)) : Prop where
  before : ∃ schedule : List (WriteLoop.Label (ι × Bool)),
    (∀ lab ∈ schedule, lab.TakenWhile false) ∧
      TransitionSystem.exec (WriteLoop.step runner.maxWorkers.toNat runner.writeWindowSize
          (runner.upsertCallable logger (client.upsertRecord (revocable session refusal))))
        (WriteLoop.start records ⟨.new runner.failureThreshold, world, []⟩) schedule = some moment
  after : ∃ schedule : List (WriteLoop.Label (ι × Bool)),
    (∀ lab ∈ schedule, lab.TakenWhile true) ∧
      TransitionSystem.exec (WriteLoop.step runner.maxWorkers.toNat runner.writeWindowSize
          (runner.upsertCallable logger (client.upsertRecord (revocable session refusal))))
        moment schedule = some s

/-- A run ended as an outage ends it, where `events` are those after the moment of revocation: it
returned counts of every record, the rows whose requests were refused are counted, few rows were
attempted, and the rows never attempted were skipped. -/
structure LikeOutage (runner : BaseODataSyncRunner) (records : List NamedTuple)
    (events : List Event) (s : WriteLoop NamedTuple Stage (Shared ω)) : Prop where
  returned : s.phase = .exited none
  total : s.result.total = records.length
  refused : ∀ i reply, .returned i reply ∈ events →
    s.pool.results[i]? = some (some (.ok .failed)) ∨
      s.pool.results[i]? = some (some (.ok .skipped))
  attempts : (events.countP Event.isCall : ℤ) ≤
    max 1 runner.failureThreshold + runner.maxWorkers - 1
  skipped : ∀ i < records.length, (∀ call, .called i call ∉ s.pool.shared.trace) →
    s.pool.results[i]? = some (some (.ok .skipped))

/-- Nothing raised out of `_upsert_one` until the credentials were revoked, and no call asked for
its token after that. A call asks for its token in the step that ends it, so a request that is under
way with its token at the moment counts as ended before. -/
structure Spared (runner : BaseODataSyncRunner) (records : List NamedTuple)
    (moment : WriteLoop NamedTuple Stage (Shared ω)) (events : List Event) : Prop where
  prepared : ∀ i row, .checked i false ∈ events ++ moment.pool.shared.trace →
    records[i]? = some row → ∃ key payload,
      row.getattr runner.dedupeKey = .ok key ∧ runner.buildPayload row = .ok payload
  answered : ∀ i e, .returned i (.error e) ∈ moment.pool.shared.trace →
    isTransportFailure e = true
  quiet : ∀ i reply, .returned i reply ∉ events

variable {self : BaseODataSyncRunner} {logger : Logger} {client : ODataClient}
  {session : Session ι ω} {refusal : ι → PyException} {records : List NamedTuple} {world : ω}
  {moment s : WriteLoop NamedTuple Stage (Shared ω)}

theorem RevokedRun.syncReaches
    (h : self.RevokedRun logger client session refusal records world moment s) :
    self.SyncReaches logger (client.upsertRecord (revocable session refusal)) records world s := by
  obtain ⟨before, -, hbefore⟩ := h.before
  obtain ⟨after, -, hafter⟩ := h.after
  refine ⟨before ++ after, ?_⟩
  rw [TransitionSystem.exec_append, hbefore]
  exact hafter

/-- A step under revoked credentials adds to the trace, and what it adds is no response. -/
theorem trace_of_revoked_step
    (hrefusal : ∀ inp, (refusal inp).isInstance [.authenticationError] = true) {W : ℕ}
    {window : ℤ} {lab : WriteLoop.Label (ι × Bool)}
    {t t' : WriteLoop NamedTuple Stage (Shared ω)} (hlab : lab.TakenWhile true)
    (h : WriteLoop.Step W window
      (self.upsertCallable logger (client.upsertRecord (revocable session refusal))) t lab t') :
    ∃ new, t'.pool.shared.trace = new ++ t.pool.shared.trace ∧
      ∀ i reply, .returned i reply ∈ new →
        ∃ e, reply = .error e ∧ isTransportFailure e = false := by
  cases h with
  | dequeue hpool =>
    cases hpool
    exact ⟨[], rfl, by simp⟩
  | @advance i inp pool hpool =>
    cases hpool with
    | @advance _ _ row stage pr shared hcall hstep =>
      have hstep' : self.Step logger (client.upsertRecord (revocable session refusal)) i row
          t.pool.shared stage inp pr shared := step_of_upsertStep hstep
      cases hstep' with
      | skip => exact ⟨[.checked i true], rfl, by simp⟩
      | check => exact ⟨[.checked i false], rfl, by simp⟩
      | unreadable => exact ⟨[], rfl, by simp⟩
      | unbuilt => exact ⟨[], rfl, by simp⟩
      | call => exact ⟨[.called i _], rfl, by simp⟩
      -- the one step that ends a request: it was refused its token
      | @answer _ key payload reply world hreply =>
        refine ⟨[.returned i reply], rfl, fun j reply' hmem => ?_⟩
        obtain ⟨-, rfl⟩ : j = i ∧ reply' = reply := by simpa using hmem
        obtain ⟨e, hrefused, htransport⟩ := upsertRecord_of_revoked hrefusal client session i
          (self.upsertCall key payload) hlab t.pool.shared.world
        rw [hreply] at hrefused
        exact ⟨e, hrefused, htransport⟩
      | succeed => exact ⟨[.recordedSuccess i], rfl, by simp⟩
      | escape => exact ⟨[], rfl, by simp⟩
      | unlogged => exact ⟨[], rfl, by simp⟩
      | fail => exact ⟨[.recordedFailure i _], rfl, by simp⟩
  -- no other step touches the trace
  | submit => exact ⟨[], rfl, by simp⟩
  | submitCollected => exact ⟨[], rfl, by simp⟩
  | drain => exact ⟨[], rfl, by simp⟩
  | close => exact ⟨[], rfl, by simp⟩
  | exit => exact ⟨[], rfl, by simp⟩
  | wait => exact ⟨[], rfl, by simp⟩
  | collect => exact ⟨[], rfl, by simp⟩
  | raise => exact ⟨[], rfl, by simp⟩

/-- After the moment of revocation no request is answered with a response. -/
theorem RevokedRun.exists_events
    (hrefusal : ∀ inp, (refusal inp).isInstance [.authenticationError] = true)
    (h : self.RevokedRun logger client session refusal records world moment s) :
    ∃ events, s.pool.shared.trace = events ++ moment.pool.shared.trace ∧
      ∀ i reply, .returned i reply ∈ events →
        ∃ e, reply = .error e ∧ isTransportFailure e = false := by
  obtain ⟨schedule, hlabs, hafter⟩ := h.after
  refine TransitionSystem.exec_invariant
    (P := fun t : WriteLoop NamedTuple Stage (Shared ω) => ∃ events,
      t.pool.shared.trace = events ++ moment.pool.shared.trace ∧
        ∀ i reply, .returned i reply ∈ events →
          ∃ e, reply = .error e ∧ isTransportFailure e = false)
    (Q := fun lab => lab.TakenWhile true) ?_ hlabs ⟨[], rfl, by simp⟩ hafter
  rintro t lab t' hlab ⟨events, htrace, hevents⟩ hstep
  -- the trace is newest first, so the step's events stand in front
  obtain ⟨new, hnew, hreplies⟩ :=
    trace_of_revoked_step hrefusal hlab (WriteLoop.step_eq_some_iff.1 hstep)
  refine ⟨new ++ events, by rw [hnew, htrace, List.append_assoc], fun i reply hmem => ?_⟩
  rcases List.mem_append.1 hmem with hmem | hmem
  · exact hreplies i reply hmem
  · exact hevents i reply hmem

/-! ### What a run makes of the moment -/

/-- What stands second in a list is in each part of it from the front that has more than the first
element. -/
theorem mem_of_append_eq_cons_cons {a b x : Event} {new old rest : List Event}
    (h : new ++ old = a :: b :: rest) (hx : x ∈ new) (hne : x ≠ a) : b ∈ new := by
  cases new with
  | nil => cases hx
  | cons y new =>
    obtain ⟨rfl, htail⟩ := List.cons_eq_cons.1 h
    cases new with
    | nil => exact absurd (List.mem_singleton.1 hx) hne
    | cons z new =>
      obtain ⟨rfl, -⟩ := List.cons_eq_cons.1 htail
      exact List.mem_cons_of_mem _ List.mem_cons_self

section Ends

variable {upsert : Upsert ι ω} (h : self.SyncReaches logger upsert records world s)

include h

variable (hphase : s.phase = .exited none)

include hphase

/-- In a run that returned, a request that raised did so as a transport failure. -/
theorem isTransportFailure_of_returned {i : ℕ} {e : PyException}
    (hmem : .returned i (.error e) ∈ s.pool.shared.trace) : isTransportFailure e = true := by
  have hi : i < records.length := id_lt_of_returned h hphase hmem
  obtain ⟨outcome, events, -, hevents, hreturned⟩ :=
    returned_of_syncReaches h hphase (List.getElem?_eq_getElem hi)
  have hmem' : Event.returned i (.error e) ∈ events := hevents ▸ mem_eventsOf.2 ⟨hmem, rfl⟩
  -- a request of a row that returned was answered, or raised what `_upsert_one` catches
  cases hreturned with
  | skipped => simp at hmem'
  | written => simp at hmem'
  | rejected _ _ _ he =>
    obtain rfl : e = _ := by simpa using hmem'
    exact he
  | unbuilt => simp at hmem'

/-- In a run that returned, a request started after some moment finished after it. -/
theorem exists_returned_of_called {events older : List Event}
    (htrace : s.pool.shared.trace = events ++ older) {i : ℕ} {call : UpsertCall}
    (hmem : .called i call ∈ events) : ∃ reply, .returned i reply ∈ events := by
  have hcalled : Event.called i call ∈ s.pool.shared.trace :=
    htrace ▸ List.mem_append_left older hmem
  have hi : i < records.length := id_lt_of_returned h hphase hcalled
  obtain ⟨outcome, history, -, hhistory, hreturned⟩ :=
    returned_of_syncReaches h hphase (List.getElem?_eq_getElem hi)
  have hmem' : Event.called i call ∈ eventsOf i events := mem_eventsOf.2 ⟨hmem, rfl⟩
  -- of the row's own events, those after the moment are the newest
  have hsplit : eventsOf i events ++ eventsOf i older = history := by
    rw [← hhistory, htrace, eventsOf, eventsOf, eventsOf, List.filter_append]
  have hcalled' : Event.called i call ∈ history := hhistory ▸ mem_eventsOf.2 ⟨hcalled, rfl⟩
  cases hreturned with
  | skipped => simp at hcalled'
  | written =>
    have hreturned := mem_of_append_eq_cons_cons hsplit hmem' (by simp)
    exact ⟨_, (mem_eventsOf.1 hreturned).1⟩
  | rejected =>
    have hreturned := mem_of_append_eq_cons_cons hsplit hmem' (by simp)
    exact ⟨_, (mem_eventsOf.1 hreturned).1⟩
  | unbuilt => simp at hcalled'

end Ends

section Moment

variable {upsert : Upsert ι ω} (h : self.SyncReaches logger upsert records world s)
  {events : List Event} (htrace : s.pool.shared.trace = events ++ moment.pool.shared.trace)

include h htrace

/-- A run that was spared raised nothing. -/
theorem Spared.not_raised (hlogs : self.Logs logger) (hspared : self.Spared records moment events)
    (e : PyException) : ¬s.Raised e := by
  rintro ⟨i, hresult⟩
  obtain ⟨row, hrow, -, hhistory⟩ := history_of_result h hresult
  have hrow' : records[i]? = some row := records_getElem?_of_rows h hrow
  -- what the call did before it raised, by the place where it did
  obtain ⟨history, heq⟩ : ∃ history, eventsOf i s.pool.shared.trace = history := ⟨_, rfl⟩
  have hmem : ∀ ev ∈ history, ev ∈ events ++ moment.pool.shared.trace := fun ev hev =>
    htrace ▸ (mem_eventsOf.1 (heq ▸ hev)).1
  rw [heq] at hhistory
  cases hhistory.raised hlogs with
  | unreadable hkey =>
    obtain ⟨key, payload, hkey', -⟩ := hspared.prepared i row (hmem _ (by simp)) hrow'
    cases hkey.symm.trans hkey'
  | unbuilt _ hpayload =>
    obtain ⟨key, payload, -, hpayload'⟩ := hspared.prepared i row (hmem _ (by simp)) hrow'
    cases hpayload.symm.trans hpayload'
  | escaped _ _ _ he =>
    -- the request that raised was answered before the moment, or it was refused after it
    rcases List.mem_append.1 (hmem _ List.mem_cons_self) with hevent | hevent
    · exact hspared.quiet i _ hevent
    · rw [hspared.answered i e hevent] at he
      cases he

variable (hphase : s.phase = .exited none)

include hphase

theorem Spared.likeOutage (hworkers : 1 ≤ self.maxWorkers)
    (hspared : self.Spared records moment events) : self.LikeOutage records events s where
  returned := hphase
  total := (WriteLoop.inv_of_reachable h).total_of_returned hphase
  refused i reply hmem := absurd hmem (hspared.quiet i reply)
  attempts := by
    -- a request started after the moment would have finished after it
    have hnone : events.countP Event.isCall = 0 := by
      rw [List.countP_eq_zero]
      intro ev hev hcall
      cases ev with
      | called i call =>
        obtain ⟨reply, hreturned⟩ := exists_returned_of_called h hphase htrace hev
        exact hspared.quiet i reply hreturned
      | _ => cases hcall
    rw [hnone]
    omega
  skipped i hi hcalls := by
    have hrow : records[i]? = some records[i] := List.getElem?_eq_getElem hi
    obtain ⟨outcome, history, hresult, hevents, hreturned⟩ :=
      returned_of_syncReaches h hphase hrow
    have hmem : ∀ ev ∈ history, ev ∈ s.pool.shared.trace :=
      fun ev hev => (mem_eventsOf.1 (hevents ▸ hev)).1
    -- a row that was not attempted was skipped, unless its payload does not build
    cases hreturned with
    | skipped => exact hresult
    | written => exact absurd (hmem _ (by simp; rfl)) (hcalls _)
    | rejected => exact absurd (hmem _ (by simp; rfl)) (hcalls _)
    | unbuilt _ hpayload =>
      have hchecked : Event.checked i false ∈ events ++ moment.pool.shared.trace :=
        htrace ▸ hmem _ (by simp)
      obtain ⟨key, payload, -, hpayload'⟩ := hspared.prepared i _ hchecked hrow
      cases hpayload.symm.trans hpayload'

theorem LikeOutage.spared (hlike : self.LikeOutage records events s)
    (hreplies : ∀ i reply, .returned i reply ∈ events →
      ∃ e, reply = .error e ∧ isTransportFailure e = false) :
    self.Spared records moment events where
  prepared i row hmem hrow := by
    rw [← htrace] at hmem
    obtain ⟨outcome, history, hresult, hevents, hreturned⟩ :=
      returned_of_syncReaches h hphase hrow
    have hchecked : Event.checked i false ∈ history := hevents ▸ mem_eventsOf.2 ⟨hmem, rfl⟩
    cases hreturned with
    | skipped => simp at hchecked
    | written hkey hpayload => exact ⟨_, _, hkey, hpayload⟩
    | rejected hkey hpayload => exact ⟨_, _, hkey, hpayload⟩
    | unbuilt =>
      -- a row counted as failed without a request was not skipped
      have hskipped := hlike.skipped i (List.getElem?_eq_some_iff.1 hrow).1 fun call hcall => by
        have hcalled : Event.called i call ∈ eventsOf i s.pool.shared.trace :=
          mem_eventsOf.2 ⟨hcall, rfl⟩
        simp [hevents] at hcalled
      cases hresult.symm.trans hskipped
  answered i e hmem :=
    isTransportFailure_of_returned h hphase (htrace ▸ List.mem_append_right events hmem)
  -- a request refused after the moment would have raised out of `sync_records`
  quiet i reply hmem := by
    obtain ⟨e, rfl, he⟩ := hreplies i reply hmem
    rw [isTransportFailure_of_returned h hphase (htrace ▸ List.mem_append_left _ hmem)] at he
    cases he

end Moment

/-- A run of `sync_records` during which the credentials are revoked ends as an outage ends it
exactly when no request is left to make at that moment, and no call raised something else. -/
theorem likeOutage_iff [Nonempty ι] (self : BaseODataSyncRunner) (hworkers : 1 ≤ self.maxWorkers)
    (hlogs : self.Logs logger) (client : ODataClient) (session : Session ι ω)
    (hrefusal : ∀ inp, (refusal inp).isInstance [.authenticationError] = true)
    (records : List NamedTuple) (world : ω) :
    self.SyncTerminates logger (client.upsertRecord (revocable session refusal)) records world ∧
      ∀ moment s, self.RevokedRun logger client session refusal records world moment s →
        self.SyncEnds logger (client.upsertRecord (revocable session refusal)) records world s →
          ∃ events, s.pool.shared.trace = events ++ moment.pool.shared.trace ∧
            (self.LikeOutage records events s ↔ self.Spared records moment events) := by
  refine ⟨syncTerminates, fun moment s hrun hends => ?_⟩
  obtain ⟨events, htrace, hreplies⟩ := hrun.exists_events hrefusal
  refine ⟨events, htrace, fun hlike => ?_, fun hspared => ?_⟩
  · -- the run returned, so no call raised anything but a transport failure
    exact hlike.spared hends.1 htrace hlike.returned hreplies
  · -- no call raised, so the run returned
    have hphase : s.phase = .exited none :=
      returned_of_syncEnds hworkers hends (hspared.not_raised hends.1 htrace hlogs)
    exact hspared.likeOutage hends.1 htrace hphase hworkers

/-- What the Dataverse client raises when it is refused a token. -/
def tokenRefused (_ : Unit) : PyException where
  cls := .dataverseAuthenticationError
  message := "Failed to acquire Bearer token from Microsoft Entra ID: " ++
    "No error description returned by Microsoft Entra ID."

/-- One row is sent before the credentials are revoked. -/
def sentBeforeRevocation : List (WriteLoop.Label (Unit × Bool)) :=
  [.main, .dequeue 0, .advance 0 ((), false), .advance 0 ((), false), .advance 0 ((), false)]

/-- What is left of the run is to settle the response and count it. -/
def settledAfterRevocation : List (WriteLoop.Label (Unit × Bool)) :=
  [.advance 0 ((), true), .main, .collect 0, .main, .main]

/-- Credentials revoked behind the last request harm nothing. -/
theorem likeOutage_iff_revokedLate :
    ∃ moment s events, defaultRunner.RevokedRun standardLogger dataverseClient creating
        tokenRefused oneRow () moment s ∧
      s.pool.shared.trace = events ++ moment.pool.shared.trace ∧
      defaultRunner.LikeOutage oneRow events s := by
  have hrun : defaultRunner.RevokedRun standardLogger dataverseClient creating tokenRefused oneRow
      () _ _ :=
    { before := ⟨sentBeforeRevocation, by simp [sentBeforeRevocation, WriteLoop.Label.TakenWhile],
        rfl⟩
      after := ⟨settledAfterRevocation,
        by simp [settledAfterRevocation, WriteLoop.Label.TakenWhile], rfl⟩ }
  have hends := syncEnds_of_exec defaultRunner standardLogger
    (dataverseClient.upsertRecord (revocable creating tokenRefused)) oneRow ()
    (sentBeforeRevocation ++ settledAfterRevocation) rfl rfl
  obtain ⟨events, htrace, hiff⟩ := (likeOutage_iff defaultRunner (by decide)
    (logs_of_dedupeKey standardLogger (by decide)) dataverseClient creating (fun _ => rfl) oneRow
      ()).2 _ _ hrun hends
  obtain rfl : events = [.recordedSuccess 0] := List.append_cancel_right htrace.symm
  refine ⟨_, _, _, hrun, htrace, hiff.2 ⟨fun i row _ hrow => ?_, ?_, ?_⟩⟩
  · obtain ⟨key, payload, -, hkey, hpayload, -⟩ :=
      sendable_oneRow row (List.mem_of_getElem? hrow)
    exact ⟨_, payload, hkey, hpayload⟩
  · intro i e hmem
    rcases hmem with _ | ⟨_, _ | ⟨_, _ | ⟨_, hmem⟩⟩⟩
    cases hmem
  · simp

/-- The first of three rows is written. -/
def writtenBeforeRevocation : List (WriteLoop.Label (Unit × Bool)) :=
  [.main, .main, .main, .dequeue 0] ++ List.replicate 4 (.advance 0 ((), false))

/-- The other two are refused a token, and the first of these ends the run. -/
def refusedAfterRevocation : List (WriteLoop.Label (Unit × Bool)) :=
  [.dequeue 1] ++ List.replicate 4 (.advance 1 ((), true)) ++ [.dequeue 2] ++
    List.replicate 4 (.advance 2 ((), true)) ++ [.main, .collect 0, .collect 1, .main]

/-- Credentials revoked after the first of three rows end the run with an exception. -/
theorem not_likeOutage_revokedAfterFirstRow :
    defaultRunner.Logs standardLogger ∧ ∃ moment s,
      defaultRunner.RevokedRun standardLogger dataverseClient creating tokenRefused threeRows ()
          moment s ∧
        defaultRunner.SyncEnds standardLogger
          (dataverseClient.upsertRecord (revocable creating tokenRefused)) threeRows () s ∧
        s.phase = .exited (some (tokenRefused ())) ∧
        ∀ events, s.pool.shared.trace = events ++ moment.pool.shared.trace →
          ¬defaultRunner.LikeOutage threeRows events s := by
  have hrun : defaultRunner.RevokedRun standardLogger dataverseClient creating tokenRefused
      threeRows () _ _ :=
    { before := ⟨writtenBeforeRevocation,
        by simp [writtenBeforeRevocation, WriteLoop.Label.TakenWhile], rfl⟩
      after := ⟨refusedAfterRevocation,
        by simp [refusedAfterRevocation, WriteLoop.Label.TakenWhile], rfl⟩ }
  have hends := syncEnds_of_exec defaultRunner standardLogger
    (dataverseClient.upsertRecord (revocable creating tokenRefused)) threeRows ()
    (writtenBeforeRevocation ++ refusedAfterRevocation) rfl rfl
  refine ⟨logs_of_dedupeKey standardLogger (by decide), _, _, hrun, hends, rfl, ?_⟩
  intro events _ hlike
  -- an outage does not raise
  cases hlike.returned

end BaseODataSyncRunner

end Sync
