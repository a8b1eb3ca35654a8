import Mathlib.Algebra.Order.BigOperators.Group.Finset
import InventorySync.Sync.BadRecords
import InventorySync.Transport.Destination

/-!
# What a run does to the destination

`sync_records` over a destination that keeps a record under each key, where any request may fail and
a failed one may have been applied.

* `Tracks`, `tracks_of_step`: in every state of a run, what a record holds follows from the reply to
  the one call for its key, and a record that no submitted row is for is as it was;
* `runEffect_of_acceptedFeed`: so what a run did to each record is told by the outcome it counted.
-/

open Python Pandas Ingest Transport ThreadPool PatchStore

namespace Sync

/-- The event is the reply to a request. -/
def Event.isReply : Event → Bool
  | .returned _ _ => true
  | _ => false

/-- The event is the start of an `upsert_record` call for this key. -/
def Event.isCallFor (key : String) : Event → Bool
  | .called _ call => call.keyValue == .str key
  | _ => false

/-- What a record holds after the events of the call for it, if it held `old` before. -/
inductive Effect (payload : Record String JsonValue) (old : Option (Record String JsonValue)) :
    List Event → Option (Record String JsonValue) → Prop
  | unanswered {events} (h : ∀ ev ∈ events, ev.isReply = false) : Effect payload old events old
  | written {i response events} (hmem : Event.returned i (.ok response) ∈ events)
      (hstatus : response.statusCode = 201 ↔ old = none) :
      Effect payload old events (some (overwrite payload old))
  | failed {i e events now} (hmem : Event.returned i (.error e) ∈ events)
      (hnow : now = old ∨ now = some (overwrite payload old)) : Effect payload old events now

section Effect

variable {payload : Record String JsonValue} {old now : Option (Record String JsonValue)}
  {new events : List Event}

/-- Events that are no replies do not matter. -/
theorem Effect.append (h : Effect payload old events now)
    (hnew : ∀ ev ∈ new, ev.isReply = false) : Effect payload old (new ++ events) now := by
  cases h with
  | unanswered h =>
    apply Effect.unanswered
    intro ev hev
    rcases List.mem_append.1 hev with hev | hev
    · exact hnew ev hev
    · exact h ev hev
  | written hmem hstatus => exact .written (List.mem_append_right new hmem) hstatus
  | failed hmem hnow => exact .failed (List.mem_append_right new hmem) hnow

/-- Before there is a reply, the record is as it was. -/
theorem Effect.eq_old (h : Effect payload old events now)
    (hevents : ∀ ev ∈ events, ev.isReply = false) : now = old := by
  cases h with
  | unanswered => rfl
  | written hmem => cases hevents _ hmem
  | failed hmem => cases hevents _ hmem

/-- The record is as it was or was overwritten. -/
theorem Effect.kept_or_written (h : Effect payload old events now) :
    now = old ∨ now = some (overwrite payload old) := by
  cases h with
  | unanswered => exact .inl rfl
  | written => exact .inr rfl
  | failed hmem hnow => exact hnow

end Effect

/-- What an outcome says about a record that held `old` before the run and holds `now` after it. -/
def Settled (payload : Record String JsonValue) (old now : Option (Record String JsonValue)) :
    Outcome → Prop
  | .created => old = none ∧ now = some (overwrite payload old)
  | .updated => old ≠ none ∧ now = some (overwrite payload old)
  | .failed => now = old ∨ now = some (overwrite payload old)
  | .skipped => now = old

namespace BaseODataSyncRunner

section Generic

variable {ι ω : Type} {self : BaseODataSyncRunner} {logger : Logger} {upsert : Upsert ι ω} {i : ℕ}
  {row : NamedTuple} {events : List Event}

/-- The outcome that a call returned tells what became of its record. -/
theorem settled_of_returned {payload : Record String JsonValue}
    {old now : Option (Record String JsonValue)} {outcome : Outcome}
    (h : self.Returned upsert i row outcome events) (heffect : Effect payload old events now) :
    Settled payload old now outcome := by
  cases h with
  | skipped =>
    cases heffect with
    | unanswered => rfl
    | written hmem => simp at hmem
    | failed hmem => simp at hmem
  | @written key payload' response outcome hkey hpayload hreply houtcome =>
    have hmem : Event.returned i (.ok response) ∈
        [Event.recordedSuccess i, .returned i (.ok response),
          .called i (self.upsertCall key payload'), .checked i false] := by simp
    cases heffect with
    -- the row was answered with a response, so it was written
    | unanswered hevents => cases hevents _ hmem
    | @written j response' _ hmem' hstatus =>
      obtain ⟨-, rfl⟩ : j = i ∧ response' = response := by simpa using hmem'
      rw [houtcome, outcomeOf]
      split
      next hcreated => exact ⟨hstatus.1 hcreated, rfl⟩
      next hupdated => exact ⟨fun hold => hupdated (hstatus.2 hold), rfl⟩
    | failed hmem' => simp at hmem'
  | @rejected key payload' e trips hkey hpayload hreply he =>
    have hmem : Event.returned i (.error e) ∈
        [Event.recordedFailure i trips, .returned i (.error e),
          .called i (self.upsertCall key payload'), .checked i false] := by simp
    cases heffect with
    -- the row was answered with an error: it may have been written or not
    | unanswered hevents => cases hevents _ hmem
    | written hmem' => simp at hmem'
    | failed hmem' hnow => exact hnow
  | unbuilt =>
    cases heffect with
    | unanswered => exact .inl rfl
    | written hmem => simp at hmem
    | failed hmem => simp at hmem

/-- Only the step that finishes a request changes the world or brings a reply. -/
theorem world_of_step {stage : Stage} {inp : ι} {s s' : Shared ω}
    {pr : Progress Stage (Except PyException Outcome)}
    (h : self.Step logger upsert i row s stage inp pr s') :
    (s'.world = s.world ∧
      ∃ new, s'.trace = new ++ s.trace ∧ (∀ ev ∈ new, ev.id = i) ∧
        ∀ ev ∈ new, ev.isReply = false) ∨
    ∃ key payload reply, stage = .calling key payload ∧
      upsert i (self.upsertCall key payload) inp s.world = (reply, s'.world) ∧
      s'.trace = .returned i reply :: s.trace := by
  cases h with
  | skip => exact .inl ⟨rfl, [.checked i true], rfl, by simp [Event.id], by simp [Event.isReply]⟩
  | check => exact .inl ⟨rfl, [.checked i false], rfl, by simp [Event.id], by simp [Event.isReply]⟩
  | unreadable => exact .inl ⟨rfl, [], rfl, by simp, by simp⟩
  | unbuilt => exact .inl ⟨rfl, [], rfl, by simp, by simp⟩
  | call => exact .inl ⟨rfl, [.called i _], rfl, by simp [Event.id], by simp [Event.isReply]⟩
  -- the one step in which a call reaches the destination
  | answer hreply => exact .inr ⟨_, _, _, rfl, hreply, rfl⟩
  | succeed =>
    exact .inl ⟨rfl, [.recordedSuccess i], rfl, by simp [Event.id], by simp [Event.isReply]⟩
  | escape => exact .inl ⟨rfl, [], rfl, by simp, by simp⟩
  | unlogged => exact .inl ⟨rfl, [], rfl, by simp, by simp⟩
  | fail =>
    exact .inl ⟨rfl, [.recordedFailure i _], rfl, by simp [Event.id], by simp [Event.isReply]⟩

/-- A call starts at most one request for its own key and none for another. -/
theorem Returned.countP_isCallFor {outcome : Outcome}
    (h : self.Returned upsert i row outcome events) (key : String) :
    events.countP (Event.isCallFor key) ≤ 1 ∧
      (row.getattr self.dedupeKey ≠ .ok (.str key) →
        events.countP (Event.isCallFor key) = 0) := by
  have hvalue : ∀ {value}, row.getattr self.dedupeKey = .ok value →
      (if value = .str key then 1 else 0) ≤ 1 ∧
        (row.getattr self.dedupeKey ≠ .ok (.str key) → value ≠ .str key) := by
    intro value hkey
    refine ⟨?_, fun hne heq => hne (hkey.trans (congrArg Except.ok heq))⟩
    split <;> simp
  cases h with
  | skipped => exact ⟨Nat.zero_le 1, fun _ => rfl⟩
  -- a call for a row carries the key of the row
  | written hkey =>
    simpa [List.countP_cons, Event.isCallFor, upsertCall] using hvalue hkey
  | rejected hkey =>
    simpa [List.countP_cons, Event.isCallFor, upsertCall] using hvalue hkey
  | unbuilt => exact ⟨Nat.zero_le 1, fun _ => rfl⟩

end Generic

/-! ### The rows of a run and their requests -/

/-- The key that a row is written under and the record that its request describes. -/
def requestOf (runner : BaseODataSyncRunner) (row : NamedTuple) :
    Option (String × Record String JsonValue) :=
  match row.getattr runner.dedupeKey, runner.buildPayload row with
  | .ok (.str key), .ok payload =>
    match encodePayload payload with
    | .ok json => some (key, bodyRecord json)
    | .error _ => none
  | _, _ => none

/-- Every row can be sent, and no two rows have the same key. -/
structure Writable (runner : BaseODataSyncRunner) (records : List NamedTuple) : Prop where
  sendable : ∀ row ∈ records, runner.Sendable row
  distinct : (records.map fun row => row.getattr runner.dedupeKey).Nodup

/-- `upsert_record` on a destination where `fate i` is what becomes of the request of call `i`. -/
def upsertInto (self : BaseODataSyncRunner) (client : ODataClient) (token : String)
    (fate : ℕ → Fate) : Upsert Unit Destination :=
  client.upsertRecord (destinationSession
    (urlPrefix client.baseUrl self.entitySet self.alternateKeyField) token fate)

section Requests

variable {self : BaseODataSyncRunner} {records : List NamedTuple} {row : NamedTuple}
  {key : String} {payload : Payload} {json : List (String × JsonValue)}

/-- Everything that an upsert of a row can do. -/
theorem upserted_of_upsertInto (client : ODataClient) (token : String) (fate : ℕ → Fate) (i : ℕ)
    (hjson : encodePayload payload = .ok json) {world world' : Destination}
    {reply : Except PyException Response}
    (h : self.upsertInto client token fate i (self.upsertCall (.str key) payload) () world =
      (reply, world')) : Upserted key (bodyRecord json) world reply world' :=
  upserted_of_upsertRecord client token fate i (self.upsertCall (.str key) payload) world rfl hjson
    h

theorem requestOf_eq_some (hkey : row.getattr self.dedupeKey = .ok (.str key))
    (hpayload : self.buildPayload row = .ok payload) (hjson : encodePayload payload = .ok json) :
    self.requestOf row = some (key, bodyRecord json) := by
  simp only [requestOf, hkey, hpayload, hjson]

theorem getattr_of_requestOf {record : Record String JsonValue}
    (h : self.requestOf row = some (key, record)) :
    row.getattr self.dedupeKey = .ok (.str key) := by
  unfold requestOf at h
  split at h
  next hkey hpayload =>
    split at h
    next =>
      cases h
      exact hkey
    next => cases h
  next => cases h

/-- Rows with distinct keys are told apart by them. -/
theorem index_unique (hdistinct : (records.map fun row => row.getattr self.dedupeKey).Nodup)
    {i j : ℕ} {row row' : NamedTuple} (hi : records[i]? = some row) (hj : records[j]? = some row')
    (hkey : row.getattr self.dedupeKey = row'.getattr self.dedupeKey) : i = j := by
  have hlt : i < (records.map fun row => row.getattr self.dedupeKey).length := by
    rw [List.length_map]
    exact (List.getElem?_eq_some_iff.1 hi).1
  refine (List.getElem?_inj hlt hdistinct).1 ?_
  rw [List.getElem?_map, List.getElem?_map, hi, hj]
  exact congrArg some hkey

theorem Writable.index_unique (h : self.Writable records) {i j : ℕ} {row row' : NamedTuple}
    (hi : records[i]? = some row) (hj : records[j]? = some row')
    (hkey : row.getattr self.dedupeKey = row'.getattr self.dedupeKey) : i = j :=
  BaseODataSyncRunner.index_unique h.distinct hi hj hkey

end Requests

/-! ### The destination during a run -/

section Run

variable {self : BaseODataSyncRunner} {logger : Logger} {client : ODataClient} {token : String}
  {fate : ℕ → Fate} {records : List NamedTuple} {initial : Destination}

/-- What stands in the destination, told by the trace. -/
structure Tracks (runner : BaseODataSyncRunner) (initial : Destination)
    (p : SyncPool Destination) : Prop where
  effect : ∀ (i : ℕ) row key record, p.rows[i]? = some row →
    runner.requestOf row = some (key, record) →
    Effect record (initial key) (eventsOf i p.shared.trace) (p.shared.world key)
  frame : ∀ key, (∀ row ∈ p.rows, row.getattr runner.dedupeKey ≠ .ok (.str key)) →
    p.shared.world key = initial key

/-- The request of a call does to the destination what an upsert can do, and to the trace what
`Tracks` says of it. -/
theorem tracks_of_answer (hwritable : self.Writable records) {p : SyncPool Destination}
    (hrows : p.rows <+: records) (hp : self.Tracks initial p) {j : ℕ} {row : NamedTuple}
    {key : String} {record : Record String JsonValue} {reply : Except PyException Response}
    {world' : Destination} (hrow : p.rows[j]? = some row)
    (hrequest : self.requestOf row = some (key, record))
    (hunanswered : ∀ ev ∈ eventsOf j p.shared.trace, ev.isReply = false)
    (hupserted : Upserted key record p.shared.world reply world')
    {p' : SyncPool Destination} (hrows' : p'.rows = p.rows) (hworld' : p'.shared.world = world')
    (htrace : p'.shared.trace = .returned j reply :: p.shared.trace) :
    self.Tracks initial p' := by
  have hindex : ∀ {i : ℕ} {row}, p.rows[i]? = some row → records[i]? = some row := by
    intro i row hi
    obtain ⟨rest, hrest⟩ := hrows
    rw [← hrest, List.getElem?_append_left (List.getElem?_eq_some_iff.1 hi).1]
    exact hi
  have hevents : ∀ i, eventsOf i p'.shared.trace =
      if i = j then .returned j reply :: eventsOf i p.shared.trace
      else eventsOf i p.shared.trace := by
    intro i
    rw [htrace]
    exact eventsOf_append (List.forall_mem_singleton.2 rfl)
  refine ⟨?_, ?_⟩
  · intro i row' key' record' hi hrequest'
    rw [hrows'] at hi
    rw [hevents, hworld']
    split
    -- the row that was written: its record held what it held before the run
    next hij =>
      subst hij
      cases hrow.symm.trans hi
      cases hrequest.symm.trans hrequest'
      have hold : p.shared.world key = initial key :=
        (hp.effect i row key record hrow hrequest).eq_old hunanswered
      cases hupserted with
      | written hstatus =>
        rw [hold] at hstatus
        rw [patch_self, hold]
        exact .written List.mem_cons_self hstatus
      | failed he hworld =>
        refine .failed List.mem_cons_self ?_
        rcases hworld with rfl | rfl
        · exact .inl hold
        · exact .inr (by rw [patch_self, hold])
    -- another row has another key, which this request leaves alone
    next hij =>
      have hne : key' ≠ key := by
        rintro rfl
        refine hij (hwritable.index_unique (hindex hi) (hindex hrow) ?_)
        rw [getattr_of_requestOf hrequest, getattr_of_requestOf hrequest']
      rw [hupserted.frame hne]
      exact hp.effect i row' key' record' hi hrequest'
  · intro key' hkey'
    rw [hrows'] at hkey'
    have hne : key' ≠ key := by
      rintro rfl
      exact hkey' row (List.mem_of_getElem? hrow) (getattr_of_requestOf hrequest)
    rw [hworld', hupserted.frame hne]
    exact hp.frame key' hkey'

/-- A new call has left nothing behind, and no call before it was for its key. -/
theorem tracks_of_submit (hwritable : self.Writable records) {p : SyncPool Destination}
    {row : NamedTuple} (hrows : p.rows ++ [row] <+: records)
    (hids : ∀ ev ∈ p.shared.trace, ev.id < p.calls.length) (hp : self.Tracks initial p) :
    self.Tracks initial (p.submit row) := by
  obtain ⟨rest, hrest⟩ := hrows
  -- rows are submitted in the order of the records, under their own numbers
  have hindex : ∀ (j : ℕ) row', p.rows[j]? = some row' → records[j]? = some row' := by
    intro j row' hj
    rw [← hrest, List.append_assoc,
      List.getElem?_append_left (List.getElem?_eq_some_iff.1 hj).1, hj]
  have hrow : records[p.rows.length]? = some row := by
    rw [← hrest]
    simp
  refine ⟨?_, ?_⟩
  · intro i row' key record hi hrequest
    rw [Pool.rows_submit, List.getElem?_append] at hi
    split at hi
    next => exact hp.effect i row' key record hi hrequest
    next hlt =>
      obtain ⟨hi', rfl⟩ : i = p.rows.length ∧ row = row' := by
        rw [List.getElem?_singleton] at hi
        split at hi
        next hzero => exact ⟨by omega, Option.some.inj hi⟩
        next => cases hi
      -- the call has just been submitted, so nothing has happened in it
      have hnone : eventsOf i p.shared.trace = [] := by
        rw [eventsOf, List.filter_eq_nil_iff]
        intro ev hev hid
        have hev' := hids ev hev
        rw [beq_iff_eq.1 hid, hi', Pool.rows, List.length_map] at hev'
        exact hev'.false
      -- keys are distinct, so no call so far was for the new row's key
      have hworld : p.shared.world key = initial key := by
        apply hp.frame key
        intro row' hrow' hkey
        obtain ⟨j, hj⟩ := List.getElem?_of_mem hrow'
        have hjlt : j < p.rows.length := (List.getElem?_eq_some_iff.1 hj).1
        have heq : j = p.rows.length := hwritable.index_unique (hindex j row' hj) hrow
          (hkey.trans (getattr_of_requestOf hrequest).symm)
        omega
      change Effect record (initial key) (eventsOf i p.shared.trace) (p.shared.world key)
      rw [hnone, hworld]
      exact .unanswered (by simp)
  · intro key hkey
    refine hp.frame key fun row' hrow' => hkey row' ?_
    rw [Pool.rows_submit]
    exact List.mem_append_left _ hrow'

/-- A call whose request is under way has had no reply yet. -/
theorem History.not_isReply_of_calling {ι ω : Type} {upsert : Upsert ι ω} {i : ℕ}
    {row : NamedTuple} {value : PyValue} {payload : Payload} {events : List Event}
    (h : self.History logger upsert i row (.running (.calling value payload)) events) :
    (∀ ev ∈ events, ev.isReply = false) ∧ row.getattr self.dedupeKey = .ok value ∧
      self.buildPayload row = .ok payload := by
  cases h with
  | calling hkey hpayload =>
    refine ⟨fun ev hev => ?_, hkey, hpayload⟩
    rcases List.mem_cons.1 hev with rfl | hev
    · rfl
    · rw [List.mem_singleton.1 hev]
      rfl

theorem tracks_of_step (hwritable : self.Writable records) {W : ℕ} {p p' : SyncPool Destination}
    {m : ThreadPool.Label NamedTuple Unit} (hrows : p'.rows <+: records)
    (htraced : self.Traced logger (self.upsertInto client token fate) p)
    (hp : self.Tracks initial p)
    (h : Pool.Step W (self.upsertCallable logger (self.upsertInto client token fate)) p m p') :
    self.Tracks initial p' := by
  cases h with
  | submit row =>
    rw [Pool.rows_submit] at hrows
    exact tracks_of_submit hwritable hrows htraced.id_lt hp
  | @dequeue j row hcall hfree =>
    have hrows' : ∀ st, Pool.rows ⟨p.setState j row st, p.shared⟩ = p.rows :=
      fun _ => Pool.map_row_setState hcall
    exact ⟨fun i row' key record hi => hp.effect i row' key record (hrows' _ ▸ hi),
      fun key hkey => hp.frame key (hrows' _ ▸ hkey)⟩
  | @advance j inp row stage pr s' hcall hstep =>
    have hrows' : Pool.rows ⟨p.setState j row pr.toState, s'⟩ = p.rows :=
      Pool.map_row_setState hcall
    have hrow : p.rows[j]? = some row := by
      rw [Pool.rows, List.getElem?_map, hcall]
      rfl
    rw [hrows'] at hrows
    have hstep' : self.Step logger (self.upsertInto client token fate) j row p.shared stage inp pr
        s' := step_of_upsertStep hstep
    rcases world_of_step hstep' with
      ⟨hworld, new, htrace, hids, hreply⟩ | ⟨value, payload, reply, rfl, hupsert, htrace⟩
    -- no request was finished
    · refine ⟨?_, ?_⟩
      · intro i row' key record hi hrequest
        change Effect record (initial key) (eventsOf i s'.trace) (s'.world key)
        rw [hrows'] at hi
        have hold := hp.effect i row' key record hi hrequest
        rw [hworld, htrace, eventsOf_append hids]
        split
        next => exact hold.append hreply
        next => exact hold
      · intro key hkey
        change s'.world key = initial key
        rw [hworld]
        exact hp.frame key (hrows' ▸ hkey)
    -- call `j` finished its request, the first reply it gets
    · obtain ⟨key, payload', json, hkey, hpayload, hjson⟩ :=
        hwritable.sendable row (hrows.subset (List.mem_of_getElem? hrow))
      obtain ⟨hunanswered, hvalue, hbuilt⟩ :=
        (htraced.history j row _ hcall).not_isReply_of_calling
      obtain rfl : value = .str key := Except.ok.inj (hvalue.symm.trans hkey)
      obtain rfl : payload = payload' := Except.ok.inj (hbuilt.symm.trans hpayload)
      exact tracks_of_answer hwritable hrows hp hrow (requestOf_eq_some hkey hpayload hjson)
        hunanswered (upserted_of_upsertInto client token fate j hjson hupsert)
        hrows' rfl htrace

theorem tracks_of_syncReaches (hwritable : self.Writable records)
    {s : WriteLoop NamedTuple Stage (Shared Destination)}
    (h : self.SyncReaches logger (self.upsertInto client token fate) records initial s) :
    self.Tracks initial s.pool := by
  have hboth : self.Traced logger (self.upsertInto client token fate) s.pool ∧
      self.Tracks initial s.pool := by
    refine WriteLoop.pool_invariant
      (P := fun p => self.Traced logger (self.upsertInto client token fate) p ∧
        self.Tracks initial p) ?_ ?_ h
    · rintro p m p' hrows ⟨htraced, hp⟩ hstep
      exact ⟨traced_of_step htraced hstep, tracks_of_step hwritable hrows htraced hp hstep⟩
    · exact ⟨⟨by simp, by simp⟩, ⟨by simp [Pool.rows], fun _ _ => rfl⟩⟩
  exact hboth.2

/-- A call for a row that can be sent does not raise. -/
theorem not_raised_of_writable (hwritable : self.Writable records) (hlogs : self.Logs logger)
    {s : WriteLoop NamedTuple Stage (Shared Destination)}
    (h : self.SyncReaches logger (self.upsertInto client token fate) records initial s)
    (e : PyException) : ¬s.Raised e := by
  refine not_raised_of_replies hlogs (fun row hrow => ?_) h ?_ e
  · obtain ⟨key, payload, json, hkey, hpayload, -⟩ := hwritable.sendable row hrow
    exact ⟨_, payload, hkey, hpayload⟩
  · -- whatever becomes of a request for a row that can be sent, it fails as a transport failure
    rintro i row key' payload' inp world e hrow hkey' hpayload' - hreply
    obtain ⟨key, payload, json, hkey, hpayload, hjson⟩ :=
      hwritable.sendable row (List.mem_of_getElem? hrow)
    cases hkey.symm.trans hkey'
    cases hpayload.symm.trans hpayload'
    cases upserted_of_upsertInto client token fate i hjson (Prod.ext hreply rfl) with
    | failed hclass => exact hclass

/-- When `sync_records` returns, the outcome of each row tells what became of its record. -/
theorem settled_of_syncReaches (hwritable : self.Writable records)
    {s : WriteLoop NamedTuple Stage (Shared Destination)}
    (h : self.SyncReaches logger (self.upsertInto client token fate) records initial s)
    (hphase : s.phase = .exited none) {i : ℕ} {row : NamedTuple} (hrow : records[i]? = some row)
    {key : String} {record : Record String JsonValue}
    (hrequest : self.requestOf row = some (key, record)) :
    ∃ outcome, s.pool.results[i]? = some (some (.ok outcome)) ∧
      Settled record (initial key) (s.pool.shared.world key) outcome := by
  obtain ⟨outcome, events, hresult, rfl, hreturned⟩ := returned_of_syncReaches h hphase hrow
  rw [← (WriteLoop.inv_of_reachable h).rows_of_returned hphase] at hrow
  have heffect := (tracks_of_syncReaches hwritable h).effect i row _ _ hrow hrequest
  exact ⟨outcome, hresult, settled_of_returned hreturned heffect⟩

end Run

/-- When `sync_records` returns, at most one upsert was issued for each key. -/
theorem countP_isCallFor_le_one {ι ω : Type} {self : BaseODataSyncRunner} {logger : Logger}
    {upsert : Upsert ι ω} {records : List NamedTuple} {world : ω}
    {s : WriteLoop NamedTuple Stage (Shared ω)} (hwritable : self.Writable records)
    (h : self.SyncReaches logger upsert records world s) (hphase : s.phase = .exited none)
    (key : String) : s.pool.shared.trace.countP (Event.isCallFor key) ≤ 1 := by
  classical
  have hids : ∀ ev ∈ s.pool.shared.trace, Event.isCallFor key ev = true →
      ev.id ∈ Finset.range records.length :=
    fun ev hev _ => Finset.mem_range.2 (id_lt_of_returned h hphase hev)
  have hcall : ∀ i ∈ Finset.range records.length,
      (eventsOf i s.pool.shared.trace).countP (Event.isCallFor key) ≤
        if ∃ row, records[i]? = some row ∧ row.getattr self.dedupeKey = .ok (.str key) then 1
        else 0 := by
    intro i hi
    -- a call issues an upsert for its own key at most
    have hrow := List.getElem?_eq_getElem (Finset.mem_range.1 hi)
    obtain ⟨outcome, events, -, rfl, hreturned⟩ := returned_of_syncReaches h hphase hrow
    obtain ⟨hle, hzero⟩ := hreturned.countP_isCallFor key
    split
    next => exact hle
    next hother => exact (hzero fun hkey => hother ⟨_, hrow, hkey⟩).le
  calc s.pool.shared.trace.countP (Event.isCallFor key)
    _ ≤ ∑ i ∈ Finset.range records.length,
        if ∃ row, records[i]? = some row ∧ row.getattr self.dedupeKey = .ok (.str key) then 1
        else 0 := (countP_eq_sum hids).le.trans (Finset.sum_le_sum hcall)
    _ = ((Finset.range records.length).filter fun i =>
        ∃ row, records[i]? = some row ∧ row.getattr self.dedupeKey = .ok (.str key)).card :=
      (Finset.card_filter _ _).symm
    _ ≤ 1 := by
      apply Finset.card_le_one.2
      intro i hi j hj
      obtain ⟨-, row, hrow, hkey⟩ := Finset.mem_filter.1 hi
      obtain ⟨-, row', hrow', hkey'⟩ := Finset.mem_filter.1 hj
      exact hwritable.index_unique hrow hrow' (hkey.trans hkey'.symm)

/-- The records of an accepted feed have distinct keys. -/
theorem distinct_of_acceptedFeed [IdentifierTables] {runner : DataverseInventorySyncRunner}
    {frames : List DataFrame} {columns : List String} {records : DataFrame}
    (hfeed : AcceptedFeed runner frames columns records) :
    (records.itertuples.map fun row => row.getattr runner.odata.dedupeKey).Nodup := by
  refine (List.pairwise_map.2 ((List.pairwise_map.1 hfeed.nodup_keys).imp_of_mem ?_))
  intro row row' hrow hrow' hne heq
  -- equal keys would be equal keys of the dictionary, which keeps one row for each
  obtain ⟨key, hkey, hrowKey⟩ := hfeed.exists_key (hfeed.mem_feedRows hrow)
  obtain ⟨key', hkey', hrowKey'⟩ := hfeed.exists_key (hfeed.mem_feedRows hrow')
  have hsame : runner.odata.dedupeKey = runner.dedupeKey := rfl
  rw [hsame, hkey, hkey'] at heq
  cases heq
  exact hne (hrowKey.trans hrowKey'.symm)

/-- The records of an accepted feed are writable, if each can be serialised. -/
theorem writable_of_acceptedFeed [IdentifierTables] {runner : DataverseInventorySyncRunner}
    {frames : List DataFrame} {columns : List String} {records : DataFrame}
    (hfeed : AcceptedFeed runner frames columns records)
    (hjson : ∀ row ∈ records.itertuples, runner.odata.Serialisable row) :
    runner.odata.Writable records.itertuples where
  sendable row hrow := by
    obtain ⟨key, hkey, -⟩ := hfeed.exists_key (hfeed.mem_feedRows hrow)
    obtain ⟨payload, json, hpayload, hjson⟩ := hjson row hrow
    exact ⟨key, payload, json, hkey, hpayload, hjson⟩
  distinct := distinct_of_acceptedFeed hfeed

end BaseODataSyncRunner

/-- What a run over the rows of a feed did to the destination it found at `initial`. -/
structure RunEffect (runner : DataverseInventorySyncRunner) (rows records : List NamedTuple)
    (initial : Destination) (s : WriteLoop NamedTuple Stage (Shared Destination)) : Prop where
  returned : s.phase = .exited none
  /-- At most one upsert is issued for each key. -/
  once : ∀ key, s.pool.shared.trace.countP (Event.isCallFor key) ≤ 1
  /-- A key that the feed does not have is unchanged. -/
  unfed : ∀ key, .text key ∉ rows.map (rowKey runner.dedupeKey) →
    s.pool.shared.world key = initial key
  /-- What became of a key of the feed is told by the outcome of its last row: the fields of that
  row's payload are written over the record that was there, or the record is as it was. -/
  fed : ∀ key, .text key ∈ rows.map (rowKey runner.dedupeKey) → ∃ row payload json,
    ∃ (i : ℕ) (outcome : Outcome),
      Recency.IsLatest (rowKey runner.dedupeKey) rows row ∧
      rowKey runner.dedupeKey row = .text key ∧ runner.odata.buildPayload row = .ok payload ∧
      encodePayload payload = .ok json ∧ records[i]? = some row ∧
      s.pool.results[i]? = some (some (.ok outcome)) ∧
      Settled (bodyRecord json) (initial key) (s.pool.shared.world key) outcome
  /-- The outcomes are counted. -/
  counted : ∀ outcome, s.result outcome = s.pool.results.count (some (.ok outcome))

namespace BaseODataSyncRunner

/-- Every run over an accepted feed ends, and whatever fails on its way, the outcomes it counted say
what it did to the destination. -/
theorem runEffect_of_acceptedFeed [IdentifierTables] (runner : DataverseInventorySyncRunner)
    (hworkers : 1 ≤ runner.maxWorkers) (logger : Logger) (hlogs : runner.odata.Logs logger)
    (frames : List DataFrame) (columns : List String) (records : DataFrame)
    (hfeed : AcceptedFeed runner frames columns records)
    (hjson : ∀ row ∈ records.itertuples, runner.odata.Serialisable row) (client : ODataClient)
    (token : String) (fate : ℕ → Fate) (initial : Destination) :
    runner.odata.SyncTerminates logger (runner.odata.upsertInto client token fate)
        records.itertuples initial ∧
      ∀ s, runner.odata.SyncEnds logger (runner.odata.upsertInto client token fate)
          records.itertuples initial s →
        RunEffect runner (feedRows frames) records.itertuples initial s := by
  refine ⟨syncTerminates, fun s hends => ?_⟩
  have hwritable := writable_of_acceptedFeed hfeed hjson
  have hphase : s.phase = .exited none :=
    returned_of_syncEnds hworkers hends (not_raised_of_writable hwritable hlogs hends.1)
  have hinv := WriteLoop.inv_of_reachable hends.1
  refine ⟨hphase, countP_isCallFor_le_one hwritable hends.1 hphase, ?_, ?_,
    hinv.count_of_returned hphase⟩
  · intro key hunfed
    refine (tracks_of_syncReaches hwritable hends.1).frame key fun row hrow hkey => hunfed ?_
    -- a key that no row of the feed has is the key of no record
    have hmem : row ∈ feedRows frames := hfeed.mem_feedRows (hinv.mem_records row hrow)
    obtain ⟨text, htext, hrowKey⟩ := hfeed.exists_key hmem
    cases hkey.symm.trans htext
    exact List.mem_map.2 ⟨row, hmem, hrowKey⟩
  · intro key hfed
    -- the record sent for a key is the latest row of the feed with it
    obtain ⟨row, hlatest, hrowKey⟩ := Recency.exists_isLatest hfed
    have hrow : row ∈ records.itertuples := (hfeed.mem_records row).2 hlatest
    obtain ⟨text, htext, hrowKey'⟩ := hfeed.exists_key hlatest.mem
    cases hrowKey.symm.trans hrowKey'
    obtain ⟨payload, json, hpayload, hencode⟩ := hjson row hrow
    obtain ⟨i, hi⟩ := List.getElem?_of_mem hrow
    obtain ⟨outcome, hresult, hsettled⟩ := settled_of_syncReaches hwritable hends.1 hphase hi
      (requestOf_eq_some htext hpayload hencode)
    exact ⟨row, payload, json, i, outcome, hlatest, hrowKey, hpayload, hencode, hi, hresult,
      hsettled⟩

end BaseODataSyncRunner

/-- A feed in which the price of one record is corrected further down. -/
def correctedRows : List (String × PyValue × PyValue) :=
  [("SKU-1", .str "Bolt", .int 3), ("SKU-2", .str "Nut", .int 2), ("SKU-1", .str "Bolt", .int 4)]

/-- What `load_records` makes of it. -/
def latestRows : List (String × PyValue × PyValue) :=
  [("SKU-2", .str "Nut", .int 2), ("SKU-1", .str "Bolt", .int 4)]

/-- A destination that knows one of the two records, with a field that no payload has. -/
def stocked : Destination := fun key =>
  if key = "SKU-1" then some fun field => if field = "lagsol_bin" then some (.str "A7") else none
  else none

/-- The first request succeeds; the answer to the second is lost after it was applied. -/
def secondLost : ℕ → Fate
  | 0 => .accepted noContentStatus
  | _ => .lost ⟨⟨.readTimeout, "Read timed out."⟩, rfl⟩ true

theorem serialisable_latestRows :
    ∀ row ∈ @DataFrame.itertuples asciiTables (shippedFrame latestRows),
      (shippedRunner correctedRows).odata.Serialisable row := by
  intro row hrow
  rcases List.mem_pair.1 hrow with rfl | rfl
  · exact ⟨_, _, rfl, rfl⟩
  · exact ⟨_, _, rfl, rfl⟩

theorem BaseODataSyncRunner.runEffect_of_acceptedFeed_correctedRows :
    ∃ s, (shippedRunner correctedRows).odata.SyncEnds standardLogger
        ((shippedRunner correctedRows).odata.upsertInto dataverseClient "token" secondLost)
        (@DataFrame.itertuples asciiTables (shippedFrame latestRows)) stocked s ∧
      RunEffect (shippedRunner correctedRows)
        (@feedRows asciiTables [shippedFrame correctedRows])
        (@DataFrame.itertuples asciiTables (shippedFrame latestRows)) stocked s := by
  obtain ⟨s, hends⟩ := exists_syncEnds (shippedRunner correctedRows).odata standardLogger
    ((shippedRunner correctedRows).odata.upsertInto dataverseClient "token" secondLost)
    (@DataFrame.itertuples asciiTables (shippedFrame latestRows)) stocked
  exact ⟨s, hends, (@runEffect_of_acceptedFeed asciiTables (shippedRunner correctedRows)
    (by decide) standardLogger (logs_of_dedupeKey standardLogger (by decide))
    [shippedFrame correctedRows] _ (shippedFrame latestRows) (acceptedFeed_shipped rfl)
    serialisable_latestRows dataverseClient "token" secondLost stocked).2 s hends⟩

end Sync
