import InventorySync.Sync.Rerun
import InventorySync.Sync.Run

/-!
# Runs, reply by reply

Only the step that finishes a request changes the world of a run, and it puts the reply into the
trace. So a property of the trace and the world together holds in every state of a run as soon as
each reply keeps it (`invariant_of_replies`).

A client commits to a table of payloads if each of its calls writes the table in part, and a call
that returns has written the record of its row (`Commits`). Over such a client every run writes the
table in part, and the records of the rows that were answered stand as the table has them
(`kept_of_commits`). If `sync_records` returns with no row failed, the whole table is written
(`world_of_commits`). No step of a run asks for more than this of its client.
-/

open Python Pandas Ingest Transport ThreadPool PatchStore

namespace Sync

/-- Where every `a` of one list stands over a `b` of another, there are no more of them. -/
theorem count_le_count {α β : Type} [BEq α] [LawfulBEq α] [BEq β] [LawfulBEq β] {a : α} {b : β}
    {l : List α} {m : List β} (h : ∀ i : ℕ, l[i]? = some a → m[i]? = some b) :
    l.count a ≤ m.count b := by
  induction l generalizing m with
  | nil => exact Nat.zero_le _
  | cons x l ih =>
    have hrest : l.count a ≤ m.tail.count b := by
      refine ih fun i hi => ?_
      rw [List.getElem?_tail]
      exact h (i + 1) hi
    by_cases hx : x = a
    · obtain ⟨m', rfl⟩ : ∃ m', m = b :: m' := by
        have hhead := h 0 (by simp [hx])
        cases m with
        | nil => cases hhead
        | cons y m' => exact ⟨m', by rw [← Option.some.inj hhead]⟩
      rw [hx, List.count_cons_self, List.count_cons_self]
      exact Nat.add_le_add_right hrest 1
    · rw [List.count_cons_of_ne hx]
      exact hrest.trans (m.tail_sublist.count_le b)

namespace BaseODataSyncRunner

section Invariant

variable {ι ω : Type} {self : BaseODataSyncRunner} {logger : Logger} {upsert : Upsert ι ω}
  {records : List NamedTuple} {world : ω} {s : WriteLoop NamedTuple Stage (Shared ω)}
  {P : List Event → ω → Prop}

/-- What a property of the trace and the world has to survive: events that are no replies, and the
reply to a call for one of the records. -/
structure KeptByReplies (runner : BaseODataSyncRunner) (upsert : Upsert ι ω)
    (records : List NamedTuple) (P : List Event → ω → Prop) : Prop where
  quiet : ∀ new trace w, (∀ ev ∈ new, ev.isReply = false) → P trace w → P (new ++ trace) w
  reply : ∀ (i : ℕ) row key payload inp trace w, records[i]? = some row →
    row.getattr runner.dedupeKey = .ok key → runner.buildPayload row = .ok payload →
    (∀ ev ∈ eventsOf i trace, ev.isReply = false) → P trace w →
    P (.returned i (upsert i (runner.upsertCall key payload) inp w).1 :: trace)
      (upsert i (runner.upsertCall key payload) inp w).2

theorem KeptByReplies.of_step (hP : self.KeptByReplies upsert records P) {W : ℕ}
    {p p' : SyncPool ω} {m : ThreadPool.Label NamedTuple ι} (hrows : p'.rows <+: records)
    (htraced : self.Traced logger upsert p) (hp : P p.shared.trace p.shared.world)
    (h : Pool.Step W (self.upsertCallable logger upsert) p m p') :
    P p'.shared.trace p'.shared.world := by
  cases h with
  | submit row => exact hp
  | dequeue hcall hfree => exact hp
  | @advance j inp row stage pr s' hcall hstep =>
    have hrows' : Pool.rows ⟨p.setState j row pr.toState, s'⟩ = p.rows :=
      Pool.map_row_setState hcall
    have hstep' : self.Step logger upsert j row p.shared stage inp pr s' := step_of_upsertStep hstep
    rcases world_of_step hstep' with
      ⟨hworld, new, htrace, -, hnew⟩ | ⟨key, payload, reply, rfl, hupsert, htrace⟩
    · change P s'.trace s'.world
      rw [htrace, hworld]
      exact hP.quiet new _ _ hnew hp
    · -- the call has had no reply before this one
      obtain ⟨hunanswered, hkey, hpayload⟩ := (htraced.history j row _ hcall).not_isReply_of_calling
      have hrow : records[j]? = some row := by
        have hold : p.rows[j]? = some row := by
          rw [Pool.rows, List.getElem?_map, hcall]
          rfl
        obtain ⟨rest, hrest⟩ := hrows
        rw [← hrest, hrows', List.getElem?_append_left (List.getElem?_eq_some_iff.1 hold).1]
        exact hold
      have hkept := hP.reply j row key payload inp _ _ hrow hkey hpayload hunanswered hp
      rw [hupsert] at hkept
      change P s'.trace s'.world
      rwa [htrace]

/-- Invariant rule for the trace and the world of a run. -/
theorem invariant_of_replies (hP : self.KeptByReplies upsert records P) (hstart : P [] world)
    (h : self.SyncReaches logger upsert records world s) :
    P s.pool.shared.trace s.pool.shared.world := by
  have hboth : self.Traced logger upsert s.pool ∧ P s.pool.shared.trace s.pool.shared.world := by
    refine WriteLoop.pool_invariant
      (P := fun p => self.Traced logger upsert p ∧ P p.shared.trace p.shared.world) ?_ ?_ h
    · rintro p m p' hrows ⟨htraced, hp⟩ hstep
      exact ⟨traced_of_step htraced hstep, hP.of_step hrows htraced hp hstep⟩
    · exact ⟨⟨by simp, by simp⟩, hstart⟩
  exact hboth.2

end Invariant

/-! ### Clients that commit to a table -/

/-- Each call writes the table of the records in part, and one that returns has written the record
of its row. The destination may be only a part of the world, under the view `store`. -/
structure Commits {ι ω : Type} (runner : BaseODataSyncRunner) (store : ω → Destination)
    (upsert : Upsert ι ω) (records : List NamedTuple) : Prop where
  partly : ∀ (i : ℕ) row key payload inp w, records[i]? = some row →
    row.getattr runner.dedupeKey = .ok key → runner.buildPayload row = .ok payload →
    Partly (runner.payloads records) (store w)
      (store (upsert i (runner.upsertCall key payload) inp w).2)
  written : ∀ (i : ℕ) row key payload inp w response, records[i]? = some row →
    row.getattr runner.dedupeKey = .ok key → runner.buildPayload row = .ok payload →
    (upsert i (runner.upsertCall key payload) inp w).1 = .ok response →
    ∃ text record, runner.requestOf row = some (text, record) ∧
      store (upsert i (runner.upsertCall key payload) inp w).2 text =
        writeAll (runner.payloads records) (store w) text

/-- What a run over such a client keeps: the table is written in part, and the records of the rows
that were answered stand as the table has them. -/
structure Kept (runner : BaseODataSyncRunner) (records : List NamedTuple) (initial : Destination)
    (trace : List Event) (w : Destination) : Prop where
  partly : Partly (runner.payloads records) initial w
  answered : ∀ (i : ℕ) row text record response, records[i]? = some row →
    runner.requestOf row = some (text, record) → Event.returned i (.ok response) ∈ trace →
    w text = writeAll (runner.payloads records) initial text

section Commits

variable {ι ω : Type} {self : BaseODataSyncRunner} {logger : Logger} {store : ω → Destination}
  {upsert : Upsert ι ω} {records : List NamedTuple} {world : ω} {initial w w' : Destination}
  {trace : List Event} {s : WriteLoop NamedTuple Stage (Shared ω)}

theorem kept_start : self.Kept records initial [] initial := ⟨.refl _ initial, by simp⟩

/-- What is kept does not depend on events that are no replies, and it stands when the table is
written in part again. -/
theorem Kept.mono (h : self.Kept records initial trace w)
    (hw : Partly (self.payloads records) w w') (new : List Event)
    (hnew : ∀ ev ∈ new, ev.isReply = false) : self.Kept records initial (new ++ trace) w' := by
  refine ⟨h.partly.trans hw, ?_⟩
  intro i row text record response hrow hrequest hmem
  rcases List.mem_append.1 hmem with hmem | hmem
  · cases hnew _ hmem
  · exact hw.stands (h.answered i row text record response hrow hrequest hmem)

/-- A call of a client that commits keeps it. -/
theorem Commits.kept (hcommits : self.Commits store upsert records)
    (h : self.Kept records initial trace (store world)) {i : ℕ} {row : NamedTuple} {key : PyValue}
    {payload : Payload} (inp : ι) (hrow : records[i]? = some row)
    (hkey : row.getattr self.dedupeKey = .ok key) (hpayload : self.buildPayload row = .ok payload) :
    self.Kept records initial
      (.returned i (upsert i (self.upsertCall key payload) inp world).1 :: trace)
      (store (upsert i (self.upsertCall key payload) inp world).2) := by
  have hpartly := hcommits.partly i row key payload inp world hrow hkey hpayload
  refine ⟨h.partly.trans hpartly, ?_⟩
  intro j row' text record response hrow' hrequest hmem
  rcases List.mem_cons.1 hmem with heq | hmem
  · -- the call that was just answered
    obtain ⟨rfl, hresponse⟩ : j = i ∧ Except.ok response = _ := by simpa using heq
    cases hrow.symm.trans hrow'
    obtain ⟨text', record', hrequest', hwritten⟩ := hcommits.written j row key payload inp world
      response hrow hkey hpayload hresponse.symm
    cases hrequest.symm.trans hrequest'
    rw [hwritten, writeAll_of_partly h.partly]
  · exact hpartly.stands (h.answered j row' text record response hrow' hrequest hmem)

theorem kept_of_commits (hcommits : self.Commits store upsert records)
    (h : self.SyncReaches logger upsert records world s) :
    self.Kept records (store world) s.pool.shared.trace (store s.pool.shared.world) := by
  refine invariant_of_replies (P := fun trace w => self.Kept records (store world) trace (store w))
    ⟨?_, ?_⟩ kept_start h
  · intro new trace w hnew hkept
    exact hkept.mono (.refl _ (store w)) _ hnew
  · intro i row key payload inp trace w hrow hkey hpayload _ hkept
    exact hcommits.kept hkept inp hrow hkey hpayload

/-- Every record of the table is that of a row. -/
theorem exists_of_payloads {key : String} {record : Record String JsonValue}
    (h : self.payloads records key = some record) :
    ∃ row ∈ records, self.requestOf row = some (key, record) := by
  obtain ⟨before, after, hsplit, -⟩ := List.lookup_eq_some_iff.1 h
  exact List.mem_filterMap.1 (hsplit ▸ by simp)

/-- If the rows have distinct keys, the record of every row is in the table. -/
theorem payloads_of_distinct (hdistinct : (records.map fun row => row.getattr self.dedupeKey).Nodup)
    {row : NamedTuple} (hrow : row ∈ records) {key : String} {record : Record String JsonValue}
    (hrequest : self.requestOf row = some (key, record)) :
    self.payloads records key = some record := by
  cases hlookup : self.payloads records key with
  | none =>
    have hentry : (key, record) ∈ records.filterMap self.requestOf :=
      List.mem_filterMap.2 ⟨row, hrow, hrequest⟩
    exact absurd (beq_self_eq_true key) (by simpa using List.lookup_eq_none_iff.1 hlookup _ hentry)
  | some record' =>
    obtain ⟨row', hrow', hrequest'⟩ := exists_of_payloads hlookup
    have hsame : row = row' := List.inj_on_of_nodup_map hdistinct hrow hrow'
      ((getattr_of_requestOf hrequest).trans (getattr_of_requestOf hrequest').symm)
    subst hsame
    cases hrequest.symm.trans hrequest'
    rfl

/-- When every row was answered with a response, the table is written. -/
theorem Kept.eq_writeAll (h : self.Kept records initial trace w)
    (hall : ∀ (i : ℕ) row, records[i]? = some row →
      ∃ response, Event.returned i (.ok response) ∈ trace) :
    w = writeAll (self.payloads records) initial := by
  ext key : 1
  cases htable : self.payloads records key with
  | none =>
    rcases h.partly key with hkept | hwritten
    · rw [hkept, writeAll_of_none htable]
    · exact hwritten
  | some record =>
    obtain ⟨row, hrow, hrequest⟩ := exists_of_payloads htable
    obtain ⟨i, hi⟩ := List.getElem?_of_mem hrow
    obtain ⟨response, hresponse⟩ := hall i row hi
    exact h.answered i row key record response hi hrequest hresponse

/-- When `sync_records` returns with no row failed, the table is written. -/
theorem world_of_commits (hcommits : self.Commits store upsert records)
    (h : self.SyncReaches logger upsert records world s) (hphase : s.phase = .exited none)
    (hfailed : s.result .failed = 0) :
    store s.pool.shared.world = writeAll (self.payloads records) (store world) := by
  refine (kept_of_commits hcommits h).eq_writeAll fun i row hrow => ?_
  obtain ⟨-, response, -, hresponse⟩ := (failed_eq_zero_iff h hphase).1 hfailed i row hrow
  exact ⟨response, hresponse⟩

end Commits

section Requests

variable {ι ω : Type} {self : BaseODataSyncRunner} {store : ω → Destination} {upsert : Upsert ι ω}
  {records : List NamedTuple}

/-- Each call is one request for the record of its row, or it is refused before there is any. -/
structure Requests (runner : BaseODataSyncRunner) (store : ω → Destination) (upsert : Upsert ι ω)
    (records : List NamedTuple) : Prop where
  call : ∀ (i : ℕ) row key payload inp w, records[i]? = some row →
    row.getattr runner.dedupeKey = .ok key → runner.buildPayload row = .ok payload →
    (∃ text record, runner.requestOf row = some (text, record) ∧
      AtMostOnce text record (store w) (upsert i (runner.upsertCall key payload) inp w).1
        (store (upsert i (runner.upsertCall key payload) inp w).2)) ∨
      ∃ e, upsert i (runner.upsertCall key payload) inp w = (.error e, w)

/-- A client that writes each record at most once commits to the table of rows with distinct keys. A
row that cannot be sent does not matter: its call does nothing and does not return. -/
theorem Requests.commits (hrequests : self.Requests store upsert records)
    (hdistinct : (records.map fun row => row.getattr self.dedupeKey).Nodup) :
    self.Commits store upsert records := by
  constructor
  · intro i row key payload inp w hrow hkey hpayload
    rcases hrequests.call i row key payload inp w hrow hkey hpayload with
      ⟨text, record, hrequest, honce⟩ | ⟨e, heq⟩
    · exact honce.partly (payloads_of_distinct hdistinct (List.mem_of_getElem? hrow) hrequest)
    · rw [heq]
      exact .refl _ (store w)
  · intro i row key payload inp w response hrow hkey hpayload hresponse
    rcases hrequests.call i row key payload inp w hrow hkey hpayload with
      ⟨text, record, hrequest, honce⟩ | ⟨e, heq⟩
    · rw [hresponse] at honce
      exact ⟨text, record, hrequest, honce.written_of_ok
        (payloads_of_distinct hdistinct (List.mem_of_getElem? hrow) hrequest)⟩
    · rw [heq] at hresponse
      cases hresponse

/-- With a token at hand, a call of `upsert_record` is a request, unless it is refused because its
key is no text or its payload no JSON. -/
theorem request_or_refused (client : ODataClient) (session : Session ι ω) {token : String}
    (htoken : ∀ inp w, session.acquireBearerToken inp w = (.ok token, w)) (i : ℕ)
    {row : NamedTuple} {key : PyValue} {payload : Payload} (inp : ι) (w : ω)
    (hkey : row.getattr self.dedupeKey = .ok key) (hpayload : self.buildPayload row = .ok payload) :
    (∃ text json, key = .str text ∧ encodePayload payload = .ok json ∧
        self.requestOf row = some (text, bodyRecord json)) ∨
      ∃ e, client.upsertRecord session i (self.upsertCall key payload) inp w = (.error e, w) := by
  cases hurl : buildEntityUrl client.baseUrl self.entitySet self.alternateKeyField key with
  | error e =>
    refine .inr ⟨e, ?_⟩
    simp only [ODataClient.upsertRecord, upsertCall, hurl]
  | ok url =>
    obtain ⟨text, rfl, -⟩ := buildEntityUrl_eq_ok.1 hurl
    cases hjson : encodePayload payload with
    | error e =>
      exact .inr ⟨e, ODataClient.upsertRecord_of_encodePayload_error hurl (htoken inp w) hjson⟩
    | ok json => exact .inl ⟨text, json, rfl, rfl, requestOf_eq_some hkey hpayload hjson⟩

/-- Whatever becomes of them, the calls of `upsert_record` are requests. -/
theorem requests_upsertInto (client : ODataClient) (token : String) (fate : ℕ → Fate) :
    self.Requests id (self.upsertInto client token fate) records where
  call i row key payload inp w _ hkey hpayload := by
    rcases request_or_refused client (destinationSession
      (urlPrefix client.baseUrl self.entitySet self.alternateKeyField) token fate)
      (fun _ _ => rfl) i inp w hkey hpayload with ⟨text, json, rfl, hjson, hrequest⟩ | hrefused
    · exact .inl ⟨text, bodyRecord json, hrequest,
        (upserted_of_upsertInto client token fate i hjson rfl).atMostOnce⟩
    · exact .inr hrefused

end Requests

end BaseODataSyncRunner

end Sync
