import InventorySync.Sync.ExitCode
import InventorySync.Transport.Wire

/-!
# A run over the wire

The service on top of the client's re-sends: every request may be sent up to four times, each send
may be applied or not, and each answer may be lost.

* `requests_upsertOver`: the calls of `upsert_record` still write each record at most once;
* `resends_keep_exit_code`: so the exit code tells the destination as if there were no re-sends, and
  failures that pass within three re-sends do not change it;
* `created_were_absent`: what the re-sends do change is which rows count as created.
-/

open Python Pandas Ingest Transport ThreadPool PatchStore

namespace Sync

namespace BaseODataSyncRunner

/-- `upsert_record` where `sending i n` is what becomes of send `n` of the request of call `i`. -/
def upsertOver (self : BaseODataSyncRunner) (client : ODataClient) (adapter : StatusAdapter Wire)
    (token : String) (sending : ℕ → ℕ → Sending) : Upsert Unit Wire :=
  client.upsertRecord (wireSession adapter
    (urlPrefix client.baseUrl self.entitySet self.alternateKeyField) token sending)

/-! ### The calls of a run -/

section Calls

variable {self : BaseODataSyncRunner} {records : List NamedTuple} {client : ODataClient}
  {adapter : StatusAdapter Wire} {token : String} {sending : ℕ → ℕ → Sending}

/-- Everything that an upsert of a row can do. -/
theorem atMostOnce_of_upsertOver (i : ℕ) {key : String} {payload : Payload}
    {json : List (String × JsonValue)} (hjson : encodePayload payload = .ok json) {w w' : Wire}
    {reply : Except PyException Response}
    (h : self.upsertOver client adapter token sending i (self.upsertCall (.str key) payload) () w =
      (reply, w')) :
    AtMostOnce key (bodyRecord json) w.destination reply w'.destination ∧
      w'.sends ≤ w.sends + 4 ∧
      ∀ response, reply = .ok response → response.statusCode ≠ 201 →
        w.destination key = none → ∃ n < 3, (sending i n).isUnreported = true :=
  atMostOnce_of_upsertRecord client adapter token sending i (self.upsertCall (.str key) payload) w
    rfl hjson h

theorem requests_upsertOver :
    self.Requests Wire.destination (self.upsertOver client adapter token sending) records where
  call i row key payload inp w _ hkey hpayload := by
    rcases request_or_refused client (wireSession adapter
      (urlPrefix client.baseUrl self.entitySet self.alternateKeyField) token sending)
      (fun _ _ => rfl) i inp w hkey hpayload with ⟨text, json, rfl, hjson, hrequest⟩ | hrefused
    · exact .inl ⟨text, bodyRecord json, hrequest, (atMostOnce_of_upsertOver i hjson rfl).1⟩
    · exact .inr hrefused

/-- No call sends more than four times. -/
theorem sends_upsertOver (i : ℕ) {row : NamedTuple} {key : PyValue} {payload : Payload} (inp : Unit)
    (w : Wire) (hkey : row.getattr self.dedupeKey = .ok key)
    (hpayload : self.buildPayload row = .ok payload) :
    (self.upsertOver client adapter token sending i (self.upsertCall key payload) inp w).2.sends ≤
      w.sends + 4 := by
  rcases request_or_refused client (wireSession adapter
    (urlPrefix client.baseUrl self.entitySet self.alternateKeyField) token sending)
    (fun _ _ => rfl) i inp w hkey hpayload with ⟨text, json, rfl, hjson, -⟩ | ⟨e, hrefused⟩
  · exact (atMostOnce_of_upsertOver i hjson rfl).2.1
  · rw [upsertOver, hrefused]
    exact Nat.le_add_right ..

theorem alwaysAnswers_of_recovers (hwritable : self.Writable records)
    (hrecovers : ∀ i, Recovers (sending i)) :
    self.AlwaysAnswers (self.upsertOver client adapter token sending) records := by
  intro i row hrow
  obtain ⟨key, payload, json, hkey, hpayload, hjson⟩ := hwritable.sendable row hrow
  exact ⟨.str key, payload, hkey, hpayload, fun _ w =>
    exists_response_of_upsertRecord client adapter token sending i
      (self.upsertCall (.str key) payload) w rfl hjson (hrecovers i)⟩

end Calls

/-! ### Sends of a run -/

/-- The calls that were answered. -/
def answeredIds (trace : List Event) : List ℕ :=
  trace.filterMap fun
    | .returned i _ => some i
    | _ => none

theorem mem_answeredIds {i : ℕ} {trace : List Event} :
    i ∈ answeredIds trace ↔ ∃ reply, Event.returned i reply ∈ trace := by
  rw [answeredIds, List.mem_filterMap]
  constructor
  · rintro ⟨ev, hev, heq⟩
    cases ev with
    | returned j reply =>
      cases heq
      exact ⟨reply, hev⟩
    | _ => cases heq
  · rintro ⟨reply, hmem⟩
    exact ⟨_, hmem, rfl⟩

theorem answeredIds_append {new trace : List Event} (hnew : ∀ ev ∈ new, ev.isReply = false) :
    answeredIds (new ++ trace) = answeredIds trace := by
  have hnone : answeredIds new = [] := by
    rw [List.eq_nil_iff_forall_not_mem]
    intro i hi
    obtain ⟨reply, hmem⟩ := mem_answeredIds.1 hi
    cases hnew _ hmem
  rw [answeredIds, List.filterMap_append]
  exact congrArg (· ++ answeredIds trace) hnone

/-- How often a run has sent: at most four times for each call that was answered, and each call is
answered once. -/
structure SendsBounded (records : List NamedTuple) (initial : Wire) (trace : List Event)
    (w : Wire) : Prop where
  nodup : (answeredIds trace).Nodup
  lt : ∀ i ∈ answeredIds trace, i < records.length
  sends : w.sends ≤ initial.sends + 4 * (answeredIds trace).length

section Sends

variable {self : BaseODataSyncRunner} {logger : Logger} {records : List NamedTuple}
  {client : ODataClient} {adapter : StatusAdapter Wire} {token : String}
  {sending : ℕ → ℕ → Sending} {initial : Wire}
  {s : WriteLoop NamedTuple Stage (Shared Wire)}

theorem sendsBounded_of_syncReaches
    (h : self.SyncReaches logger (self.upsertOver client adapter token sending) records initial s) :
    SendsBounded records initial s.pool.shared.trace s.pool.shared.world := by
  refine invariant_of_replies (P := SendsBounded records initial) ⟨?_, ?_⟩
    ⟨List.nodup_nil, by simp [answeredIds], by simp⟩ h
  · intro new trace w hnew hw
    obtain ⟨hnodup, hlt, hsends⟩ := hw
    rw [← answeredIds_append hnew] at hnodup hlt hsends
    exact ⟨hnodup, hlt, hsends⟩
  · intro i row key payload inp trace w hrow hkey hpayload hunanswered hw
    have hids : ∀ reply, answeredIds (.returned i reply :: trace) = i :: answeredIds trace :=
      fun _ => rfl
    refine ⟨?_, ?_, ?_⟩
    · rw [hids, List.nodup_cons]
      refine ⟨fun hmem => ?_, hw.nodup⟩
      obtain ⟨reply, hreply⟩ := mem_answeredIds.1 hmem
      cases hunanswered _ (mem_eventsOf.2 ⟨hreply, rfl⟩)
    · rw [hids]
      intro j hj
      rcases List.mem_cons.1 hj with rfl | hj
      · exact (List.getElem?_eq_some_iff.1 hrow).1
      · exact hw.lt j hj
    · have hsends := hw.sends
      have hcall := @sends_upsertOver self client adapter token sending i row key payload inp w hkey
        hpayload
      rw [hids, List.length_cons]
      omega

/-- A run sends at most four times for each of its rows. -/
theorem sends_of_syncReaches
    (h : self.SyncReaches logger (self.upsertOver client adapter token sending) records initial s) :
    s.pool.shared.world.sends ≤ initial.sends + 4 * records.length := by
  obtain ⟨hnodup, hlt, hsends⟩ := sendsBounded_of_syncReaches h
  have hle : (answeredIds s.pool.shared.trace).length ≤ records.length := by
    have hsub : answeredIds s.pool.shared.trace ⊆ List.range records.length :=
      fun i hi => List.mem_range.2 (hlt i hi)
    simpa using (hnodup.subperm hsub).length_le
  omega

end Sends

/-! ### What a call finds -/

/-- A call that was answered found the record of its row as it was at the start, since only that
call ever touches it. -/
structure FoundUntouched {ι ω : Type} (runner : BaseODataSyncRunner) (store : ω → Destination)
    (upsert : Upsert ι ω) (records : List NamedTuple) (initial : Destination) (trace : List Event)
    (w : ω) : Prop where
  untouched : ∀ (i : ℕ) row text record, records[i]? = some row →
    runner.requestOf row = some (text, record) → i ∉ answeredIds trace →
    store w text = initial text
  found : ∀ (i : ℕ) row text record reply, records[i]? = some row →
    runner.requestOf row = some (text, record) → Event.returned i reply ∈ trace →
    ∃ key payload inp w', row.getattr runner.dedupeKey = .ok key ∧
      runner.buildPayload row = .ok payload ∧ store w' text = initial text ∧
      (upsert i (runner.upsertCall key payload) inp w').1 = reply

theorem foundUntouched_of_syncReaches {ι ω : Type} {self : BaseODataSyncRunner} {logger : Logger}
    {store : ω → Destination} {upsert : Upsert ι ω} {records : List NamedTuple} {world : ω}
    {s : WriteLoop NamedTuple Stage (Shared ω)} (hrequests : self.Requests store upsert records)
    (hdistinct : (records.map fun row => row.getattr self.dedupeKey).Nodup)
    (h : self.SyncReaches logger upsert records world s) :
    self.FoundUntouched store upsert records (store world) s.pool.shared.trace
      s.pool.shared.world := by
  refine invariant_of_replies
    (P := fun trace w => self.FoundUntouched store upsert records (store world) trace w) ⟨?_, ?_⟩
    ⟨fun _ _ _ _ _ _ _ => rfl, by simp⟩ h
  · intro new trace w hnew hw
    refine ⟨?_, ?_⟩
    · intro i row text record hrow hrequest hunanswered
      rw [answeredIds_append hnew] at hunanswered
      exact hw.untouched i row text record hrow hrequest hunanswered
    · intro i row text record reply hrow hrequest hmem
      rcases List.mem_append.1 hmem with hmem | hmem
      · cases hnew _ hmem
      · exact hw.found i row text record reply hrow hrequest hmem
  · intro i row key payload inp trace w hrow hkey hpayload hunanswered hw
    have hnot : i ∉ answeredIds trace := by
      intro hmem
      obtain ⟨reply, hreply⟩ := mem_answeredIds.1 hmem
      cases hunanswered _ (mem_eventsOf.2 ⟨hreply, rfl⟩)
    refine ⟨?_, ?_⟩
    · -- the call writes under the key of its own row only
      intro j row' text record hrow' hrequest hunanswered'
      have hne : j ≠ i := fun heq => hunanswered' (heq ▸ List.mem_cons_self)
      have hold := hw.untouched j row' text record hrow' hrequest
        fun hmem => hunanswered' (List.mem_cons_of_mem i hmem)
      rcases hrequests.call i row key payload inp w hrow hkey hpayload with
        ⟨text', record', hrequest', honce⟩ | ⟨e, hrefused⟩
      · have htext : text ≠ text' := by
          rintro rfl
          exact hne (index_unique hdistinct hrow' hrow ((getattr_of_requestOf hrequest).trans
            (getattr_of_requestOf hrequest').symm))
        rw [honce.frame htext]
        exact hold
      · rw [hrefused]
        exact hold
    · intro j row' text record reply hrow' hrequest hmem
      rcases List.mem_cons.1 hmem with heq | hmem
      · obtain ⟨rfl, rfl⟩ := Event.returned.inj heq
        cases hrow.symm.trans hrow'
        exact ⟨key, payload, inp, w, hkey, hpayload,
          hw.untouched j row text record hrow hrequest hnot, rfl⟩
      · exact hw.found j row' text record reply hrow' hrequest hmem

/-! ### What counts as created -/

/-- The destination holds no record for a row. -/
def isAbsent (runner : BaseODataSyncRunner) (initial : Destination) (row : NamedTuple) : Bool :=
  match runner.requestOf row with
  | none => false
  | some (text, _) => (initial text).isNone

section Created

variable {self : BaseODataSyncRunner} {logger : Logger} {records : List NamedTuple}
  {client : ODataClient} {adapter : StatusAdapter Wire} {token : String}
  {sending : ℕ → ℕ → Sending} {initial : Wire}
  {s : WriteLoop NamedTuple Stage (Shared Wire)}

/-- A row that counts as created was absent. One that counts as updated was not, unless one of the
sends of its request was applied without the client being told. -/
theorem absent_of_outcome
    (hdistinct : (records.map fun row => row.getattr self.dedupeKey).Nodup)
    (h : self.SyncReaches logger (self.upsertOver client adapter token sending) records initial s)
    (hphase : s.phase = .exited none) {i : ℕ} {row : NamedTuple} {outcome : Outcome}
    (hrow : records[i]? = some row) (hresult : s.pool.results[i]? = some (some (.ok outcome))) :
    (outcome = .created → self.isAbsent initial.destination row = true) ∧
      (outcome = .updated → self.isAbsent initial.destination row = true →
        ∃ n < 3, (sending i n).isUnreported = true) := by
  obtain ⟨outcome', events, hresult', hevents, hreturned⟩ := returned_of_syncReaches h hphase hrow
  cases hresult.symm.trans hresult'
  cases hreturned with
  | skipped => exact ⟨by simp, by simp⟩
  | rejected => exact ⟨by simp, by simp⟩
  | unbuilt => exact ⟨by simp, by simp⟩
  | @written key payload response outcome hkey hpayload hreply houtcome =>
    obtain ⟨inp, w, hreply⟩ := hreply
    -- the call was a request, and it found the record as it was at the start
    rcases request_or_refused client (wireSession adapter
      (urlPrefix client.baseUrl self.entitySet self.alternateKeyField) token sending)
      (fun _ _ => rfl) i inp w hkey hpayload with ⟨text, json, rfl, hjson, hrequest⟩ | ⟨e, hrefused⟩
    · have hmem : Event.returned i (.ok response) ∈ s.pool.shared.trace := by
        have hmem' : Event.returned i (.ok response) ∈ eventsOf i s.pool.shared.trace := by
          simp [hevents]
        exact (mem_eventsOf.1 hmem').1
      obtain ⟨key', payload', inp', w', hkey', hpayload', hsame, hreply'⟩ :=
        (foundUntouched_of_syncReaches requests_upsertOver hdistinct h).found i row text _ _ hrow
          hrequest hmem
      cases hkey.symm.trans hkey'
      cases hpayload.symm.trans hpayload'
      have hcall : self.upsertOver client adapter token sending i
          (self.upsertCall (.str text) payload) () w' = (.ok response, _) := Prod.ext hreply' rfl
      obtain ⟨honce, -, hupdated⟩ := atMostOnce_of_upsertOver i hjson hcall
      have habsent : self.isAbsent initial.destination row = (w'.destination text).isNone := by
        rw [isAbsent, hrequest, hsame]
      rw [habsent, houtcome, outcomeOf, Option.isNone_iff_eq_none]
      refine ⟨fun hcreated => ?_, fun hnotCreated hnone => ?_⟩
      · exact honce.absent_of_created (by by_contra hne; simp [hne] at hcreated)
      · exact hupdated response rfl (fun h201 => by simp [h201] at hnotCreated) hnone
    · rw [upsertOver, hrefused] at hreply
      cases hreply

/-- If only rows of some kind come to an outcome, it counts no more rows than there are of them. -/
theorem result_le_countP {p : NamedTuple → Bool} {outcome : Outcome}
    (h : self.SyncReaches logger (self.upsertOver client adapter token sending) records initial s)
    (hphase : s.phase = .exited none)
    (hkind : ∀ (i : ℕ) row, records[i]? = some row →
      s.pool.results[i]? = some (some (.ok outcome)) → p row = true) :
    s.result outcome ≤ records.countP p := by
  have hinv := WriteLoop.inv_of_reachable h
  have hlen : s.pool.results.length = records.length := by
    rw [Pool.results, List.length_map, hinv.length_of_returned hphase]
  have hcount : records.countP p = (records.map p).count true := by
    rw [List.count_eq_countP, List.countP_map]
    exact List.countP_congr fun row _ => by simp
  rw [hinv.count_of_returned hphase, hcount]
  refine count_le_count fun i hi => ?_
  have hlt : i < records.length := hlen ▸ (List.getElem?_eq_some_iff.1 hi).1
  have hrow := List.getElem?_eq_getElem hlt
  rw [List.getElem?_map, hrow, Option.map_some, hkind i _ hrow hi]

end Created

end BaseODataSyncRunner

/-! ### A run of the service -/

theorem EffectfulRunner.RunEnds.sends [IdentifierTables] {S : Type}
    {self : EffectfulRunner S ODataClient Wire} {runner : BaseODataSyncRunner} {logger : Logger}
    {adapter : StatusAdapter Wire} {token : String} {sending : ℕ → ℕ → Sending}
    {records : DataFrame} {initial final : Wire} {code : ℕ}
    (h : self.RunEnds runner logger (fun client => runner.upsertOver client adapter token sending)
      records initial code final) :
    final.sends ≤ initial.sends + 4 * records.itertuples.length := by
  cases h with
  | unprepared => exact Nat.le_add_right ..
  | returned _ hends _ => exact BaseODataSyncRunner.sends_of_syncReaches hends.1
  | raised _ hends _ => exact BaseODataSyncRunner.sends_of_syncReaches hends.1

/-- Every run of the service whose requests may be sent again exits with 0 or 1, has sent at most
four times for each row, and has written no more than the last rows of its feed, each as a whole. If
it exits with 0, it has written all of them. It does exit with 0 if every hook returns, every row
can be serialised, and for each request at most three sends come to nothing before one succeeds. -/
theorem resends_keep_exit_code [IdentifierTables] {S : Type}
    (self : EffectfulRunner S ODataClient Wire) (runner : DataverseInventorySyncRunner)
    (hingest : self.ingest = runner.mixin) (logger : Logger) (adapter : StatusAdapter Wire)
    (token : String) (sending : ℕ → ℕ → Sending) (frames : List DataFrame) (columns : List String)
    (records : DataFrame) (hfeed : AcceptedFeed runner frames columns records)
    (effects : Effects Wire)
    (hsync : ∀ client, self.Prepared client records →
      runner.odata.SyncRuns logger (runner.odata.upsertOver client adapter token sending)
        records.itertuples (effects.pull self.ingest.pulledChunks)
        ((self.syncRecords client records).run (effects.pull self.ingest.pulledChunks))) :
    ∃ code effects', (self.run logger).run effects = .ok code effects' ∧
      (code = 0 ∨ code = 1) ∧
      effects'.world.sends ≤ effects.world.sends + 4 * records.itertuples.length ∧
      PartlyDelivered runner frames effects.world.destination effects'.world.destination ∧
      (code = 0 → Delivered runner frames effects.world.destination effects'.world.destination) ∧
      ((∃ client, self.Prepared client records) → 1 ≤ runner.maxWorkers →
        (∀ row ∈ records.itertuples, runner.odata.Serialisable row) →
        (∀ i, Recovers (sending i)) → code = 0) := by
  have hrecords : self.ingest.loadRecords = .ok records := hingest ▸ hfeed.loaded
  have hcommits : ∀ client, runner.odata.Commits Wire.destination
      (runner.odata.upsertOver client adapter token sending) records.itertuples :=
    fun client => BaseODataSyncRunner.requests_upsertOver.commits
      (BaseODataSyncRunner.distinct_of_acceptedFeed hfeed)
  obtain ⟨code, effects', hrun, hends⟩ := EffectfulRunner.runEnds_of_run hrecords hsync
  obtain ⟨hcode, hpartly, hdelivered⟩ := hends.delivered hfeed fun client _ => hcommits client
  refine ⟨code, effects', hrun, hcode, hends.sends, hpartly, hdelivered, ?_⟩
  intro hprepared hworkers hjson hrecovers
  exact hends.eq_zero_of_alwaysAnswers (fun _ _ => BaseODataSyncRunner.alwaysAnswers_of_recovers
    (BaseODataSyncRunner.writable_of_acceptedFeed hfeed hjson) hrecovers) hprepared hworkers

/-- An adapter to talk to the destination with. -/
def wireAdapter : StatusAdapter Wire := documentedAdapter Wire id

/-- The first send of a request is applied but its answer is lost, and the second is accepted. -/
def firstAnswerLost : ℕ → ℕ → Sending := fun _ n =>
  if n = 0 then { fate := .lost (connectionFailure "Connection aborted.") true }
  else { fate := .accepted noContentStatus }

theorem recovers_firstAnswerLost (i : ℕ) : Recovers (firstAnswerLost i) := by
  refine ⟨1, by decide, fun m hm => ?_, trivial, rfl⟩
  obtain rfl : m = 0 := by omega
  trivial

open BaseODataSyncRunner in
/-- A run over the feed in which a price is corrected, where every first answer is lost. -/
theorem resends_keep_exit_code_firstAnswerLost :
    ∃ (self : EffectfulRunner Unit ODataClient Wire) (effects' : Effects Wire),
      (@EffectfulRunner.run asciiTables _ _ _ self standardLogger).run ⟨⟨stocked, 0⟩, [], 0⟩ =
        .ok 0 effects' ∧
      @Delivered asciiTables (shippedRunner correctedRows) [shippedFrame correctedRows] stocked
        effects'.world.destination := by
  have hloaded : @InventoryDomainMixin.loadRecords (shippedRunner correctedRows).mixin asciiTables =
      .ok (shippedFrame latestRows) := rfl
  obtain ⟨self, hingest, hprepared, hsync⟩ := @EffectfulRunner.exists_prepared asciiTables _ _ Unit
    _ _ dataverseClient (shippedRunner correctedRows).odata (by decide) standardLogger
    (fun client => (shippedRunner correctedRows).odata.upsertOver client wireAdapter "token"
      firstAnswerLost) _ hloaded ⟨⟨stocked, 0⟩, [], 0⟩
  obtain ⟨code, effects', hrun, -, -, -, hdelivered, hzero⟩ :=
    @resends_keep_exit_code asciiTables _ self (shippedRunner correctedRows) hingest standardLogger
      wireAdapter "token" firstAnswerLost [shippedFrame correctedRows] _ (shippedFrame latestRows)
      (acceptedFeed_shipped hloaded) ⟨⟨stocked, 0⟩, [], 0⟩ fun client hclient =>
        (hsync client hclient).2
  obtain rfl := hzero ⟨dataverseClient, hprepared⟩ (by decide) serialisable_latestRows
    recovers_firstAnswerLost
  exact ⟨self, effects', hrun, hdelivered rfl⟩

/-- When `sync_records` returns, no more rows count as created than had no record before. If no row
failed, and no send was applied without the client being told, then exactly these count as created
and all others as updated. -/
theorem created_were_absent [IdentifierTables] (self : DataverseInventorySyncRunner)
    (frames : List DataFrame) (columns : List String) (records : DataFrame)
    (hfeed : AcceptedFeed self frames columns records) (logger : Logger) (client : ODataClient)
    (adapter : StatusAdapter Wire) (token : String) (sending : ℕ → ℕ → Sending) (initial : Wire)
    (s : WriteLoop NamedTuple Stage (Shared Wire))
    (h : self.odata.SyncReaches logger (self.odata.upsertOver client adapter token sending)
      records.itertuples initial s) (hphase : s.phase = .exited none) :
    s.result .created ≤ records.itertuples.countP (self.odata.isAbsent initial.destination) ∧
      (s.result .failed = 0 → (∀ i n, (sending i n).isUnreported = false) →
        s.result .created = records.itertuples.countP (self.odata.isAbsent initial.destination) ∧
          s.result .updated =
            records.itertuples.countP fun row => !self.odata.isAbsent initial.destination row) := by
  have hdistinct := BaseODataSyncRunner.distinct_of_acceptedFeed hfeed
  have hcreated : s.result .created ≤
      records.itertuples.countP (self.odata.isAbsent initial.destination) :=
    BaseODataSyncRunner.result_le_countP h hphase fun i row hrow hresult =>
      (BaseODataSyncRunner.absent_of_outcome hdistinct h hphase hrow hresult).1 rfl
  refine ⟨hcreated, fun hfailed hreported => ?_⟩
  have hupdated : s.result .updated ≤
      records.itertuples.countP fun row => !self.odata.isAbsent initial.destination row := by
    refine BaseODataSyncRunner.result_le_countP h hphase fun i row hrow hresult => ?_
    rw [Bool.not_eq_true', Bool.eq_false_iff]
    intro habsent
    obtain ⟨n, -, hunreported⟩ :=
      (BaseODataSyncRunner.absent_of_outcome hdistinct h hphase hrow hresult).2 rfl habsent
    rw [hreported] at hunreported
    cases hunreported
  -- the two kinds make up all rows, and so do the two outcomes
  have hinv := WriteLoop.inv_of_reachable h
  have hskipped : s.result .skipped = 0 := by
    rw [hinv.count_of_returned hphase, List.count_eq_zero]
    intro hmem
    obtain ⟨i, hi⟩ := List.getElem?_of_mem hmem
    exact (BaseODataSyncRunner.outcome_of_failed_eq_zero h hphase hfailed hi).2 rfl
  have htotal := hinv.total_of_returned hphase
  rw [Result.total, hfailed, hskipped] at htotal
  have hrows := List.length_eq_countP_add_countP (self.odata.isAbsent initial.destination)
    (l := records.itertuples)
  have hnot : (records.itertuples.countP fun row =>
      !self.odata.isAbsent initial.destination row) = records.itertuples.countP fun row =>
        decide ¬self.odata.isAbsent initial.destination row = true :=
    List.countP_congr fun row _ => by simp
  omega

/-- Every send is accepted. -/
def allAccepted : ℕ → ℕ → Sending := fun _ _ => { fate := .accepted noContentStatus }

theorem recovers_allAccepted (i : ℕ) : Recovers (allAccepted i) :=
  ⟨0, by decide, by simp, trivial, rfl⟩

open BaseODataSyncRunner in
/-- A run over the feed in which a price is corrected, where every send is accepted. -/
theorem created_were_absent_correctedRows :
    ∃ s, (shippedRunner correctedRows).odata.SyncEnds standardLogger
        ((shippedRunner correctedRows).odata.upsertOver dataverseClient wireAdapter "token"
          allAccepted)
        (@DataFrame.itertuples asciiTables (shippedFrame latestRows)) ⟨stocked, 0⟩ s ∧
      s.result .created = (@DataFrame.itertuples asciiTables (shippedFrame latestRows)).countP
        ((shippedRunner correctedRows).odata.isAbsent stocked) := by
  obtain ⟨s, hends⟩ := exists_syncEnds (shippedRunner correctedRows).odata standardLogger
    ((shippedRunner correctedRows).odata.upsertOver dataverseClient wireAdapter "token" allAccepted)
    (@DataFrame.itertuples asciiTables (shippedFrame latestRows)) ⟨stocked, 0⟩
  have hfeed := @acceptedFeed_shipped correctedRows (shippedFrame latestRows) rfl
  have hwritable := @writable_of_acceptedFeed asciiTables _ _ _ _ hfeed serialisable_latestRows
  obtain ⟨hphase, hfailed⟩ := returned_of_alwaysAnswers
    (alwaysAnswers_of_recovers hwritable recovers_allAccepted) (by decide) hends
  obtain ⟨-, hexact⟩ := @created_were_absent asciiTables (shippedRunner correctedRows)
    [shippedFrame correctedRows] _ (shippedFrame latestRows) hfeed standardLogger dataverseClient
    wireAdapter "token" allAccepted ⟨stocked, 0⟩ s hends.1 hphase
  exact ⟨s, hends, (hexact hfailed fun _ _ => rfl).1⟩

end Sync
