import InventorySync.Sync.BreakerTrace
import InventorySync.Sync.Feed
import InventorySync.Sync.TransportFailures

/-!
# Bad records and the batch

What a row whose payload JSON cannot hold does to the other rows. Ingest checks the key column for
missing values and no other, `build_payload` passes a missing value on as it is, `requests` refuses
it with `InvalidJSONError`, and `_upsert_one` does not catch that: one such row ends the batch.
-/

open Python Pandas Ingest Transport ThreadPool

namespace Sync

/-- A destination that accepts every well-formed request. -/
structure AcceptsRequests {ι ω : Type} (session : Session ι ω) : Prop where
  token : ∀ inp world, ∃ token, (session.acquireBearerToken inp world).1 = .ok token
  accepts : ∀ i request inp world, ∃ response,
    (session.patch i request inp world).1 = .ok response ∧
      ¬(400 ≤ response.statusCode ∧ response.statusCode < 600)

namespace BaseODataSyncRunner

/-- A row whose payload JSON can hold. -/
def Serialisable (runner : BaseODataSyncRunner) (row : NamedTuple) : Prop :=
  ∃ payload json, runner.buildPayload row = .ok payload ∧ encodePayload payload = .ok json

/-- The batch was worked through to its end: rows that can be serialised were attempted and
written, the others are counted as failed. -/
structure BatchIsolated {ω : Type} (runner : BaseODataSyncRunner) (records : List NamedTuple)
    (s : WriteLoop NamedTuple Stage (Shared ω)) : Prop where
  returned : s.phase = .exited none
  written : ∀ (i : ℕ) row, records[i]? = some row → runner.Serialisable row →
    (∃ call, .called i call ∈ s.pool.shared.trace) ∧
      (s.pool.results[i]? = some (some (.ok .created)) ∨
        s.pool.results[i]? = some (some (.ok .updated)))
  failed : ∀ (i : ℕ) row, records[i]? = some row → ¬runner.Serialisable row →
    s.pool.results[i]? = some (some (.ok .failed))

variable {ι ω : Type} {self : BaseODataSyncRunner} {logger : Logger} {client : ODataClient}
  {session : Session ι ω} {records : List NamedTuple} {world : ω}
  {s : WriteLoop NamedTuple Stage (Shared ω)}

/-- The upsert of a payload that JSON can hold returns a response; any other payload raises what its
encoding raises, which is no transport failure. -/
theorem reply_of_accepts (haccepts : AcceptsRequests session) (client : ODataClient) (i : ℕ)
    (call : UpsertCall) (inp : ι) (world : ω) {text : String} (hkey : call.keyValue = .str text) :
    (∃ json response, encodePayload call.payload = .ok json ∧
        (client.upsertRecord session i call inp world).1 = .ok response) ∨
      ∃ e, encodePayload call.payload = .error e ∧
        (client.upsertRecord session i call inp world).1 = .error e ∧
        isTransportFailure e = false := by
  obtain ⟨url, hurl⟩ : ∃ url, buildEntityUrl client.baseUrl call.entitySet call.alternateKeyName
      call.keyValue = .ok url := ⟨_, buildEntityUrl_eq_ok.2 ⟨text, hkey, rfl⟩⟩
  obtain ⟨token, htoken⟩ := haccepts.token inp world
  -- the destination takes what is sent to it, so only encoding the body can fail
  cases hjson : encodePayload call.payload with
  | ok json =>
    obtain ⟨response, hresponse, hstatus⟩ := haccepts.accepts i
      ⟨"PATCH", url, client.getHeaders token, json⟩ inp (session.acquireBearerToken inp world).2
    refine .inl ⟨json, response, rfl, ?_⟩
    rw [ODataClient.upsertRecord_eq_patch hurl (Prod.ext htoken rfl) hjson, hresponse]
    exact raiseForStatus_eq_ok.2 ⟨rfl, hstatus⟩
  | error e =>
    refine .inr ⟨e, rfl, ?_, isInstance_of_encodePayload_error hjson⟩
    rw [ODataClient.upsertRecord_of_encodePayload_error hurl (Prod.ext htoken rfl) hjson]

/-- Every row has a string key and a payload that can be built. -/
def Prepared (runner : BaseODataSyncRunner) (records : List NamedTuple) : Prop :=
  ∀ row ∈ records, ∃ text payload, row.getattr runner.dedupeKey = .ok (.str text) ∧
    runner.buildPayload row = .ok payload

section Batch

variable (haccepts : AcceptsRequests session) (hprepared : self.Prepared records) {i : ℕ}
  {row : NamedTuple} {events : List Event} (hrow : row ∈ records)

include haccepts hprepared hrow

/-- A call that returned was skipped, or it wrote a row that can be serialised. -/
theorem written_of_returned {outcome : Outcome}
    (hreturned : self.Returned (client.upsertRecord session) i row outcome events) :
    outcome = .skipped ∨ (self.Serialisable row ∧ (∃ call, .called i call ∈ events) ∧
      (outcome = .created ∨ outcome = .updated)) := by
  obtain ⟨text, payload, hkey, hpayload⟩ := hprepared row hrow
  cases hreturned with
  | skipped => exact .inl rfl
  -- the row was sent, so its payload could be encoded
  | @written _ _ response _ hkey' hpayload' hreply houtcome =>
    cases hkey.symm.trans hkey'
    cases hpayload.symm.trans hpayload'
    obtain ⟨inp, world', hreply⟩ := hreply
    rcases reply_of_accepts haccepts client i (self.upsertCall (.str text) payload) inp world' rfl
      with ⟨json, -, hjson, -⟩ | ⟨e, -, herror, -⟩
    · have hcalled : Event.called i (self.upsertCall (.str text) payload) ∈
          [Event.recordedSuccess i, .returned i (.ok response),
            .called i (self.upsertCall (.str text) payload), .checked i false] := by simp
      refine .inr ⟨⟨payload, json, hpayload, hjson⟩, ⟨_, hcalled⟩, ?_⟩
      rw [houtcome, outcomeOf]
      split
      · exact .inl rfl
      · exact .inr rfl
    · cases herror.symm.trans hreply
  -- no request is refused, and a body that cannot be encoded is no transport failure
  | rejected hkey' hpayload' hreply he =>
    cases hkey.symm.trans hkey'
    cases hpayload.symm.trans hpayload'
    obtain ⟨inp, world', hreply⟩ := hreply
    rcases reply_of_accepts haccepts client i (self.upsertCall (.str text) payload) inp world' rfl
      with ⟨json, response, -, hok⟩ | ⟨e, -, herror, hclass⟩
    · cases hok.symm.trans hreply
    · cases herror.symm.trans hreply
      cases he.symm.trans hclass
  | unbuilt _ hpayload' => cases hpayload.symm.trans hpayload'

/-- A call that raised was for a row that cannot be serialised. -/
theorem not_serialisable_of_raised {e : PyException}
    (hraised : self.Raised (client.upsertRecord session) i row e events) :
    ¬self.Serialisable row := by
  obtain ⟨text, payload, hkey, hpayload⟩ := hprepared row hrow
  rintro ⟨payload', json, hpayload', hjson⟩
  cases hpayload.symm.trans hpayload'
  cases hraised with
  | unreadable hkey' => cases hkey.symm.trans hkey'
  | unbuilt _ hpayload' => cases hpayload.symm.trans hpayload'
  -- the call raised on a request, which the destination would have taken had it been encoded
  | escaped hkey' hpayload' hreply he =>
    cases hkey.symm.trans hkey'
    cases hpayload.symm.trans hpayload'
    obtain ⟨inp, world', hreply⟩ := hreply
    rcases reply_of_accepts haccepts client i (self.upsertCall (.str text) payload) inp world' rfl
      with ⟨json, response, -, hok⟩ | ⟨e, herror, -, -⟩
    · cases hok.symm.trans hreply
    · cases hjson.symm.trans herror

end Batch

/-- Every run ends, and one bad row does not stop the others exactly when there is none. -/
theorem batchIsolated_of_prepared [Nonempty ι] (hworkers : 1 ≤ self.maxWorkers)
    (hlogs : self.Logs logger) (haccepts : AcceptsRequests session)
    (hprepared : self.Prepared records)
    (h : self.SyncEnds logger (client.upsertRecord session) records world s) :
    self.BatchIsolated records s ↔ ∀ row ∈ records, self.Serialisable row := by
  constructor
  · intro hisolated row hrow
    by_contra hbad
    -- the bad row's call would have returned `"failed"`, but a call returns that never here
    obtain ⟨i, hi⟩ := List.getElem?_of_mem hrow
    obtain ⟨outcome, events, hresult, -, hreturned⟩ :=
      returned_of_syncReaches h.1 hisolated.returned hi
    cases hresult.symm.trans (hisolated.failed i row hi hbad)
    rcases written_of_returned haccepts hprepared hrow hreturned with hskipped | ⟨hgood, -⟩
    · cases hskipped
    · exact hbad hgood
  · intro hall
    have hraised : ∀ e, ¬s.Raised e := by
      intro e he
      obtain ⟨i, row, events, hrow, -, hraised⟩ := raised_of_syncReaches hlogs h.1 he
      exact not_serialisable_of_raised haccepts hprepared (List.mem_of_getElem? hrow) hraised
        (hall row (List.mem_of_getElem? hrow))
    have hphase : s.phase = .exited none := returned_of_syncEnds hworkers h hraised
    -- no row failed, so the breaker is closed and no row was skipped
    have hfailed : s.result .failed = 0 := by
      rw [(WriteLoop.inv_of_reachable h.1).count_of_returned hphase, List.count_eq_zero]
      intro hmem
      obtain ⟨i, hi⟩ := List.getElem?_of_mem hmem
      obtain ⟨row, -, hrow, hhistory⟩ := history_of_result h.1 hi
      rcases written_of_returned haccepts hprepared hrow hhistory.returned with
        hskipped | ⟨-, -, hwritten⟩
      · cases hskipped
      · rcases hwritten with hwritten | hwritten <;> cases hwritten
    refine ⟨hphase, fun i row hrow _ => ?_, fun i row hrow hbad => ?_⟩
    · obtain ⟨outcome, events, hresult, hevents, hreturned⟩ :=
        returned_of_syncReaches h.1 hphase hrow
      rcases written_of_returned haccepts hprepared (List.mem_of_getElem? hrow) hreturned with
        hskipped | ⟨-, ⟨call, hcall⟩, hwritten⟩
      · exact absurd hskipped (outcome_of_failed_eq_zero h.1 hphase hfailed hresult).2
      · refine ⟨⟨call, (mem_eventsOf.1 (hevents ▸ hcall)).1⟩, ?_⟩
        rcases hwritten with rfl | rfl
        · exact .inl hresult
        · exact .inr hresult
    · exact absurd (hall row (List.mem_of_getElem? hrow)) hbad

/-- The records of an accepted feed are prepared. -/
theorem prepared_of_acceptedFeed [IdentifierTables] {runner : DataverseInventorySyncRunner}
    {frames : List DataFrame} {columns : List String} {records : DataFrame}
    (hfeed : AcceptedFeed runner frames columns records) :
    runner.odata.Prepared records.itertuples := by
  intro row hrow
  obtain ⟨text, hkey, -⟩ := hfeed.exists_key (hfeed.mem_feedRows hrow)
  obtain ⟨payload, hpayload⟩ := hfeed.exists_payload (hfeed.mem_feedRows hrow)
  exact ⟨text, payload, hkey, hpayload⟩

/-- Every run over an accepted feed and a destination that accepts every request ends, and bad
records do not stop the others exactly when no record is bad. -/
theorem batchIsolated_iff [IdentifierTables] [Nonempty ι] (runner : DataverseInventorySyncRunner)
    (hworkers : 1 ≤ runner.maxWorkers) (hlogs : runner.odata.Logs logger) (frames : List DataFrame)
    (columns : List String) (records : DataFrame)
    (hfeed : AcceptedFeed runner frames columns records) (client : ODataClient)
    (session : Session ι ω) (haccepts : AcceptsRequests session) (world : ω) :
    runner.odata.SyncTerminates logger (client.upsertRecord session)
        records.itertuples world ∧
      ∀ s, runner.odata.SyncEnds logger (client.upsertRecord session)
          records.itertuples world s →
        (runner.odata.BatchIsolated records.itertuples s ↔
          ∀ row ∈ records.itertuples, runner.odata.Serialisable row) :=
  ⟨syncTerminates, fun _ h =>
    batchIsolated_of_prepared hworkers hlogs haccepts (prepared_of_acceptedFeed hfeed) h⟩

/-- Whether a record can be serialised is decided by the mapped columns, if no two of them are
mapped to the same field: none of them may hold a missing value. -/
theorem serialisable_iff [IdentifierTables] {runner : DataverseInventorySyncRunner}
    {frames : List DataFrame} {columns : List String} {records : DataFrame}
    (hfeed : AcceptedFeed runner frames columns records)
    (hfields : (runner.fieldMapping.entries.map Prod.snd).Nodup) {row : NamedTuple}
    (hrow : row ∈ records.itertuples) :
    runner.odata.Serialisable row ↔ ∀ field ∈ runner.fieldMapping.entries, ∀ value,
      row.getattr field.1 = .ok value → isJson value = true := by
  obtain ⟨payload, hpayload⟩ := hfeed.exists_payload (hfeed.mem_feedRows hrow)
  have hvalues : ∀ value, value ∈ payload.values ↔
      ∃ field ∈ runner.fieldMapping.entries, row.getattr field.1 = .ok value :=
    mem_values_of_buildPayload hfields hpayload
  have hiff : runner.odata.Serialisable row ↔ ∃ json, encodePayload payload = .ok json := by
    constructor
    · rintro ⟨payload', json, hpayload', hjson⟩
      cases hpayload.symm.trans hpayload'
      exact ⟨json, hjson⟩
    · rintro ⟨json, hjson⟩
      exact ⟨payload, json, hpayload, hjson⟩
  -- the values of the payload are what is read off the mapped columns
  rw [hiff, encodePayload_eq_ok_iff]
  constructor
  · exact fun h field hfield value hvalue => h value ((hvalues value).2 ⟨field, hfield, hvalue⟩)
  · intro h value hvalue
    obtain ⟨field, hfield, hget⟩ := (hvalues value).1 hvalue
    exact h field hfield value hget

/-- A session on which every request creates a record. -/
def creating : Session Unit Unit where
  acquireBearerToken _ world := (.ok "token", world)
  patch _ _ _ world := (.ok ⟨201⟩, world)

theorem acceptsRequests_creating : AcceptsRequests creating where
  token _ _ := ⟨"token", rfl⟩
  accepts _ _ _ _ := ⟨⟨201⟩, rfl, by simp⟩

/-- Three rows that JSON can hold; the key of the second is not one that a URL can hold as it is. -/
def goodRows : List (String × PyValue × PyValue) :=
  [("SKU-1", .str "Bolt", .int 3), ("O'RING 5%", .str "Ring", .int 1), ("SKU-3", .none, .int 7)]

theorem serialisable_goodRows :
    ∀ row ∈ @DataFrame.itertuples asciiTables (shippedFrame goodRows),
      (shippedRunner goodRows).odata.Serialisable row := by
  intro row hrow
  rcases List.mem_cons.1 hrow with rfl | hrow
  · exact ⟨_, _, rfl, rfl⟩
  · rcases List.mem_pair.1 hrow with rfl | rfl
    · exact ⟨_, _, rfl, rfl⟩
    · exact ⟨_, _, rfl, rfl⟩

theorem batchIsolated_goodRows :
    ∃ s, (shippedRunner goodRows).odata.SyncEnds standardLogger
        (dataverseClient.upsertRecord creating)
        (@DataFrame.itertuples asciiTables (shippedFrame goodRows)) () s ∧
      (shippedRunner goodRows).odata.BatchIsolated
        (@DataFrame.itertuples asciiTables (shippedFrame goodRows)) s := by
  have h := (@batchIsolated_iff _ _ standardLogger asciiTables _ (shippedRunner goodRows)
    (by decide) (logs_of_dedupeKey standardLogger (by decide)) [shippedFrame goodRows] _
    (shippedFrame goodRows) (acceptedFeed_shipped rfl) dataverseClient creating
    acceptsRequests_creating ()).2
  have hends := syncEnds_of_exec (shippedRunner goodRows).odata standardLogger
    (dataverseClient.upsertRecord creating)
    (@DataFrame.itertuples asciiTables (shippedFrame goodRows)) () (inTurn 3) rfl rfl
  exact ⟨_, hends, (h _ hends).2 serialisable_goodRows⟩

/-- Two rows, the first of which has no price. -/
def missingPrice : List (String × PyValue × PyValue) :=
  [("SKU-1", .str "Bolt", .nan), ("SKU-2", .str "Nut", .int 2)]

/-- Both calls run, and the main thread collects the first. -/
def twoRowsSchedule : List (WriteLoop.Label Unit) :=
  [.main, .main, .dequeue 0, .advance 0 (), .advance 0 (), .advance 0 (), .advance 0 (),
    .dequeue 1, .advance 1 (), .advance 1 (), .advance 1 (), .advance 1 (), .main, .collect 0,
    .main]

/-- A missing price ends the batch with `InvalidJSONError`, although the destination accepts every
request and there are fewer rows than it takes failures to trip the breaker. -/
theorem not_batchIsolated_missingPrice :
    @AcceptedFeed asciiTables (shippedRunner missingPrice) [shippedFrame missingPrice]
        ["sku_id", "item_name", "unit_price"] (shippedFrame missingPrice) ∧
      ((shippedFrame missingPrice).rows.length : ℤ) <
        (shippedRunner missingPrice).failureThreshold ∧
      (shippedRunner missingPrice).odata.Logs standardLogger ∧ AcceptsRequests creating ∧
      ∃ s, (shippedRunner missingPrice).odata.SyncEnds standardLogger
          (dataverseClient.upsertRecord creating)
          (@DataFrame.itertuples asciiTables (shippedFrame missingPrice)) () s ∧
        s.phase = .exited (some
          ⟨.invalidJSONError, "Out of range float values are not JSON compliant"⟩) ∧
        ¬(shippedRunner missingPrice).odata.BatchIsolated
          (@DataFrame.itertuples asciiTables (shippedFrame missingPrice)) s := by
  have hends := syncEnds_of_exec (shippedRunner missingPrice).odata standardLogger
    (dataverseClient.upsertRecord creating)
    (@DataFrame.itertuples asciiTables (shippedFrame missingPrice)) () twoRowsSchedule rfl rfl
  refine ⟨acceptedFeed_shipped rfl, by decide, logs_of_dedupeKey standardLogger (by decide),
    acceptsRequests_creating, _, hends, rfl, ?_⟩
  intro hisolated
  cases hisolated.returned

end BaseODataSyncRunner

end Sync
