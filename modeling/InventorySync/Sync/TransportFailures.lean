import InventorySync.Sync.History
import InventorySync.Sync.Traffic
import InventorySync.Transport.Retry

/-!
# Transport failures and the batch

What `sync_records` makes of a destination that rejects, drops or times out requests, over a client
whose session re-sends by `DEFAULT_RETRY`. A request that ends in a 4xx or 5xx status, in a
connection failure or in a timeout is counted and reported. A request whose re-sends run out on a
retried answer raises `RetryError` instead, and there are other ends for which `requests` has a
class of its own: a `Retry-After` that cannot be read, a body that breaks off, redirects without
end. None of these is caught by `_upsert_one`: they leave `sync_records`.
-/

open Python Pandas Transport ThreadPool

namespace Sync

/-- The batch was worked through to its end: every call is counted, and the requests that ended
badly are counted as failed and reported to the breaker once each. -/
structure BatchSurvives (records : List NamedTuple) (destination : ℕ → ℕ → Sent Answer)
    (s : WriteLoop NamedTuple Stage (Shared Unit)) : Prop where
  returned : s.phase = .exited none
  counted : ∀ outcome, s.result outcome = s.pool.results.count (some (.ok outcome))
  total : s.result.total = records.length
  reported : ∀ i call, .called i call ∈ s.pool.shared.trace → EndsBadly (destination i) →
    s.pool.results[i]? = some (some (.ok .failed)) ∧
      (eventsOf i s.pool.shared.trace).countP Event.isFailure = 1

namespace BaseODataSyncRunner

variable {self : BaseODataSyncRunner} {logger : Logger} {client : ODataClient}
  {adapter : StatusAdapter Unit} {token : String}
  {destination : ℕ → ℕ → Sent Answer} {records : List NamedTuple}
  {s : WriteLoop NamedTuple Stage (Shared Unit)}

/-- A sendable row is sent under its string key, with a payload that JSON can hold. -/
theorem exists_json_of_sendable {row : NamedTuple} (hrow : self.Sendable row) {key : PyValue}
    {payload : Payload} (hkey : row.getattr self.dedupeKey = .ok key)
    (hpayload : self.buildPayload row = .ok payload) :
    ∃ text json, (self.upsertCall key payload).keyValue = .str text ∧
      encodePayload (self.upsertCall key payload).payload = .ok json := by
  obtain ⟨text, payload', json, hkey', hpayload', hjson⟩ := hrow
  cases hkey.symm.trans hkey'
  cases hpayload.symm.trans hpayload'
  exact ⟨text, json, rfl, hjson⟩

/-- If the sends of every issued request settle, no call raises. -/
theorem not_raised_of_settles (hlogs : self.Logs logger)
    (hrecords : ∀ row ∈ records, self.Sendable row)
    (h : self.SyncReaches logger (client.upsertRecord (scriptedSession adapter token destination))
      records () s)
    (hdestination : ∀ i call, .called i call ∈ s.pool.shared.trace → Settles (destination i))
    (e : PyException) : ¬s.Raised e := by
  refine not_raised_of_replies hlogs (fun row hrow => ?_) h ?_ e
  · obtain ⟨key, payload, json, hkey, hpayload, -⟩ := hrecords row hrow
    exact ⟨_, payload, hkey, hpayload⟩
  · rintro i row key payload ⟨⟩ ⟨⟩ e hrow hkey hpayload hmem hreply
    obtain ⟨text, json, htext, hjson⟩ :=
      exists_json_of_sendable (hrecords row (List.mem_of_getElem? hrow)) hkey hpayload
    have hends := requestEnds_of_upsertRecord client adapter token destination i htext hjson
    rw [hreply] at hends
    cases hends with
    | escapes hsettles => exact absurd (hdestination i _ hmem) hsettles
    | fails _ _ hclass => exact hclass

section Called

variable (hrecords : ∀ row ∈ records, self.Sendable row)
  (h : self.SyncReaches logger (client.upsertRecord (scriptedSession adapter token destination))
    records () s)
  (hphase : s.phase = .exited none) {i : ℕ} {call : UpsertCall}
  (hcall : Event.called i call ∈ s.pool.shared.trace)

include hrecords h hphase hcall

/-- In a run that returned, the sends of an issued request settled; the call whose request ended
badly failed and reported that once. -/
theorem called_of_returned :
    Settles (destination i) ∧ (EndsBadly (destination i) →
      s.pool.results[i]? = some (some (.ok .failed)) ∧
        (eventsOf i s.pool.shared.trace).countP Event.isFailure = 1) := by
  have hi : i < records.length := id_lt_of_returned h hphase hcall
  have hrow : records[i]? = some records[i] := List.getElem?_eq_getElem hi
  have hsendable : self.Sendable records[i] := hrecords _ (List.getElem_mem hi)
  obtain ⟨outcome, events, hresult, hevents, hreturned⟩ := returned_of_syncReaches h hphase hrow
  have hmem : Event.called i call ∈ events := hevents ▸ mem_eventsOf.2 ⟨hcall, rfl⟩
  cases hreturned with
  | skipped => simp at hmem
  | @written key payload response outcome hkey hpayload hreply houtcome =>
    obtain ⟨⟨⟩, ⟨⟩, hreply⟩ := hreply
    obtain ⟨text, json, htext, hjson⟩ := exists_json_of_sendable hsendable hkey hpayload
    have hends := requestEnds_of_upsertRecord client adapter token destination i htext hjson
    rw [hreply] at hends
    cases hends with
    | returns hsettles hgood => exact ⟨hsettles, fun hbad => absurd hbad hgood⟩
  | @rejected key payload e trips hkey hpayload hreply he =>
    obtain ⟨⟨⟩, ⟨⟩, hreply⟩ := hreply
    obtain ⟨text, json, htext, hjson⟩ := exists_json_of_sendable hsendable hkey hpayload
    have hends := requestEnds_of_upsertRecord client adapter token destination i htext hjson
    rw [hreply] at hends
    cases hends with
    -- what escapes is no `HTTPError`, `ConnectionError` or `Timeout`
    | escapes _ hclass => exact absurd (he.symm.trans hclass) (Bool.false_ne_true ∘ Eq.symm)
    | fails hsettles => exact ⟨hsettles, fun _ => ⟨hresult, hevents ▸ rfl⟩⟩
  | unbuilt => simp at hmem

end Called

/-- Every run ends, and the batch survives it exactly when the sends of every issued request
settle. -/
theorem batchSurvives_iff (self : BaseODataSyncRunner) (hworkers : 1 ≤ self.maxWorkers)
    (hlogs : self.Logs logger) (client : ODataClient)
    (adapter : StatusAdapter Unit) (token : String)
    (destination : ℕ → ℕ → Sent Answer) (records : List NamedTuple)
    (hrecords : ∀ row ∈ records, self.Sendable row) :
    self.SyncTerminates logger (client.upsertRecord (scriptedSession adapter token destination))
        records () ∧
      ∀ s, self.SyncEnds logger (client.upsertRecord (scriptedSession adapter token destination))
          records () s →
        (BatchSurvives records destination s ↔
          ∀ i call, .called i call ∈ s.pool.shared.trace → Settles (destination i)) := by
  refine ⟨syncTerminates, fun s h => ⟨fun hsurvives i call hcall => ?_, fun hdestination => ?_⟩⟩
  · exact (called_of_returned hrecords h.1 hsurvives.returned hcall).1
  · -- the sends of every request settle, so no call raises
    have hphase : s.phase = .exited none :=
      returned_of_syncEnds hworkers h (not_raised_of_settles hlogs hrecords h.1 hdestination)
    have hinv := WriteLoop.inv_of_reachable h.1
    exact
      { returned := hphase
        counted := hinv.count_of_returned hphase
        total := hinv.total_of_returned hphase
        reported := fun i call hcall => (called_of_returned hrecords h.1 hphase hcall).2 }

/-- The runner with all defaults. -/
def defaultRunner : BaseODataSyncRunner :=
  DataverseInventorySyncRunner.odata { source := .oneShot (.error ⟨.fileNotFoundError, "feed"⟩) }

/-- A Dataverse environment. -/
def dataverseClient : ODataClient where
  baseUrl := "https://org.crm.dynamics.com/api/data/v9.2"

/-- A feed of one row. -/
def oneRow : List NamedTuple := [inventoryRow (.str "SKU-1") (.str "Bolt") (.int 3)]

/-- A schedule for so many rows: all are submitted, worked off one after the other, and collected.
If a call raises, the last steps are not needed. -/
def inTurn (rows : ℕ) : List (WriteLoop.Label Unit) :=
  List.replicate rows .main ++
    (List.range rows).flatMap (fun i => .dequeue i :: List.replicate 4 (.advance i ())) ++
    .main :: (List.range rows).map .collect ++ [.main, .main]

theorem sendable_oneRow : ∀ row ∈ oneRow, defaultRunner.Sendable row := by
  intro row hrow
  obtain rfl := List.mem_singleton.1 hrow
  exact ⟨"SKU-1", _, _, rfl, rfl, rfl⟩

theorem sendable_threeRows : ∀ row ∈ threeRows, defaultRunner.Sendable row := by
  intro row hrow
  obtain rfl | rfl | rfl := by simpa [threeRows] using hrow
  all_goals exact ⟨_, _, _, rfl, rfl, rfl⟩

/-- The first request is refused a connection, answered 503, and then accepted; the second is
answered 500, which is not retried, and the others time out throughout. -/
def troubled : ℕ → ℕ → Sent Answer
  | 0, 0 => .unanswered ⟨⟨.connectionError, "Connection refused"⟩, rfl⟩
  | 0, 1 => .answered ⟨503, .delay⟩
  | 0, _ => .answered ⟨201, .absent⟩
  | 1, _ => .answered ⟨500, .absent⟩
  | _, _ => .unanswered ⟨⟨.connectTimeout, "Connection timed out"⟩, rfl⟩

theorem settles_troubled (i : ℕ) : Settles (troubled i) := by
  match i with
  | 0 => exact rfl
  | 1 => exact rfl
  | i + 2 => exact trivial

/-- The batch survives such a destination. -/
theorem batchSurvives_troubled :
    ∃ s, defaultRunner.SyncEnds standardLogger
        (dataverseClient.upsertRecord
          (scriptedSession (documentedAdapter Unit id) "token" troubled)) threeRows () s ∧
      s.result .created = 1 ∧ s.result .failed = 2 ∧ BatchSurvives threeRows troubled s := by
  have h := (batchSurvives_iff defaultRunner (by decide)
    (logs_of_dedupeKey standardLogger (by decide)) dataverseClient (documentedAdapter Unit id)
    "token" troubled threeRows sendable_threeRows).2
  have hends := syncEnds_of_exec defaultRunner standardLogger
    (dataverseClient.upsertRecord (scriptedSession (documentedAdapter Unit id) "token" troubled))
    threeRows () (inTurn 3) rfl rfl
  exact ⟨_, hends, rfl, rfl, (h _ hends).2 fun i _ _ => settles_troubled i⟩

/-- A destination that answers every send with 503. -/
def unavailable : ℕ → ℕ → Sent Answer := fun _ _ => .answered ⟨503, .absent⟩

/-- A destination that answers 503 throughout aborts the batch: the first request to run out of
re-sends raises `RetryError` out of `sync_records`. -/
theorem not_batchSurvives_unavailable :
    defaultRunner.Logs standardLogger ∧ (∀ row ∈ oneRow, defaultRunner.Sendable row) ∧
      ∃ s, defaultRunner.SyncEnds standardLogger
          (dataverseClient.upsertRecord
            (scriptedSession (documentedAdapter Unit id) "token" unavailable)) oneRow () s ∧
        s.phase = .exited
          (some ⟨.retryError, "Max retries exceeded (too many error responses)"⟩) ∧
        ¬BatchSurvives oneRow unavailable s := by
  have hends := syncEnds_of_exec defaultRunner standardLogger
    (dataverseClient.upsertRecord
      (scriptedSession (documentedAdapter Unit id) "token" unavailable))
    oneRow () (inTurn 1).dropLast rfl rfl
  refine ⟨logs_of_dedupeKey standardLogger (by decide), sendable_oneRow, _, hends, rfl, ?_⟩
  intro hsurvives
  cases hsurvives.returned

end BaseODataSyncRunner

end Sync
