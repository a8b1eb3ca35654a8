import InventorySync.Sync.BadRecords

/-!
# The key a record is written under

What `_upsert_one` does with the business key of one record while the breaker is closed, over a
session that keeps the requests it was given. Validation looks at the key's text
(`str(value)`), but the URL is built with methods that only `str` has, so a key that is a number
passes validation and raises `AttributeError` before a request is sent.
-/

open Python Pandas Ingest Transport

namespace Sync

/-- A session that keeps every request it is given. -/
def recordingSession (token : String) (reply : Request → Except PyException Response) :
    Session Unit (List Request) where
  acquireBearerToken _ issued := (.ok token, issued)
  patch _ request _ issued := (reply request, request :: issued)

namespace BaseODataSyncRunner

/-- Exactly one request was issued: a `PATCH` whose key literal reads back as the text of the row's
key. -/
def WritesKey (runner : BaseODataSyncRunner) (client : ODataClient) (columns : List String)
    (row : NamedTuple) (issued : List Request) : Prop :=
  ∃ key request, cell columns row.values runner.dedupeKey = some key ∧ issued = [request] ∧
    request.method = "PATCH" ∧
    addressedKey (urlPrefix client.baseUrl runner.entitySet runner.alternateKeyField) request.url =
      some key.text

variable {self : BaseODataSyncRunner} {logger : Logger} {client : ODataClient} {token : String}
  {reply : Request → Except PyException Response} {breaker : ConsecutiveFailureCircuitBreaker}
  {i : ℕ} {row : NamedTuple}

/-- The requests that `_upsert_one` issues for a row with a readable key. -/
theorem issued_of_getattr (hclosed : breaker.isTripped = false) {key : PyValue}
    (hkey : row.getattr self.dedupeKey = .ok key) :
    (self.upsertOne logger (client.upsertRecord (recordingSession token reply)) i row () breaker
        []).2.2 =
      match self.buildPayload row with
      | .error _ => []
      | .ok payload =>
        (client.upsertRecord (recordingSession token reply) i (self.upsertCall key payload) () []).2
    := by
  rw [upsertOne, hclosed, hkey]
  cases self.buildPayload row <;> rfl

/-- An upsert issues one request if its key is a string and JSON can hold its payload, and none
otherwise. -/
theorem issued_upsertRecord (call : UpsertCall) :
    (client.upsertRecord (recordingSession token reply) i call () []).2 =
      match buildEntityUrl client.baseUrl call.entitySet call.alternateKeyName call.keyValue,
        encodePayload call.payload with
      | .ok url, .ok json => [⟨"PATCH", url, client.getHeaders token, json⟩]
      | _, _ => [] := by
  cases hurl : buildEntityUrl client.baseUrl call.entitySet call.alternateKeyName call.keyValue with
  | error e => simp only [ODataClient.upsertRecord, hurl]
  | ok url =>
    cases hjson : encodePayload call.payload with
    | error e => rw [ODataClient.upsertRecord_of_encodePayload_error hurl rfl hjson]
    | ok json =>
      rw [ODataClient.upsertRecord_eq_patch hurl rfl hjson]
      rfl

/-- While the breaker is closed, a record is written under its key exactly when attribute access
reads that key, the key is a string, and its payload can be built and serialised. -/
theorem writesKey_iff (self : BaseODataSyncRunner) (logger : Logger) (client : ODataClient)
    (token : String) (reply : Request → Except PyException Response)
    (breaker : ConsecutiveFailureCircuitBreaker) (hclosed : breaker.isTripped = false) (i : ℕ)
    (columns : List String) (row : NamedTuple) :
    self.WritesKey client columns row
        (self.upsertOne logger (client.upsertRecord (recordingSession token reply)) i row () breaker
          []).2.2 ↔
      ∃ key, cell columns row.values self.dedupeKey = some key ∧
        row.getattr self.dedupeKey = .ok (.str key.text) ∧ self.Serialisable row := by
  -- in each case but the last no request is issued, and the condition fails as well
  have hnone : ∀ issued : List Request, issued = [] →
      ¬self.WritesKey client columns row issued := by
    rintro issued rfl ⟨key, request, -, hissued, -⟩
    cases hissued
  cases hget : row.getattr self.dedupeKey with
  | error e =>
    refine iff_of_false (hnone _ ?_) (by simp)
    rw [upsertOne, hclosed, hget]
    rfl
  | ok value =>
    rw [issued_of_getattr hclosed hget]
    cases hpayload : self.buildPayload row with
    | error e =>
      refine iff_of_false (hnone _ rfl) ?_
      rintro ⟨key, -, -, payload, json, hpayload', -⟩
      cases hpayload.symm.trans hpayload'
    | ok payload =>
      simp only [issued_upsertRecord, upsertCall]
      cases hjson : encodePayload payload with
      | error e =>
        refine iff_of_false (hnone _ ?_) ?_
        · split <;> simp_all
        · rintro ⟨key, -, -, payload', json, hpayload', hjson'⟩
          cases hpayload.symm.trans hpayload'
          cases hjson.symm.trans hjson'
      | ok json =>
        cases hurl : buildEntityUrl client.baseUrl self.entitySet self.alternateKeyField value with
        | error e =>
          refine iff_of_false (hnone _ rfl) ?_
          rintro ⟨key, -, hkey, -⟩
          cases hkey
          cases hurl.symm.trans (buildEntityUrl_eq_ok.2 ⟨_, rfl, rfl⟩)
        | ok url =>
          -- one request was issued, and its URL addresses the string that was read
          obtain ⟨text, rfl, -⟩ := buildEntityUrl_eq_ok.1 hurl
          have haddressed := addressedKey_buildEntityUrl hurl
          constructor
          · rintro ⟨key, request, hcell, hissued, -, hkey⟩
            cases hissued
            obtain rfl : text = key.text := Option.some.inj (haddressed.symm.trans hkey)
            exact ⟨key, hcell, rfl, payload, json, hpayload, hjson⟩
          · rintro ⟨key, hcell, hkey, -⟩
            refine ⟨key, _, hcell, rfl, rfl, ?_⟩
            rw [haddressed, PyValue.str.inj (Except.ok.inj hkey)]

/-- A feed whose key column was read as numbers. -/
def numericKeys : DataFrame where
  columns := ["sku_id", "item_name", "unit_price"]
  rows := [[.int 1001, .str "Bolt", .int 3]]
  rectangular := by simp

/-- A runner over that feed. -/
def numericKeysRunner : DataverseInventorySyncRunner where
  source := .oneShot (.ok numericKeys)

/-- The row whose key holds a quote and a percent sign is written under just that key. -/
theorem writesKey_goodRows :
    (shippedRunner goodRows).odata.WritesKey dataverseClient (shippedFrame goodRows).columns
      (inventoryRow (.str "O'RING 5%") (.str "Ring") (.int 1))
      ((shippedRunner goodRows).odata.upsertOne standardLogger
        (dataverseClient.upsertRecord (recordingSession "token" fun _ => .ok ⟨204⟩)) 1
        (inventoryRow (.str "O'RING 5%") (.str "Ring") (.int 1)) () (.new 5) []).2.2 :=
  (writesKey_iff (shippedRunner goodRows).odata standardLogger dataverseClient "token"
    (fun _ => .ok ⟨204⟩) (.new 5) rfl 1 _ _).2
    ⟨.str "O'RING 5%", rfl, rfl, _, _, rfl, rfl⟩

/-- The feed is accepted, and the upsert of its one record raises without issuing a request. -/
theorem not_writesKey_numericKeys :
    @InventoryDomainMixin.loadRecords numericKeysRunner.mixin asciiTables = .ok numericKeys ∧
      ∃ row ∈ @DataFrame.itertuples asciiTables numericKeys,
        numericKeysRunner.odata.upsertOne standardLogger
            (dataverseClient.upsertRecord (recordingSession "token" fun _ => .ok ⟨204⟩)) 0 row ()
            (.new 5) [] =
          (.error ⟨.attributeError, "'int' object has no attribute 'replace'"⟩, .new 5, []) ∧
        ¬numericKeysRunner.odata.WritesKey dataverseClient numericKeys.columns row
          (numericKeysRunner.odata.upsertOne standardLogger
            (dataverseClient.upsertRecord (recordingSession "token" fun _ => .ok ⟨204⟩)) 0 row ()
            (.new 5) []).2.2 := by
  refine ⟨rfl, _, List.mem_singleton_self _, rfl, ?_⟩
  rintro ⟨key, request, -, hissued, -⟩
  cases hissued

end BaseODataSyncRunner

end Sync
