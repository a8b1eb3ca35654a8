import InventorySync.Sync.Resends
import InventorySync.Sync.RowRecord
import InventorySync.Transport.UnreliableCalls

/-!
# Reading back what a run has written

A run against an OData service, followed by reads of the same entity set. Writer and reader share
nothing but the service: the keys and fields that the run puts into URLs and bodies come back
through other URLs and bodies, over a connection on which any send may fail.

* `requests_upsertServed`: the calls of a run write each record at most once;
* `synced_records_are_read_back`: after exit code 0, every last row of the feed is read back.
-/

open Python Pandas Ingest Transport ThreadPool PatchStore

namespace Transport

section Service

variable {baseUrl entitySet alternateKeyName : String} {lang : QueryLanguage} {σ : Type}
  {service : Service baseUrl entitySet alternateKeyName lang σ}
  {adapter : HttpAdapter σ Received.answer} {client : ODataClient}

/-! ### Reads -/

variable (service adapter client) in
/-- A read changes no record and returns JSON for which `P` holds, unless some send of it failed and
it raises what happened to that. -/
def Reads (token : String) (delivery : ℕ → ℕ → Delivery) (i : ℕ) (s : σ) (call : Call)
    (P : Body → Prop) : Prop :=
  let ended := client.perform (serviceSession service adapter token delivery) entitySet
    alternateKeyName i () s call
  service.records ended.2 = service.records s ∧ ((∃ body, ended.1 = .ok (.body body) ∧ P body) ∨
    Fails (delivery i) ∧ ∃ e, ended.1 = .error e ∧
      e.isInstance [.requestException, .valueError, .overflowError] = true)

theorem Reads.mono {token : String} {delivery : ℕ → ℕ → Delivery} {i : ℕ} {s : σ} {call : Call}
    {P Q : Body → Prop} (h : Reads service adapter client token delivery i s call P)
    (hPQ : ∀ body, P body → Q body) : Reads service adapter client token delivery i s call Q :=
  ⟨h.1, h.2.imp_left fun ⟨body, hended, hP⟩ => ⟨body, hended, hPQ body hP⟩⟩

/-- A call that has no effect and says nothing but such JSON is a read. -/
theorem reads_of_says (hbase : client.baseUrl = baseUrl)
    (hplain : IsPlain (urlPrefix baseUrl entitySet alternateKeyName)) (token : String)
    (delivery : ℕ → ℕ → Delivery) (i : ℕ) {s : σ} {call : Call} {P : Body → Prop}
    (heffect : call.effect (service.records s) = service.records s)
    (hreplies : ∀ reply, call.Says lang service.HasWholePages (service.records s) reply →
      ∃ body, reply = .ok (.body body) ∧ P body) :
    Reads service adapter client token delivery i s call P := by
  obtain ⟨took, hrecords, haccounts⟩ :=
    accounts_of_perform service adapter token hbase hplain delivery i call s
  rw [heffect, ite_self] at hrecords
  refine ⟨hrecords, ?_⟩
  generalize (client.perform (serviceSession service adapter token delivery) entitySet
    alternateKeyName i () s call).1 = reply at haccounts ⊢
  cases haccounts with
  | asSaid h => exact .inl (hreplies _ h)
  | again _ h => exact .inl (hreplies _ (heffect ▸ h))
  | interrupted hfails _ he => exact .inr ⟨hfails, _, rfl, he⟩

/-- What a query returns, when all that it asks for of these records is put on one page. -/
def QueryOptions.IsResult (options : QueryOptions) (entries : List Entry) (body : Body) : Prop :=
  ∃ shown, body = .array shown ∧
    List.Forall₂ (fun entry body => Body.Shows (selectOption options.selectFields) entry.2 body)
      (pageOf (options.top.map Int.toNat) (options.skip.map Int.toNat) entries) shown

variable (hbase : client.baseUrl = baseUrl)
  (hplain : IsPlain (urlPrefix baseUrl entitySet alternateKeyName)) (token : String)
  (delivery : ℕ → ℕ → Delivery) (i : ℕ) {s : σ}

include hbase hplain

theorem reads_get {key : String} {record : Record String JsonValue}
    {selectFields : Option (List String)} (hrecord : service.records s key = some record)
    (hknown : lang.understands (arrived (selectParam selectFields)) = true) :
    Reads service adapter client token delivery i s (.get key selectFields)
      (Body.Shows (selectOption selectFields) record) := by
  refine reads_of_says hbase hplain token delivery i rfl fun reply h => ?_
  cases h with
  | found hrecord' hshown =>
    cases hrecord.symm.trans hrecord'
    exact ⟨_, rfl, hshown⟩
  | notFound hnone => cases hrecord.symm.trans hnone
  | misunderstood hoptions hunknown =>
    cases hoptions
    cases hknown.symm.trans hunknown

theorem reads_query (hwhole : service.HasWholePages) {options : QueryOptions}
    (hknown : lang.understands (arrived options.params) = true) :
    Reads service adapter client token delivery i s (.query options)
      fun body => ∃ entries, lang.Lists (textOption options.odataFilter)
        (textOption options.orderBy) (service.records s) entries ∧
        options.IsResult entries body := by
  refine reads_of_says hbase hplain token delivery i rfl fun reply h => ?_
  cases h with
  | queried _ _ hlists hshown hall =>
    rw [List.take_of_length_le (hall hwhole)] at hshown
    exact ⟨_, rfl, _, hlists, _, rfl, hshown⟩
  | misunderstood hoptions hunknown =>
    cases hoptions
    cases hknown.symm.trans hunknown

/-! ### Upserts -/

/-- What an upsert does and returns is what its call accounts for. -/
theorem accounts_of_upsertRecord {key : String} {payload : Payload}
    {json : List (String × JsonValue)} (hjson : encodePayload payload = .ok json)
    {reply : Except PyException Response} {s' : σ}
    (h : client.upsertRecord (serviceSession service adapter token delivery).toSession i
      ⟨entitySet, alternateKeyName, .str key, payload⟩ () s = (reply, s')) :
    ∃ took : Bool,
      service.records s' = (if took then patch (service.records s) key (bodyRecord json)
        else service.records s) ∧
      (Call.upsert key payload).Accounts lang service.HasWholePages (Fails (delivery i))
        (service.records s) took (reply.map fun response => .response response.statusCode) := by
  obtain ⟨took, hrecords, haccounts⟩ := accounts_of_perform service adapter token hbase hplain
    delivery i (.upsert key payload) s
  simp only [ODataClient.perform, h, Call.effect, hjson] at hrecords haccounts
  exact ⟨took, hrecords, haccounts⟩

/-- An upsert that is answered has written its record, and one that raises has written it or not. -/
theorem atMostOnce_of_served {key : String} {payload : Payload} {json : List (String × JsonValue)}
    (hjson : encodePayload payload = .ok json) {reply : Except PyException Response} {s' : σ}
    (h : client.upsertRecord (serviceSession service adapter token delivery).toSession i
      ⟨entitySet, alternateKeyName, .str key, payload⟩ () s = (reply, s')) :
    AtMostOnce key (bodyRecord json) (service.records s) reply (service.records s') := by
  obtain ⟨took, hrecords, haccounts⟩ :=
    accounts_of_upsertRecord hbase hplain token delivery i hjson h
  cases reply with
  | error e =>
    refine .failed ?_
    rw [hrecords]
    cases took
    · exact .inl rfl
    · exact .inr rfl
  | ok response =>
    simp only [Except.map] at haccounts
    cases haccounts with
    | asSaid hsaid =>
      rw [hrecords]
      cases hsaid with
      | upserted _ _ hcreated => exact .written hcreated.1
    | again _ hsaid =>
      -- the record was there when the request was served for the last time
      rw [hrecords]
      cases hsaid with
      | upserted _ _ hcreated =>
        refine .written fun h201 => ?_
        have hnone := hcreated.1 h201
        simp only [Call.effect, hjson, patch_self, reduceCtorEq] at hnone

/-- If no send fails, an upsert is answered. -/
theorem exists_response_of_served {key : String} {payload : Payload}
    {json : List (String × JsonValue)} (hjson : encodePayload payload = .ok json)
    (hserved : ¬Fails (delivery i)) {reply : Except PyException Response} {s' : σ}
    (h : client.upsertRecord (serviceSession service adapter token delivery).toSession i
      ⟨entitySet, alternateKeyName, .str key, payload⟩ () s = (reply, s')) :
    ∃ response, reply = .ok response := by
  obtain ⟨took, -, haccounts⟩ := accounts_of_upsertRecord hbase hplain token delivery i hjson h
  cases reply with
  | ok response => exact ⟨response, rfl⟩
  | error e =>
    simp only [Except.map] at haccounts
    cases haccounts with
    | asSaid hsaid =>
      cases hsaid with
      | unsendable hjson' => cases hjson.symm.trans hjson'
      | misunderstood hoptions => cases hoptions
    | again hfails => exact absurd hfails hserved
    | interrupted hfails => exact absurd hfails hserved

end Service

end Transport

namespace Sync

namespace BaseODataSyncRunner

/-! ### The calls of a run -/

section Calls

variable {self : BaseODataSyncRunner} {records : List NamedTuple} {baseUrl : String}
  {lang : QueryLanguage} {σ : Type}

/-- `upsert_record` against a service, where `delivery i n` is what becomes of send `n` of the
request of call `i`. -/
def upsertServed (self : BaseODataSyncRunner)
    (service : Service baseUrl self.entitySet self.alternateKeyField lang σ)
    (adapter : HttpAdapter σ Received.answer) (client : ODataClient) (token : String)
    (delivery : ℕ → ℕ → Delivery) : Upsert Unit σ :=
  client.upsertRecord (serviceSession service adapter token delivery).toSession

variable {service : Service baseUrl self.entitySet self.alternateKeyField lang σ}
  {adapter : HttpAdapter σ Received.answer} {client : ODataClient} {token : String}
  {delivery : ℕ → ℕ → Delivery} (hbase : client.baseUrl = baseUrl)
  (hplain : IsPlain (urlPrefix baseUrl self.entitySet self.alternateKeyField))

include hbase hplain

theorem requests_upsertServed :
    self.Requests service.records (self.upsertServed service adapter client token delivery)
      records where
  call i row key payload inp s _ hkey hpayload := by
    rcases request_or_refused client (serviceSession service adapter token delivery).toSession
      (fun _ _ => rfl) i inp s hkey hpayload with ⟨text, json, rfl, hjson, hrequest⟩ | hrefused
    · exact .inl ⟨text, bodyRecord json, hrequest,
        atMostOnce_of_served hbase hplain token delivery i hjson rfl⟩
    · exact .inr hrefused

theorem alwaysAnswers_of_served (hwritable : self.Writable records)
    (hserved : ∀ i, ¬Fails (delivery i)) :
    self.AlwaysAnswers (self.upsertServed service adapter client token delivery) records := by
  intro i row hrow
  obtain ⟨key, payload, json, hkey, hpayload, hjson⟩ := hwritable.sendable row hrow
  exact ⟨.str key, payload, hkey, hpayload, fun _ s =>
    exists_response_of_served hbase hplain token delivery i hjson (hserved i) rfl⟩

end Calls

end BaseODataSyncRunner

/-! ### What a run leaves to be read -/

/-- A record as a row leaves it: each mapped column under its field, and the other fields as they
were in the record before, if there was one. -/
structure WrittenOver (runner : DataverseInventorySyncRunner) (row : NamedTuple)
    (before : Option (Record String JsonValue)) (after : Record String JsonValue) : Prop where
  mapped : ∀ field ∈ runner.fieldMapping.entries, ∃ value encoded,
    row.getattr field.1 = .ok value ∧ encodeJsonValue value = .ok encoded ∧
      after field.2 = some encoded
  others : ∀ name, name ∉ runner.fieldMapping.entries.map Prod.snd →
    after name = before.bind fun old => old name

theorem exists_writtenOver_of_delivered [IdentifierTables] {runner : DataverseInventorySyncRunner}
    {frames : List DataFrame} {initial final : Destination} {row : NamedTuple}
    (hfields : (runner.fieldMapping.entries.map Prod.snd).Nodup)
    (h : Delivered runner frames initial final)
    (hlatest : Recency.IsLatest (rowKey runner.dedupeKey) (feedRows frames) row) :
    ∃ key after, row.getattr runner.dedupeKey = .ok (.str key) ∧ final key = some after ∧
      WrittenOver runner row (initial key) after := by
  obtain ⟨key, record, hrequest, hfinal⟩ := h.fed row hlatest
  refine ⟨key, _, BaseODataSyncRunner.getattr_of_requestOf hrequest, hfinal,
    fun field hfield => ?_, fun name hname => ?_⟩
  · obtain ⟨value, encoded, hvalue, hencoded, hfield'⟩ :=
      exists_encoded_of_requestOf hfields hrequest hfield
    exact ⟨value, encoded, hvalue, hencoded, overwrite_of_some hfield' _⟩
  · exact overwrite_of_none ((eq_none_iff_of_requestOf hrequest name).2 hname) _

/-- What every client of the service reads of a row that a run has written, as long as the records
are what the run has left: `get_record` returns the record of the row, and `query_records` what it
asks for of all records that its filter keeps, this one among them exactly if the filter keeps
it. -/
structure ReadBack {σ : Type} (runner : DataverseInventorySyncRunner) {baseUrl : String}
    {lang : QueryLanguage}
    (service : Service baseUrl runner.odata.entitySet runner.odata.alternateKeyField lang σ)
    (initial final : Destination) (row : NamedTuple) (key : String)
    (after : Record String JsonValue) : Prop where
  key_eq : row.getattr runner.dedupeKey = .ok (.str key)
  stored : final key = some after
  written : WrittenOver runner row (initial key) after
  get : ∀ (reader : ODataClient) adapter token delivery i s selectFields,
    reader.baseUrl = baseUrl → service.records s = final →
    lang.understands (arrived (selectParam selectFields)) = true →
      Reads service adapter reader token delivery i s (.get key selectFields)
        (Body.Shows (selectOption selectFields) after)
  query : ∀ (reader : ODataClient) adapter token delivery i s (options : QueryOptions),
    reader.baseUrl = baseUrl → service.records s = final →
    lang.understands (arrived options.params) = true →
      Reads service adapter reader token delivery i s (.query options) fun body =>
        ∃ entries,
          lang.Lists (textOption options.odataFilter) (textOption options.orderBy) final entries ∧
          ((key, after) ∈ entries ↔
            ∀ text ∈ textOption options.odataFilter, lang.holds text (key, after) = true) ∧
          options.IsResult entries body

theorem readBack_of_delivered [IdentifierTables] {σ : Type} {runner : DataverseInventorySyncRunner}
    {frames : List DataFrame} {baseUrl : String} {lang : QueryLanguage}
    {service : Service baseUrl runner.odata.entitySet runner.odata.alternateKeyField lang σ}
    {initial final : Destination} {row : NamedTuple}
    (hplain : IsPlain (urlPrefix baseUrl runner.odata.entitySet runner.odata.alternateKeyField))
    (hwhole : service.HasWholePages) (hfields : (runner.fieldMapping.entries.map Prod.snd).Nodup)
    (h : Delivered runner frames initial final)
    (hlatest : Recency.IsLatest (rowKey runner.dedupeKey) (feedRows frames) row) :
    ∃ key after, ReadBack runner service initial final row key after := by
  obtain ⟨key, after, hkey, hafter, hwritten⟩ := exists_writtenOver_of_delivered hfields h hlatest
  refine ⟨key, after, hkey, hafter, hwritten, ?_, ?_⟩
  · rintro reader adapter token delivery i s selectFields hbase rfl hknown
    exact reads_get hbase hplain token delivery i hafter hknown
  · rintro reader adapter token delivery i s options hbase rfl hknown
    refine (reads_query hbase hplain token delivery i hwhole hknown).mono ?_
    rintro body ⟨entries, hlists, hresult⟩
    refine ⟨entries, hlists, ?_, hresult⟩
    rw [hlists.mem_iff, hafter, and_iff_right rfl]

/-- Every run against the service exits, and if it exits with 0, then whoever reads the entity set
afterwards is returned what the run has written, unless a send of the read fails: for each last row
of the feed, the record with its key holds each mapped column under its field and is otherwise as it
was. The run does exit with 0 if every hook returns, every row can be serialised and no send
fails. -/
theorem synced_records_are_read_back [IdentifierTables] {S σ : Type}
    (self : EffectfulRunner S ODataClient σ) (runner : DataverseInventorySyncRunner)
    (hingest : self.ingest = runner.mixin) (logger : Logger) (baseUrl : String)
    (lang : QueryLanguage)
    (service : Service baseUrl runner.odata.entitySet runner.odata.alternateKeyField lang σ)
    (hplain : IsPlain (urlPrefix baseUrl runner.odata.entitySet runner.odata.alternateKeyField))
    (hwhole : service.HasWholePages) (adapter : HttpAdapter σ Received.answer) (token : String)
    (delivery : ℕ → ℕ → Delivery) (frames : List DataFrame) (columns : List String)
    (records : DataFrame) (hfeed : AcceptedFeed runner frames columns records)
    (hfields : (runner.fieldMapping.entries.map Prod.snd).Nodup) (effects : Effects σ)
    (hsync : ∀ client, self.Prepared client records → client.baseUrl = baseUrl ∧
      runner.odata.SyncRuns logger
        (runner.odata.upsertServed service adapter client token delivery) records.itertuples
        (effects.pull self.ingest.pulledChunks)
        ((self.syncRecords client records).run (effects.pull self.ingest.pulledChunks))) :
    ∃ code effects', (self.run logger).run effects = .ok code effects' ∧
      (code = 0 → ∀ row, Recency.IsLatest (rowKey runner.dedupeKey) (feedRows frames) row →
        ∃ key after, ReadBack runner service (service.records effects.world)
          (service.records effects'.world) row key after) ∧
      ((∃ client, self.Prepared client records) → 1 ≤ runner.maxWorkers →
        (∀ row ∈ records.itertuples, runner.odata.Serialisable row) →
        (∀ i, ¬Fails (delivery i)) → code = 0) := by
  have hrecords : self.ingest.loadRecords = .ok records := hingest ▸ hfeed.loaded
  have hcommits : ∀ client, self.Prepared client records → runner.odata.Commits service.records
      (runner.odata.upsertServed service adapter client token delivery) records.itertuples :=
    fun client hprepared => (BaseODataSyncRunner.requests_upsertServed (hsync client hprepared).1
      hplain).commits (BaseODataSyncRunner.distinct_of_acceptedFeed hfeed)
  obtain ⟨code, effects', hrun, hends⟩ :=
    EffectfulRunner.runEnds_of_run hrecords fun client hprepared => (hsync client hprepared).2
  obtain ⟨-, -, hdelivered⟩ := hends.delivered hfeed hcommits
  refine ⟨code, effects', hrun, fun hzero row hlatest =>
    readBack_of_delivered hplain hwhole hfields (hdelivered hzero) hlatest, ?_⟩
  intro hprepared hworkers hjson hserved
  exact hends.eq_zero_of_alwaysAnswers (fun client hprepared =>
    BaseODataSyncRunner.alwaysAnswers_of_served (hsync client hprepared).1 hplain
      (BaseODataSyncRunner.writable_of_acceptedFeed hfeed hjson) hserved) hprepared hworkers

/-- A service that holds the inventory items. -/
def inventoryService : Service BaseODataSyncRunner.dataverseClient.baseUrl
    (shippedRunner correctedRows).odata.entitySet
    (shippedRunner correctedRows).odata.alternateKeyField (tableLanguage isKey) Table :=
  tableService _ _ _ isKey

/-- One of them is there, with a field that no column is mapped to. -/
def stockedTable : Table := .ofPairs [("SKU-1", .ofPairs [("lagsol_location", .str "A-17")])]

open BaseODataSyncRunner in
/-- A run over the feed in which a price is corrected. -/
theorem synced_records_are_read_back_correctedRows :
    ∃ (self : EffectfulRunner Unit ODataClient Table) (effects' : Effects Table),
      (@EffectfulRunner.run asciiTables _ _ _ self standardLogger).run ⟨stockedTable, [], 0⟩ =
        .ok 0 effects' ∧
      ∀ row, Recency.IsLatest (rowKey "sku_id")
          (@feedRows asciiTables [shippedFrame correctedRows]) row →
        ∃ key after, ReadBack (shippedRunner correctedRows) inventoryService
          stockedTable.toDestination effects'.world.toDestination row key after := by
  have hloaded : @InventoryDomainMixin.loadRecords (shippedRunner correctedRows).mixin asciiTables =
      .ok (shippedFrame latestRows) := rfl
  have hserved : ∀ _i : ℕ, ¬Fails fun _ => .served := fun _ ⟨_, _, hne⟩ => hne rfl
  obtain ⟨self, hingest, hprepared, hsync⟩ := @EffectfulRunner.exists_prepared asciiTables _ _ Unit
    _ _ dataverseClient (shippedRunner correctedRows).odata (by decide) standardLogger
    (fun client => (shippedRunner correctedRows).odata.upsertServed inventoryService
      (documentedAdapter Table Received.answer) client "token" fun _ _ => .served) _ hloaded
    ⟨stockedTable, [], 0⟩
  obtain ⟨code, effects', hrun, hread, hzero⟩ :=
    @synced_records_are_read_back asciiTables _ _ self (shippedRunner correctedRows) hingest
      standardLogger dataverseClient.baseUrl _ inventoryService ⟨by decide, by decide⟩
      hasWholePages_tableService (documentedAdapter Table Received.answer) "token"
      (fun _ _ => .served) [shippedFrame correctedRows] _ (shippedFrame latestRows)
      (acceptedFeed_shipped hloaded) (by decide) ⟨stockedTable, [], 0⟩ (by
        intro client hclient
        obtain ⟨rfl, hruns⟩ := hsync client hclient
        exact ⟨rfl, hruns⟩)
  obtain rfl := hzero ⟨dataverseClient, hprepared⟩ (by decide) serialisable_latestRows hserved
  exact ⟨self, effects', hrun, hread rfl⟩

end Sync
