import InventorySync.Sync.BadRecords
import InventorySync.Sync.Replies
import InventorySync.Transport.DataverseClient

/-!
# Where the requests of a run go

A run writes with a bearer token in every request, to URLs that are put together from settings and
from the keys of the feed. Nothing that a feed holds can send the token elsewhere: every request is
one for a row, and goes to the network location of the environment's URL by `https`.

* `recorded_of_upsertRecord`: an upsert sends one request at most, to the URL of its record;
* `requests_stay_in_environment`: so do all calls of a run, in every state that it reaches.
-/

open Python Pandas Ingest Settings Transport ThreadPool

namespace Transport

variable {ι ω : Type}

/-- What a session has handed out and what was handed to it, the newest first. -/
structure Exchanged where
  tokens : List String
  requests : List Request

/-- A session that keeps a record of that. -/
def Session.recording (session : Session ι ω) : Session ι (ω × Exchanged) where
  acquireBearerToken inp world :=
    match session.acquireBearerToken inp world.1 with
    | (.ok token, world') => (.ok token, world', { world.2 with tokens := token :: world.2.tokens })
    | (.error e, world') => (.error e, world', world.2)
  patch i request inp world :=
    ((session.patch i request inp world.1).1,
      (session.patch i request inp world.1).2,
        { world.2 with requests := request :: world.2.requests })

/-- An upsert sends nothing, or the one request for its record, with a token that it has acquired
for it. -/
theorem recorded_of_upsertRecord (client : ODataClient) (session : Session ι ω) (i : ℕ)
    (call : UpsertCall) (inp : ι) (world : ω × Exchanged) :
    world.2.tokens ⊆ (client.upsertRecord session.recording i call inp world).2.2.tokens ∧
      ((client.upsertRecord session.recording i call inp world).2.2.requests = world.2.requests ∨
        ∃ url token json,
          buildEntityUrl client.baseUrl call.entitySet call.alternateKeyName call.keyValue =
            .ok url ∧
          token ∈ (client.upsertRecord session.recording i call inp world).2.2.tokens ∧
          encodePayload call.payload = .ok json ∧
          (client.upsertRecord session.recording i call inp world).2.2.requests =
            ⟨"PATCH", url, client.getHeaders token, json⟩ :: world.2.requests) := by
  unfold ODataClient.upsertRecord
  cases hurl : buildEntityUrl client.baseUrl call.entitySet call.alternateKeyName call.keyValue with
  | error e => exact ⟨List.Subset.refl _, .inl rfl⟩
  | ok url =>
    simp only [Session.recording]
    cases session.acquireBearerToken inp world.1 with
    | mk reply world' =>
      cases reply with
      | error e => exact ⟨List.Subset.refl _, .inl rfl⟩
      | ok token =>
        cases hjson : encodePayload call.payload with
        | error e => exact ⟨List.subset_cons_self _ _, .inl rfl⟩
        | ok json =>
          exact ⟨List.subset_cons_self _ _,
            .inr ⟨url, token, json, rfl, List.mem_cons_self, rfl, rfl⟩⟩

end Transport

namespace Sync

/-- `build_client`, which sizes the connection pool to the workers. -/
def DataverseInventorySyncRunner.buildClient (self : DataverseInventorySyncRunner)
    (settings : ConnectionSettings) : DataverseClient :=
  .fromSettings settings (self.maxWorkers * 2)

/-- A request for one of the rows: its record under its key, with one of the tokens, by `https` to a
network location. -/
structure RequestFor [TextTables] (runner : BaseODataSyncRunner) (client : ODataClient)
    (tokens : List String) (netloc : Url.Text) (records : List NamedTuple) (request : Request) :
    Prop where
  method_eq : request.method = "PATCH"
  row : ∃ row ∈ records, ∃ key,
    runner.requestOf row = some (key, bodyRecord request.json) ∧
      addressedKey (urlPrefix client.baseUrl runner.entitySet runner.alternateKeyField)
        request.url = some key
  authorized : ∃ token ∈ tokens, request.headers = client.getHeaders token
  confined : ∃ parsed, Url.urlparse request.url.toList = .ok parsed ∧
    parsed.scheme = "https".toList ∧ parsed.netloc = netloc

/-- A request stays one when more tokens are acquired. -/
theorem RequestFor.mono [TextTables] {runner : BaseODataSyncRunner} {client : ODataClient}
    {tokens tokens' : List String} {netloc : Url.Text} {records : List NamedTuple}
    {request : Request} (h : RequestFor runner client tokens netloc records request)
    (hsub : tokens ⊆ tokens') : RequestFor runner client tokens' netloc records request := by
  obtain ⟨token, htoken, hheaders⟩ := h.authorized
  exact ⟨h.method_eq, h.row, ⟨token, hsub htoken, hheaders⟩, h.confined⟩

section Confinement

variable [TextTables] {ι ω : Type} {runner : DataverseInventorySyncRunner}
  {settings : ConnectionSettings} {parsed : Url.ParseResult} {session : Session ι ω}
  {records : List NamedTuple}

/-- Every request of a run with a client for an environment is one for a row. -/
theorem requestFor_of_syncReaches (hparsed : Url.urlparse settings.dataverseUrl.toList = .ok parsed)
    (hscheme : parsed.scheme = "https".toList) (hnetloc : parsed.netloc ≠ [])
    (hslash : settings.dataverseUrl.toList.getLast? ≠ some '/') {logger : Logger} {world : ω}
    {s : WriteLoop NamedTuple Stage (Shared (ω × Exchanged))}
    (h : runner.odata.SyncReaches logger
      ((runner.buildClient settings).odata.upsertRecord session.recording) records
      (world, ⟨[], []⟩) s) :
    ∀ request ∈ s.pool.shared.world.2.requests, RequestFor runner.odata
      (runner.buildClient settings).odata s.pool.shared.world.2.tokens parsed.netloc records
      request := by
  refine BaseODataSyncRunner.invariant_of_replies
    (P := fun _ w => ∀ request ∈ w.2.requests, RequestFor runner.odata
      (runner.buildClient settings).odata w.2.tokens parsed.netloc records request)
    ⟨fun _ _ _ _ hw => hw, ?_⟩ (by simp) h
  intro i row key payload inp trace w hrow hkey hpayload _ hw request hrequest
  obtain ⟨htokens, hsent⟩ := recorded_of_upsertRecord (runner.buildClient settings).odata session i
    (runner.odata.upsertCall key payload) inp w
  rcases hsent with hsame | ⟨url, token, json, hurl, htoken, hjson, hsent⟩
  · rw [hsame] at hrequest
    exact (hw request hrequest).mono htokens
  · rw [hsent] at hrequest
    rcases List.mem_cons.1 hrequest with rfl | hrequest
    · obtain ⟨text, hkeyText, -⟩ := buildEntityUrl_eq_ok.1 hurl
      obtain rfl : key = .str text := hkeyText
      exact
        { method_eq := rfl
          row := ⟨row, List.mem_of_getElem? hrow, text,
            BaseODataSyncRunner.requestOf_eq_some hkey hpayload hjson,
            addressedKey_buildEntityUrl hurl⟩
          authorized := ⟨token, htoken, rfl⟩
          confined :=
            DataverseClient.urlparse_recordUrl hparsed hscheme hnetloc hslash hurl }
    · exact (hw request hrequest).mono htokens

/-- Whatever the sources of the settings hold, and whatever the rows of the feed hold: if the
settings are built, then tokens are asked for at one host, and every request that a run hands to
its session is one for a row, with a token that it has acquired, by `https` to the network location
of the URL in the settings. -/
theorem requests_stay_in_environment (runner : DataverseInventorySyncRunner) (contents : Contents)
    (values : FieldValues) (hvalues : inventorySyncModel.construct contents = .ok values)
    (session : Session ι ω) (logger : Logger) (records : List NamedTuple) (world : ω) :
    ∃ settings environment login, connectionSettings values = some settings ∧
      Url.urlparse settings.dataverseUrl.toList = .ok environment ∧ environment.netloc ≠ [] ∧
      Url.urlparse (runner.buildClient settings).authority.toList = .ok login ∧
      login.scheme = "https".toList ∧ login.netloc = "login.microsoftonline.com".toList ∧
      ∀ s, runner.odata.SyncReaches logger
          ((runner.buildClient settings).odata.upsertRecord session.recording) records
          (world, ⟨[], []⟩) s →
        ∀ request ∈ s.pool.shared.world.2.requests, RequestFor runner.odata
          (runner.buildClient settings).odata s.pool.shared.world.2.tokens environment.netloc
          records request := by
  obtain ⟨settings, environment, hsettings, hparsed, hscheme, hnetloc, hslash⟩ :=
    exists_connectionSettings hvalues
  obtain ⟨login, hlogin, hloginScheme, hloginNetloc⟩ :=
    @DataverseClient.urlparse_authority _ settings (runner.maxWorkers * 2)
  exact ⟨settings, environment, login, hsettings, hparsed, hnetloc, hlogin, hloginScheme,
    hloginNetloc, fun s h => requestFor_of_syncReaches hparsed hscheme hnetloc hslash h⟩

end Confinement

/-- Settings that the process environment holds. -/
def environmentContents : Contents where
  initSettings := .empty
  envSettings := .ofPairs
    [("azure_tenant_id", .str "12345678-1234-1234-1234-123456789abc"),
      ("azure_client_id", .str "12345678-1234-1234-1234-123456789abc"),
      ("azure_client_secret", .str "secret"),
      ("dataverse_url", .str "https://org.crm.dynamics.com/")]
  vaultAt _ name := .error ⟨.other "ResourceNotFoundError", name⟩
  dotenvSettings := .empty
  fileSecretSettings := .empty

/-- The connection settings that they give. -/
def environmentSettings : ConnectionSettings where
  azureTenantId := "12345678-1234-1234-1234-123456789abc"
  azureClientId := "12345678-1234-1234-1234-123456789abc"
  azureClientSecret := "secret"
  dataverseUrl := "https://org.crm.dynamics.com"

open BaseODataSyncRunner in
set_option maxRecDepth 20000 in
/-- A run with these settings sends three requests, one of them for a key with a quote and a percent
sign. -/
theorem requests_stay_in_environment_goodRows :
    ∃ (environment : Url.Text) (s : WriteLoop NamedTuple Stage (Shared (Unit × Exchanged))),
      s.pool.shared.world.2.requests.length = 3 ∧
        ∀ request ∈ s.pool.shared.world.2.requests, @RequestFor asciiText (goodRunner 5).odata
          ((goodRunner 5).buildClient environmentSettings).odata s.pool.shared.world.2.tokens
          environment (@DataFrame.itertuples asciiTables (shippedFrame goodRows)) request := by
  obtain ⟨values, hvalues, hconnection⟩ : ∃ values,
      (@inventorySyncModel asciiText).construct environmentContents = .ok values ∧
        connectionSettings values = some environmentSettings := ⟨_, rfl, rfl⟩
  obtain ⟨settings, environment, -, hsettings, -, -, -, -, -, hrequests⟩ :=
    @requests_stay_in_environment asciiText _ _ (goodRunner 5) environmentContents values
      hvalues creating standardLogger
      (@DataFrame.itertuples asciiTables (shippedFrame goodRows)) ()
  cases hsettings.symm.trans hconnection
  have hreach : (goodRunner 5).odata.SyncReaches standardLogger
      (((goodRunner 5).buildClient environmentSettings).odata.upsertRecord creating.recording)
      (@DataFrame.itertuples asciiTables (shippedFrame goodRows)) ((), ⟨[], []⟩)
      ((goodRun 5 (((goodRunner 5).buildClient environmentSettings).odata.upsertRecord
        creating.recording) ((), ⟨[], []⟩) (inTurn 3)).get rfl) :=
    ⟨inTurn 3, (Option.some_get _).symm⟩
  exact ⟨environment.netloc, _, rfl, hrequests _ hreach⟩

end Sync
