import InventorySync.Settings.Connection
import InventorySync.Transport.ODataClient

/-!
# The Dataverse client

`DataverseClient`: what its constructor makes of connection settings, for its own requests and for
the MSAL application that it acquires tokens through.

* `urlparse_authority`: tokens are asked for at one host, whatever the tenant is;
* `urlparse_recordUrl`: the URL of a record has the network location of the environment's URL,
  whatever its key is.
-/

open Python Settings

namespace Transport

/-- A connector for a Dataverse environment. -/
structure DataverseClient where
  environmentUrl : String
  /-- `client_id` of the MSAL application. -/
  clientId : String
  /-- Its `client_credential`. -/
  clientCredential : String
  /-- Its `authority`. -/
  authority : String
  scope : List String
  /-- How many connections are held open. -/
  poolMaxsize : ℤ
  deriving DecidableEq

namespace DataverseClient

/-- `__init__` -/
def new (tenantId clientId clientSecret environmentUrl : String) (poolMaxsize : ℤ := 20) :
    DataverseClient :=
  let environmentUrl := rstrip environmentUrl ['/']
  { environmentUrl
    clientId
    clientCredential := clientSecret
    authority := "https://login.microsoftonline.com/" ++ tenantId
    scope := [environmentUrl ++ "/.default"]
    poolMaxsize }

/-- Construct a client from a settings-like object. -/
def fromSettings (settings : ConnectionSettings) (poolMaxsize : ℤ := 20) : DataverseClient :=
  new settings.azureTenantId settings.azureClientId settings.azureClientSecret
    settings.dataverseUrl poolMaxsize

/-- The client as an OData v4 client, with its `base_url` and its additional header. -/
def odata (self : DataverseClient) : ODataClient where
  baseUrl := self.environmentUrl ++ "/api/data/v9.2"
  extraHeaders := [("Prefer", "return=representation")]

section Urls

variable [TextTables] {settings : ConnectionSettings} {poolMaxsize : ℤ}

/-- Tokens are asked for at one host. -/
theorem urlparse_authority :
    ∃ parsed, Url.urlparse (fromSettings settings poolMaxsize).authority.toList = .ok parsed ∧
      parsed.scheme = "https".toList ∧ parsed.netloc = "login.microsoftonline.com".toList := by
  have hsplit : Url.urlsplit "https://login.microsoftonline.com".toList =
      .ok ⟨"https".toList, "login.microsoftonline.com".toList, [], [], []⟩ := rfl
  obtain ⟨parsed, hparsed, hscheme, hnetloc⟩ := Url.urlparse_append_slash hsplit
    (List.cons_ne_nil _ _) (List.cons_ne_nil _ _) settings.azureTenantId.toList
  refine ⟨parsed, ?_, hscheme, hnetloc⟩
  have hlogin : "https://login.microsoftonline.com/".toList =
      "https://login.microsoftonline.com".toList ++ ['/'] := rfl
  have hauthority : (fromSettings settings poolMaxsize).authority.toList =
      "https://login.microsoftonline.com".toList ++ '/' :: settings.azureTenantId.toList := by
    change ("https://login.microsoftonline.com/" ++ settings.azureTenantId).toList = _
    rw [String.toList_append, hlogin, List.append_assoc, List.singleton_append]
  rw [hauthority]
  exact hparsed

/-- The URL of a record has the network location of the environment. -/
theorem urlparse_recordUrl {parsed : Url.ParseResult}
    (hparsed : Url.urlparse settings.dataverseUrl.toList = .ok parsed)
    (hscheme : parsed.scheme = "https".toList) (hnetloc : parsed.netloc ≠ [])
    (hslash : settings.dataverseUrl.toList.getLast? ≠ some '/')
    {entitySet alternateKeyName key url : String}
    (h : buildEntityUrl (fromSettings settings poolMaxsize).odata.baseUrl entitySet
      alternateKeyName (.str key) = .ok url) :
    ∃ parsed', Url.urlparse url.toList = .ok parsed' ∧ parsed'.scheme = "https".toList ∧
      parsed'.netloc = parsed.netloc := by
  obtain ⟨encodedValue, -, -, htext⟩ := toList_buildEntityUrl h hslash
  obtain ⟨split, hsplit⟩ := Url.urlsplit_of_urlparse hparsed
  obtain ⟨again, hagain, hsame, hlocation, -⟩ := Url.urlparse_of_urlsplit hsplit
  obtain rfl := Except.ok.inj (hparsed.symm.trans hagain)
  obtain ⟨parsed', hparsed', hscheme', hnetloc'⟩ := Url.urlparse_append_slash hsplit
    (by rw [← hsame, hscheme]; exact List.cons_ne_nil _ _) (hlocation ▸ hnetloc) _
  rw [htext]
  exact ⟨parsed', hparsed', by rw [hscheme', ← hsame, hscheme], hnetloc'.trans hlocation.symm⟩

end Urls

end DataverseClient

end Transport
