import InventorySync.Foundations.FormEncoding
import InventorySync.Foundations.JsonTokens
import InventorySync.Transport.ODataClient

/-!
# Reading and deleting records

`ODataClient.get_record`, `query_records` and `delete_record`, with the query options that the first
two send along and the URL that `requests` prepares from them.

* `readTarget_buildEntityUrl`, `readUrl_prepareUrl`: the service reads off the URL which record is
  meant and exactly the options that were given, whatever characters they are made of.
-/

open Python FormEncoding

namespace Transport

/-! ### Query options -/

/-- A value of `params`. -/
inductive ParamValue
  | str (s : String)
  | int (n : ℤ)

/-- `str(value)` -/
def ParamValue.text : ParamValue → List Char
  | .str s => s.toList
  | .int n => Json.encodeInt n

/-- `if value: params[name] = value` -/
def textParam (name : String) : Option String → List (String × ParamValue)
  | none => []
  | some value => if value = "" then [] else [(name, .str value)]

/-- `if value is not None: params[name] = value` -/
def intParam (name : String) : Option ℤ → List (String × ParamValue)
  | none => []
  | some value => [(name, .int value)]

/-- `if select_fields: params["$select"] = ",".join(select_fields)` -/
def selectParam : Option (List String) → List (String × ParamValue)
  | none => []
  | some [] => []
  | some (field :: fields) => [("$select", .str (",".intercalate (field :: fields)))]

/-- The options of a `query_records` call. -/
structure QueryOptions where
  odataFilter : Option String := none
  selectFields : Option (List String) := none
  top : Option ℤ := none
  skip : Option ℤ := none
  orderBy : Option String := none

/-- The `params` of a `query_records` call. -/
def QueryOptions.params (options : QueryOptions) : List (String × ParamValue) :=
  textParam "$filter" options.odataFilter ++ selectParam options.selectFields ++
    intParam "$top" options.top ++ intParam "$skip" options.skip ++
    textParam "$orderby" options.orderBy

/-- The safe bytes of `urlencode`. -/
def formSafe : FormSafe where
  toSafeBytes := quoteSafe
  blank := by decide
  plus := by decide
  ampersand := by decide
  equals := by decide

/-- The URL that `requests` prepares for `params`. -/
def prepareUrl (url : String) (params : List (String × ParamValue)) : String :=
  let query := encodeForm formSafe (params.map fun param => (param.1.toList, param.2.text))
  if query = [] then url
  else
    -- the options go behind those that the URL has, and before its fragment
    let (rest, fragment) := url.toList.cut (· == '#')
    String.ofList (rest ++ (if '?' ∈ rest then '&' else '?') :: query ++ fragment)

/-! ### Responses with a body -/

/-- A JSON value as `response.json()` returns it. -/
inductive Body
  | str (s : String)
  | int (n : ℤ)
  | float (q : ℚ)
  | bool (b : Bool)
  | null
  | array (items : List Body)
  | object (members : List (String × Body))

/-- A response and the JSON in its body, if there is any. -/
structure JsonResponse extends Response where
  body : Option Body

/-- `response.json()` -/
def JsonResponse.json (response : JsonResponse) : Except PyException Body :=
  match response.body with
  | some body => .ok body
  -- the `JSONDecodeError` of `requests` is an `InvalidJSONError`
  | none => .error ⟨.invalidJSONError, "Expecting value: line 1 column 1 (char 0)"⟩

/-- `body.get("value", [])` -/
def Body.getValue : Body → Except PyException Body
  | .object members => .ok ((members.lookup "value").getD (.array []))
  | .array _ => .error ⟨.attributeError, "'list' object has no attribute 'get'"⟩
  | .str _ => .error ⟨.attributeError, "'str' object has no attribute 'get'"⟩
  | .int _ => .error ⟨.attributeError, "'int' object has no attribute 'get'"⟩
  | .float _ => .error ⟨.attributeError, "'float' object has no attribute 'get'"⟩
  | .bool _ => .error ⟨.attributeError, "'bool' object has no attribute 'get'"⟩
  | .null => .error ⟨.attributeError, "'NoneType' object has no attribute 'get'"⟩

/-- The pooled session with all methods of the client's requests. -/
structure RecordSession (ι ω : Type) extends Session ι ω where
  /-- `self._session.get(...)` on the prepared URL. -/
  get : ℕ → String → List (String × String) → ι → ω → Except PyException JsonResponse × ω
  /-- `self._session.delete(...)` -/
  delete : ℕ → String → List (String × String) → ι → ω → Except PyException Response × ω

/-! ### The methods -/

/-- The URL of an entity set. -/
def collectionUrl (baseUrl entitySet : String) : String := baseUrl ++ "/" ++ entitySet

namespace ODataClient

variable (self : ODataClient) {ι ω : Type} (session : RecordSession ι ω) (i : ℕ)

/-- Acquire a token and send a request with the headers for it. -/
def withHeaders {α : Type} (inp : ι) (world : ω)
    (send : List (String × String) → ω → Except PyException α × ω) : Except PyException α × ω :=
  match session.acquireBearerToken inp world with
  | (.error e, world) => (.error e, world)
  | (.ok token, world) => send (self.getHeaders token) world

/-- Retrieve a single record by its alternate key value. -/
def getRecord (entitySet alternateKeyName : String) (keyValue : PyValue)
    (selectFields : Option (List String)) (inp : ι) (world : ω) : Except PyException Body × ω :=
  match buildEntityUrl self.baseUrl entitySet alternateKeyName keyValue with
  | .error e => (.error e, world)
  | .ok url => self.withHeaders session inp world fun headers world =>
      let (reply, world) :=
        session.get i (prepareUrl url (selectParam selectFields)) headers inp world
      (reply.bind fun response =>
        (raiseForStatus response.toResponse).bind fun _ => response.json, world)

/-- Query a collection of records using OData v4 system query options. -/
def queryRecords (entitySet : String) (options : QueryOptions) (inp : ι) (world : ω) :
    Except PyException Body × ω :=
  self.withHeaders session inp world fun headers world =>
    let (reply, world) :=
      session.get i (prepareUrl (collectionUrl self.baseUrl entitySet) options.params) headers inp
        world
    (reply.bind fun response =>
      (raiseForStatus response.toResponse).bind fun _ => response.json.bind Body.getValue, world)

/-- Delete a single record identified by its alternate key value. -/
def deleteRecord (entitySet alternateKeyName : String) (keyValue : PyValue) (inp : ι) (world : ω) :
    Except PyException Response × ω :=
  match buildEntityUrl self.baseUrl entitySet alternateKeyName keyValue with
  | .error e => (.error e, world)
  | .ok url => self.withHeaders session inp world fun headers world =>
      let (reply, world) := session.delete i url headers inp world
      (reply.bind raiseForStatus, world)

end ODataClient

/-! ### What the service reads off a URL -/

/-- What a path addresses. -/
inductive Target
  | collection
  | record (key : String)

/-- What a path addresses in an entity set. -/
def readTarget (baseUrl entitySet alternateKeyName path : String) : Option Target :=
  if path = collectionUrl baseUrl entitySet then some .collection
  else (addressedKey (urlPrefix baseUrl entitySet alternateKeyName) path).map .record

/-- The target of a URL and its query options. -/
def readUrl (baseUrl entitySet alternateKeyName url : String) :
    Option (Target × List (List Char × List Char)) := do
  let (path, query) := url.toList.cut (· == '?')
  let target ← readTarget baseUrl entitySet alternateKeyName (String.ofList path)
  let options ← decodeForm (query.drop 1)
  return (target, options)

section Read

variable {baseUrl entitySet alternateKeyName : String}

theorem readTarget_collectionUrl :
    readTarget baseUrl entitySet alternateKeyName (collectionUrl baseUrl entitySet) =
      some .collection := by
  rw [readTarget, if_pos rfl]

/-- The path built for a key addresses the record with that key. -/
theorem readTarget_buildEntityUrl {key url : String}
    (h : buildEntityUrl baseUrl entitySet alternateKeyName (.str key) = .ok url) :
    readTarget baseUrl entitySet alternateKeyName url = some (.record key) := by
  have hne : url ≠ collectionUrl baseUrl entitySet := by
    obtain ⟨value, hvalue, rfl⟩ := buildEntityUrl_eq_ok.1 h
    -- the path of a record goes on behind the name of its entity set
    intro heq
    have hlength := congrArg String.length heq
    simp only [urlPrefix, collectionUrl, String.length_append] at hlength
    have hparen : "(".length = 1 := rfl
    omega
  rw [readTarget, if_neg hne, addressedKey_buildEntityUrl h, Option.map_some]

/-- A URL without a query and without a fragment. -/
structure IsPlain (url : String) : Prop where
  query : '?' ∉ url.toList
  fragment : '#' ∉ url.toList

/-- The URL prepared for a path and options gives both back. -/
theorem readUrl_prepareUrl {url : String} {target : Target} (params : List (String × ParamValue))
    (hplain : IsPlain url)
    (htarget : readTarget baseUrl entitySet alternateKeyName url = some target) :
    readUrl baseUrl entitySet alternateKeyName (prepareUrl url params) =
      some (target, params.map fun param => (param.1.toList, param.2.text)) := by
  have hdecode : decodeForm (encodeForm formSafe
      (params.map fun param => (param.1.toList, param.2.text))) =
        some (params.map fun param => (param.1.toList, param.2.text)) :=
    decodeForm_encodeForm _
  have hcut : ∀ c ∈ url.toList, (c == '?') = false := by
    intro c hc
    rw [beq_eq_false_iff_ne]
    rintro rfl
    exact hplain.query hc
  have hcut' : ∀ c ∈ url.toList, (c == '#') = false := by
    intro c hc
    rw [beq_eq_false_iff_ne]
    rintro rfl
    exact hplain.fragment hc
  rw [prepareUrl, readUrl]
  -- without options the URL stays as it is
  cases hquery : encodeForm formSafe (params.map fun param => (param.1.toList, param.2.text)) with
  | nil =>
    rw [hquery] at hdecode
    simp only [if_true, List.cut_of_notMem hcut, List.drop_nil, String.ofList_toList, htarget,
      hdecode, Option.bind_eq_bind, Option.bind_some, Option.pure_def]
  | cons c cs =>
    rw [hquery] at hdecode
    have hsplit : ('?' :: c :: cs).cut (· == '?') = ([], '?' :: c :: cs) := by simp [List.cut]
    simp only [reduceCtorEq, if_false, List.cut_of_notMem hcut', hplain.query, List.append_nil,
      String.toList_ofList, List.cut_append_of_notMem hcut, hsplit, List.drop_succ_cons,
      List.drop_zero, String.ofList_toList, htarget, hdecode, Option.bind_eq_bind, Option.bind_some,
      Option.pure_def]

end Read

end Transport
