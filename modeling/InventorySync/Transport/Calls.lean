import InventorySync.Transport.Service

/-!
# Calls of the client

A caller sees the entity set as records under keys: it upserts, reads, queries and deletes them.
`Call.effect` and `Call.Says` say what that means. The client turns each call into a request, with
the key and the options quoted into a URL, and makes a reply of the response.

* `Service.serves_of_request`: what a service does with the request of a call is what the call says,
  and so is what is made of the response, whatever characters its arguments are made of.
-/

open Python PatchStore

namespace Transport

/-! ### Calls and what they mean -/

/-- A call of one of the client's methods. -/
inductive Call
  | upsert (key : String) (payload : Payload)
  | get (key : String) (selectFields : Option (List String))
  | query (options : QueryOptions)
  | delete (key : String)

/-- What the methods return: a response or deserialized JSON. -/
inductive Reply
  | response (statusCode : ℕ)
  | body (body : Body)

/-- The text of an option that is left out when it is empty. -/
def textOption : Option String → Option (List Char)
  | none => none
  | some value => if value = "" then none else some value.toList

/-- The text of a `$select` option. -/
def selectOption : Option (List String) → Option (List Char)
  | none => none
  | some [] => none
  | some (field :: fields) => some (",".intercalate (field :: fields)).toList

/-- The names of a `$select` are those between its commas, as long as no name has a comma. -/
theorem isSelected_selectOption {fields : List String} (hne : fields ≠ [])
    (hcomma : ∀ name ∈ fields, ',' ∉ name.toList) (field : String) :
    IsSelected (selectOption (some fields)) field ↔ field ∈ fields := by
  cases fields with
  | nil => exact absurd rfl hne
  | cons name names =>
    have hsplit : (",".intercalate (name :: names)).toList.splitOn ',' =
        (name :: names).map String.toList := by
      rw [String.toList_intercalate]
      exact List.splitOn_intercalate ',' (by simpa using hcomma) (by simp)
    have hselected : IsSelected (selectOption (some (name :: names))) field ↔
        field.toList ∈ (",".intercalate (name :: names)).toList.splitOn ',' := by
      rw [IsSelected, selectOption]
      exact ⟨fun h => h _ rfl, fun h _ htext => Option.some_inj.mp htext ▸ h⟩
    rw [hselected, hsplit]
    simp only [List.mem_map, String.toList_inj, exists_eq_right]

/-- The options as they arrive. -/
def arrived (params : List (String × ParamValue)) : Options :=
  params.map fun param => (param.1.toList, param.2.text)

/-- The options of a read. -/
def Call.options : Call → Option Options
  | .upsert _ _ => none
  | .get _ selectFields => some (arrived (selectParam selectFields))
  | .query options => some (arrived options.params)
  | .delete _ => none

/-- What a call does to the records. -/
def Call.effect : Call → Destination → Destination
  | .upsert key payload, records =>
    match encodePayload payload with
    | .error _ => records
    | .ok json => patch records key (bodyRecord json)
  | .get _ _, records => records
  | .query _, records => records
  | .delete key, records => erase records key

/-- What a call may return or raise, by the records that it finds. With `whole`, all that a query
asks for is put on one page. -/
inductive Call.Says (lang : QueryLanguage) (whole : Prop) (records : Destination) :
    Call → Except PyException Reply → Prop
  /-- JSON cannot hold the payload. -/
  | unsendable {key payload e} (hjson : encodePayload payload = .error e) :
      Says lang whole records (.upsert key payload) (.error e)
  | upserted {key payload json status} (hjson : encodePayload payload = .ok json)
      (hlt : status < 400) (hcreated : status = 201 ↔ records key = none) :
      Says lang whole records (.upsert key payload) (.ok (.response status))
  | misunderstood {call : Call} {options} (hoptions : options ∈ call.options)
      (hunknown : lang.understands options = false) :
      Says lang whole records call (.error ⟨.httpError, "400 Client Error"⟩)
  | notFound {key selectFields} (hnone : records key = none) :
      Says lang whole records (.get key selectFields) (.error ⟨.httpError, "404 Client Error"⟩)
  | found {key selectFields record body} (hrecord : records key = some record)
      (hshown : Body.Shows (selectOption selectFields) record body) :
      Says lang whole records (.get key selectFields) (.ok (.body body))
  | queried {options entries shown n} (htop : ∀ top ∈ options.top, 0 ≤ top)
      (hskip : ∀ skip ∈ options.skip, 0 ≤ skip)
      (hlists : lang.Lists (textOption options.odataFilter) (textOption options.orderBy) records
        entries)
      (hshown : List.Forall₂ (fun entry body => Body.Shows (selectOption options.selectFields)
        entry.2 body) ((pageOf (options.top.map Int.toNat) (options.skip.map Int.toNat)
          entries).take n) shown)
      (hall : whole →
        (pageOf (options.top.map Int.toNat) (options.skip.map Int.toNat) entries).length ≤ n) :
      Says lang whole records (.query options) (.ok (.body (.array shown)))
  | deleted {key} (hthere : (records key).isSome = true) :
      Says lang whole records (.delete key) (.ok (.response 204))
  | nothingDeleted {key} (hnone : records key = none) :
      Says lang whole records (.delete key) (.error ⟨.httpError, "404 Client Error"⟩)

/-- Doing what a call says again changes nothing. -/
theorem Call.effect_effect (call : Call) (records : Destination) :
    call.effect (call.effect records) = call.effect records := by
  cases call with
  | upsert key payload =>
    simp only [effect]
    cases encodePayload payload with
    | error e => rfl
    | ok json => exact patch_patch records key (bodyRecord json)
  | get key selectFields => rfl
  | query options => rfl
  | delete key => exact erase_erase records key

/-- Call a method of the client. -/
def ODataClient.perform {ι ω : Type} (client : ODataClient) (session : RecordSession ι ω)
    (entitySet alternateKeyName : String) (i : ℕ) (inp : ι) (world : ω) :
    Call → Except PyException Reply × ω
  | .upsert key payload =>
    let (reply, world) := client.upsertRecord session.toSession i
      ⟨entitySet, alternateKeyName, .str key, payload⟩ inp world
    (reply.map fun response => .response response.statusCode, world)
  | .get key selectFields =>
    let (reply, world) := client.getRecord session i entitySet alternateKeyName (.str key)
      selectFields inp world
    (reply.map .body, world)
  | .query options =>
    let (reply, world) := client.queryRecords session i entitySet options inp world
    (reply.map .body, world)
  | .delete key =>
    let (reply, world) := client.deleteRecord session i entitySet alternateKeyName (.str key) inp
      world
    (reply.map fun response => .response response.statusCode, world)

/-! ### The request of a call -/

section Request

variable (client : ODataClient) (entitySet alternateKeyName token : String)

/-- The path of a record. -/
def recordUrl (baseUrl entitySet alternateKeyName key : String) : String :=
  urlPrefix baseUrl entitySet alternateKeyName ++
    String.ofList (PercentEncoding.quote quoteSafe (escapeQuotes key.toList)) ++ "')"

/-- The request that a call makes, if it gets as far as that. -/
def Call.request : Call → Except PyException HttpRequest
  | .upsert key payload => (encodePayload payload).map fun json => .patch
      ⟨"PATCH", recordUrl client.baseUrl entitySet alternateKeyName key, client.getHeaders token,
        json⟩
  | .get key selectFields =>
    .ok (.get (prepareUrl (recordUrl client.baseUrl entitySet alternateKeyName key)
      (selectParam selectFields)))
  | .query options =>
    .ok (.get (prepareUrl (collectionUrl client.baseUrl entitySet) options.params))
  | .delete key => .ok (.delete (recordUrl client.baseUrl entitySet alternateKeyName key))

/-- What a call makes of the response to its request. -/
def Call.read (response : JsonResponse) : Call → Except PyException Reply
  | .upsert _ _ => (raiseForStatus response.toResponse).map fun r => .response r.statusCode
  | .get _ _ => ((raiseForStatus response.toResponse).bind fun _ => response.json).map .body
  | .query _ => ((raiseForStatus response.toResponse).bind fun _ =>
      response.json.bind Body.getValue).map .body
  | .delete _ => (raiseForStatus response.toResponse).map fun r => .response r.statusCode

variable {client entitySet alternateKeyName token} {baseUrl : String}

theorem buildEntityUrl_recordUrl (key : String) :
    buildEntityUrl baseUrl entitySet alternateKeyName (.str key) =
      .ok (recordUrl baseUrl entitySet alternateKeyName key) := rfl

theorem readTarget_recordUrl (key : String) :
    readTarget baseUrl entitySet alternateKeyName
        (recordUrl baseUrl entitySet alternateKeyName key) = some (.record key) :=
  readTarget_buildEntityUrl (buildEntityUrl_recordUrl key)

/-! ### Options, read back -/

theorem optionOf_append (name : String) (params params' : List (String × ParamValue)) :
    optionOf name (arrived (params ++ params')) =
      (optionOf name (arrived params)).or (optionOf name (arrived params')) := by
  rw [arrived, List.map_append, optionOf, List.lookup_append]
  rfl

theorem optionOf_nil (name : String) : optionOf name (arrived []) = none := rfl

theorem optionOf_single (name name' : String) (value : ParamValue) :
    optionOf name (arrived [(name', value)]) = if name = name' then some value.text else none := by
  by_cases hname : name = name'
  · simp [optionOf, arrived, hname]
  · have hlist : name.toList ≠ name'.toList := fun heq => hname (String.toList_inj.1 heq)
    simp [optionOf, arrived, hname, beq_eq_false_iff_ne.2 hlist, List.lookup_cons]

theorem optionOf_textParam (name name' : String) (value : Option String) :
    optionOf name (arrived (textParam name' value)) =
      if name = name' then textOption value else none := by
  cases value with
  | none => simp [textParam, textOption, optionOf_nil]
  | some value =>
    by_cases hvalue : value = ""
    · simp [textParam, textOption, optionOf_nil, hvalue]
    · rw [textParam, textOption, if_neg hvalue, if_neg hvalue, optionOf_single]
      rfl

theorem optionOf_intParam (name name' : String) (value : Option ℤ) :
    optionOf name (arrived (intParam name' value)) =
      if name = name' then value.map Json.encodeInt else none := by
  cases value with
  | none => simp [intParam, optionOf_nil]
  | some value =>
    rw [intParam, optionOf_single]
    rfl

theorem optionOf_selectParam (name : String) (selectFields : Option (List String)) :
    optionOf name (arrived (selectParam selectFields)) =
      if name = "$select" then selectOption selectFields else none := by
  match selectFields with
  | none => simp [selectParam, selectOption, optionOf_nil]
  | some [] => simp [selectParam, selectOption, optionOf_nil]
  | some (field :: fields) =>
    rw [selectParam, optionOf_single]
    rfl

/-- Each option of a query arrives under its own name. -/
theorem optionOf_params (options : QueryOptions) :
    optionOf "$filter" (arrived options.params) = textOption options.odataFilter ∧
      optionOf "$select" (arrived options.params) = selectOption options.selectFields ∧
      optionOf "$top" (arrived options.params) = options.top.map Json.encodeInt ∧
      optionOf "$skip" (arrived options.params) = options.skip.map Json.encodeInt ∧
      optionOf "$orderby" (arrived options.params) = textOption options.orderBy := by
  simp only [QueryOptions.params, optionOf_append, optionOf_textParam, optionOf_intParam,
    optionOf_selectParam]
  simp

/-- A count arrives if it is not negative. -/
theorem nonneg_of_readCount {value : Option ℤ} {count : Option ℕ}
    (h : readCount (value.map Json.encodeInt) = some count) :
    (∀ n ∈ value, 0 ≤ n) ∧ count = value.map Int.toNat := by
  cases value with
  | none =>
    cases h
    exact ⟨by simp, rfl⟩
  | some n =>
    by_cases hneg : n < 0
    · have htext : Json.natValue? (Json.encodeInt n) = none := by
        rw [Json.encodeInt, if_pos hneg]
        simp [Json.natValue?, Json.isNatText, Json.isDigits]
      rw [Option.map_some, readCount, htext] at h
      cases h
    · obtain ⟨m, rfl⟩ := Int.eq_ofNat_of_zero_le (Int.not_lt.1 hneg)
      have htext : Json.natValue? (Json.encodeInt m) = some m := by
        rw [Json.encodeInt, if_neg hneg, Int.natAbs_natCast, Json.natValue?_toDigits]
      rw [Option.map_some, readCount, htext] at h
      cases h
      exact ⟨by simp, rfl⟩

/-! ### A request does what its call says -/

theorem raiseForStatus_of_lt {status : ℕ} (h : status < 400) :
    raiseForStatus ⟨status⟩ = .ok ⟨status⟩ :=
  raiseForStatus_eq_ok.2 ⟨rfl, fun hrange => absurd h (Nat.not_lt.2 hrange.1)⟩

/-- Every method raises for an error status before it looks at the body. -/
theorem Call.read_eq_error (call : Call) {response : JsonResponse} {e : PyException}
    (h : raiseForStatus response.toResponse = .error e) : call.read response = .error e := by
  cases call <;> simp only [read, h, Except.map, Except.bind]

theorem Call.read_of_badRequest (call : Call) {response : JsonResponse}
    (h : response.statusCode = 400) :
    call.read response = .error ⟨.httpError, "400 Client Error"⟩ := by
  refine call.read_eq_error ?_
  change raiseForStatus ⟨response.statusCode⟩ = _
  rw [h]
  rfl

theorem Call.read_of_notFound (call : Call) {response : JsonResponse}
    (h : response.statusCode = 404) :
    call.read response = .error ⟨.httpError, "404 Client Error"⟩ := by
  refine call.read_eq_error ?_
  change raiseForStatus ⟨response.statusCode⟩ = _
  rw [h]
  rfl

/-- Quoting a key writes neither a question mark nor a number sign. -/
theorem isPlain_recordUrl (hplain : IsPlain (urlPrefix baseUrl entitySet alternateKeyName))
    (key : String) : IsPlain (recordUrl baseUrl entitySet alternateKeyName key) := by
  have hquote := encodedText_quote (escapeQuotes key.toList)
  have hnotMem : ∀ c ∈ structural, c ∉ (urlPrefix baseUrl entitySet alternateKeyName).toList →
      c ∉ ['\'', ')'] → c ∉ (recordUrl baseUrl entitySet alternateKeyName key).toList := by
    intro c hc hpre hend
    rw [recordUrl, String.toList_append, String.toList_append, String.toList_ofList]
    simp only [List.mem_append, not_or]
    exact ⟨⟨hpre, hquote.not_mem hc⟩, hend⟩
  exact ⟨hnotMem '?' (by simp [structural]) hplain.query (by simp),
    hnotMem '#' (by simp [structural]) hplain.fragment (by simp)⟩

theorem isPlain_collectionUrl (hplain : IsPlain (urlPrefix baseUrl entitySet alternateKeyName)) :
    IsPlain (collectionUrl baseUrl entitySet) := by
  have hmem : ∀ c ∈ (collectionUrl baseUrl entitySet).toList,
      c ∈ (urlPrefix baseUrl entitySet alternateKeyName).toList := by
    intro c hc
    rw [urlPrefix, String.toList_append, String.toList_append, String.toList_append]
    exact List.mem_append_left _ (List.mem_append_left _ (List.mem_append_left _ hc))
  exact ⟨fun h => hplain.query (hmem _ h), fun h => hplain.fragment (hmem _ h)⟩

end Request

section Serves

variable {baseUrl entitySet alternateKeyName : String} {lang : QueryLanguage} {σ : Type}

/-- A status that no retry policy of the client asks about. -/
def IsSettled (status : ℕ) : Prop := status < 400 ∨ status = 400 ∨ status = 404

/-- Whenever the service serves the request, it does what the call says. -/
structure Service.Serves (service : Service baseUrl entitySet alternateKeyName lang σ) (call : Call)
    (request : HttpRequest) : Prop where
  replied : ∀ s, call.Says lang service.HasWholePages (service.records s)
    (call.read (service.serve request s).1)
  effect : ∀ s, service.records (service.serve request s).2 = call.effect (service.records s)
  settled : ∀ s, IsSettled (service.serve request s).1.statusCode

section Requests

variable {service : Service baseUrl entitySet alternateKeyName lang σ}

theorem Service.serves_upsert {request : Request} {key : String} {payload : Payload}
    (htarget : readTarget baseUrl entitySet alternateKeyName request.url = some (.record key))
    (hjson : encodePayload payload = .ok request.json) :
    service.Serves (.upsert key payload) (.patch request) := by
  have hnodup : (request.json.map Prod.fst).Nodup := by
    rw [fields_of_encodePayload hjson]
    exact payload.nodup_keys
  have hpatched := fun s => service.patched request key s htarget hnodup
  refine ⟨fun s => ?_, fun s => ?_, fun s => .inl (hpatched s).1⟩
  · obtain ⟨hlt, hcreated, -⟩ := hpatched s
    rw [Call.read, raiseForStatus_of_lt hlt]
    exact .upserted hjson hlt hcreated
  · rw [(hpatched s).2.2, Call.effect, hjson]

theorem Service.serves_get {url key : String} {selectFields : Option (List String)}
    (hread : readUrl baseUrl entitySet alternateKeyName url =
      some (.record key, arrived (selectParam selectFields))) :
    service.Serves (.get key selectFields) (.get url) := by
  have hselect := optionOf_selectParam "$select" selectFields
  rw [if_pos rfl] at hselect
  cases hknown : lang.understands (arrived (selectParam selectFields)) with
  | false =>
    have hstatus := fun s => service.misunderstood url _ _ s hread hknown
    refine ⟨fun s => ?_, fun s => service.read url s, fun s => .inr (.inl (hstatus s))⟩
    rw [Call.read_of_badRequest _ (hstatus s)]
    exact .misunderstood rfl hknown
  | true =>
    refine ⟨fun s => ?_, fun s => service.read url s, fun s => ?_⟩
    · cases hrecord : service.records s key with
      | none =>
        rw [Call.read_of_notFound _ (service.notFound url key _ s hread hknown hrecord)]
        exact .notFound hrecord
      | some record =>
        obtain ⟨hstatus, body, hbody, hshown⟩ :=
          service.found url key _ s record hread hknown hrecord
        rw [Call.read, raiseForStatus_of_lt (by rw [hstatus]; decide), Except.bind,
          JsonResponse.json, hbody]
        exact .found hrecord (hselect ▸ hshown)
    · cases hrecord : service.records s key with
      | none => exact .inr (.inr (service.notFound url key _ s hread hknown hrecord))
      | some record =>
        refine .inl ?_
        rw [(service.found url key _ s record hread hknown hrecord).1]
        decide

theorem Service.serves_query {url : String} {options : QueryOptions}
    (hread : readUrl baseUrl entitySet alternateKeyName url =
      some (.collection, arrived options.params)) :
    service.Serves (.query options) (.get url) := by
  cases hknown : lang.understands (arrived options.params) with
  | false =>
    have hstatus := fun s => service.misunderstood url _ _ s hread hknown
    refine ⟨fun s => ?_, fun s => service.read url s, fun s => .inr (.inl (hstatus s))⟩
    rw [Call.read_of_badRequest _ (hstatus s)]
    exact .misunderstood rfl hknown
  | true =>
    have hqueried := fun s => service.queried url _ s hread hknown
    refine ⟨fun s => ?_, fun s => service.read url s, fun s => ?_⟩
    · obtain ⟨hstatus, body, hbody, hanswers⟩ := hqueried s
      obtain ⟨hfilter, hselect, htops, hskips, horder⟩ := optionOf_params options
      cases hanswers with
      | @page top skip entries members shown n htop hskip hlists hvalue hshown hall =>
        rw [hfilter, horder] at hlists
        rw [hselect] at hshown
        rw [htops] at htop
        rw [hskips] at hskip
        obtain ⟨htop', rfl⟩ := nonneg_of_readCount htop
        obtain ⟨hskip', rfl⟩ := nonneg_of_readCount hskip
        have hreply : (Call.query options).read (service.serve (.get url) s).1 =
            .ok (.body (.array shown)) := by
          rw [Call.read, raiseForStatus_of_lt (by rw [hstatus]; decide), Except.bind,
            JsonResponse.json, hbody]
          simp only [Except.bind, Body.getValue, hvalue, Option.getD_some, Except.map]
        rw [hreply]
        exact .queried htop' hskip' hlists hshown fun hwhole =>
          hall.resolve_right (hwhole url _ s members hread hbody)
    · refine .inl ?_
      rw [(hqueried s).1]
      decide

theorem Service.serves_delete {url key : String}
    (htarget : readTarget baseUrl entitySet alternateKeyName url = some (.record key)) :
    service.Serves (.delete key) (.delete url) := by
  have hdeleted := fun s => service.deleted url key s htarget
  refine ⟨fun s => ?_, fun s => (hdeleted s).2, fun s => ?_⟩
  · cases hthere : (service.records s key).isSome with
    | true =>
      have hstatus := (hdeleted s).1
      rw [if_pos hthere] at hstatus
      rw [Call.read, raiseForStatus_of_lt (by rw [hstatus]; decide), hstatus]
      exact .deleted hthere
    | false =>
      have hstatus := (hdeleted s).1
      rw [if_neg (Bool.eq_false_iff.1 hthere)] at hstatus
      rw [Call.read_of_notFound _ hstatus]
      exact .nothingDeleted (Option.isNone_iff_eq_none.1 (by simpa using hthere))
  · rw [(hdeleted s).1]
    split
    · exact .inl (by decide)
    · exact .inr (.inr rfl)

/-- Serving the request of a call does what the call says, and is read as the reply that the call
says. -/
theorem Service.serves_of_request {client : ODataClient} {token : String}
    (hbase : client.baseUrl = baseUrl)
    (hplain : IsPlain (urlPrefix baseUrl entitySet alternateKeyName)) {call : Call}
    {request : HttpRequest}
    (h : call.request client entitySet alternateKeyName token = .ok request) :
    service.Serves call request := by
  subst hbase
  cases call with
  | upsert key payload =>
    cases hjson : encodePayload payload with
    | error e =>
      rw [Call.request, hjson] at h
      cases h
    | ok json =>
      rw [Call.request, hjson] at h
      cases h
      exact service.serves_upsert (readTarget_recordUrl key) hjson
  | get key selectFields =>
    cases h
    exact service.serves_get (readUrl_prepareUrl (selectParam selectFields)
      (isPlain_recordUrl hplain key) (readTarget_recordUrl key))
  | query options =>
    cases h
    exact service.serves_query (readUrl_prepareUrl options.params (isPlain_collectionUrl hplain)
      readTarget_collectionUrl)
  | delete key =>
    cases h
    exact service.serves_delete (readTarget_recordUrl key)

end Requests

end Serves

end Transport
