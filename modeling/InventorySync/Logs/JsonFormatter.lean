import Mathlib.Data.Rat.Defs
import InventorySync.Foundations.InsertionDict
import InventorySync.Foundations.Json
import InventorySync.Python.Exceptions
import InventorySync.Python.Logging

/-!
# Log records as JSON lines

`logging.py`: the log record that `Logger.makeRecord` builds from a logging call and its `extra`
mapping, and the line that `JsonFormatter.format` renders it as. The formatter puts its own four or
five keys into a dictionary and then sets every attribute of the record that is not a standard one.

* `makeRecord_eq`: the mappings that become attributes of a record, and the errors of the others;
* `get?_payload`: what the formatter writes under each key;
* `loads_dumps`: what a reader of the line gets back.
-/

open Python

namespace Logs

/-- A value that `json.dumps` can write, or an object of any other type, which it writes as the
text that `str` gives for it. -/
inductive LogValue
  | none
  | bool (b : Bool)
  /-- An integer that has no more digits than `int.__repr__` writes. -/
  | int (n : ℤ) (h : (Nat.toDigits 10 n.natAbs).length ≤ 4300)
  /-- A finite float, as `float.__repr__` writes it. -/
  | float (f : Json.FloatLiteral)
  | str (s : String)
  /-- A `list` or a `tuple`. -/
  | list (items : List LogValue)
  | dict (items : List (String × LogValue))
  | other (text : String)

namespace LogValue

mutual

/-- The JSON value that is written for a value, with `default=str`. -/
def toJson : LogValue → Json
  | .none => .null
  | .bool b => .bool b
  | .int n _ => .number (.int n)
  | .float f => .number (.float f)
  | .str s => .str s
  | .list items => .array (toJsonItems items)
  | .dict items => .object (toJsonMembers items)
  | .other text => .str text

def toJsonItems : List LogValue → List Json
  | [] => []
  | v :: vs => v.toJson :: toJsonItems vs

def toJsonMembers : List (String × LogValue) → List (String × Json)
  | [] => []
  | (k, v) :: es => (k, v.toJson) :: toJsonMembers es

end

end LogValue

/-- `json.dumps(payload, default=str)` -/
def dumps (payload : InsertionDict String LogValue) : String :=
  Json.encode (.object (payload.entries.map (Prod.map id LogValue.toJson)))

/-- The dictionary that a reader makes of a line, if the line is one JSON object. -/
def loads (line : String) : Option (InsertionDict String Json) :=
  match Json.decode line with
  | some (.object members) => some (.ofPairs members)
  | _ => none

variable {ξ : Type}

/-- What a log record is built from. Exception info is of type `ξ`. -/
structure LogEvent (ξ : Type) where
  name : String
  levelname : String
  /-- What `getMessage()` returns: the format string filled with its arguments. -/
  message : String
  created : ℚ
  /-- `exc_info`, unless it is falsy. -/
  excInfo : Option ξ
  /-- The values of the attributes every record has. -/
  standard : String → LogValue

/-- A `LogRecord`. -/
structure LogRecord (ξ : Type) extends LogEvent ξ where
  /-- `__dict__` -/
  dict : InsertionDict String LogValue

/-- `logging.LogRecord(...)` -/
def LogEvent.record (event : LogEvent ξ) : LogRecord ξ where
  toLogEvent := event
  dict := .ofPairs (logRecordAttributes.map fun key => (key, event.standard key))

/-- One turn of the loop over `extra` in `Logger.makeRecord`. -/
def LogRecord.addExtra (record : LogRecord ξ) (e : String × LogValue) :
    Except PyException (LogRecord ξ) :=
  if ["message", "asctime"].contains e.1 || record.dict.keys.contains e.1 then
    .error ⟨.keyError, "Attempt to overwrite '" ++ e.1 ++ "' in LogRecord"⟩
  else .ok { record with dict := record.dict.set e.1 e.2 }

/-- `Logger.makeRecord` -/
def makeRecord (event : LogEvent ξ) (extra : InsertionDict String LogValue) :
    Except PyException (LogRecord ξ) :=
  extra.entries.foldlM LogRecord.addExtra event.record

/-- `_STANDARD_RECORD_ATTRS`, from a throwaway record. -/
def standardRecordAttrs : List String :=
  let throwaway : LogEvent Unit := ⟨"", "NOTSET", "", 0, none, fun _ => .none⟩
  throwaway.record.dict.keys ++ ["message", "asctime"]

/-- A `JsonFormatter`, with the methods it has from `logging.Formatter`. -/
structure JsonFormatter (ξ : Type) where
  /-- `formatTime(record, self.datefmt)`, which reads `record.created`. -/
  formatTime : ℚ → String
  formatException : ξ → String

namespace JsonFormatter

variable (formatter : JsonFormatter ξ)

/-- The keys that the formatter sets itself. -/
def envelope (record : LogRecord ξ) : InsertionDict String LogValue :=
  let payload : InsertionDict String LogValue := .ofPairs
    [("timestamp", .str (formatter.formatTime record.created)),
      ("level", .str record.levelname),
      ("logger", .str record.name),
      ("message", .str record.message)]
  match record.excInfo with
  | some info => payload.set "exception" (.str (formatter.formatException info))
  | none => payload

/-- The dictionary that is written. -/
def payload (record : LogRecord ξ) : InsertionDict String LogValue :=
  record.dict.entries.foldl
    (fun payload e => if standardRecordAttrs.contains e.1 then payload else payload.set e.1 e.2)
    (formatter.envelope record)

/-- `JsonFormatter.format` -/
def format (record : LogRecord ξ) : String := dumps (formatter.payload record)

end JsonFormatter

theorem keys_record (event : LogEvent ξ) : event.record.dict.keys = logRecordAttributes := by
  have hmap : (logRecordAttributes.map fun key => (key, event.standard key)).map Prod.fst =
      logRecordAttributes := by
    simp [Function.comp_def]
  have hnodup : logRecordAttributes.eraseDups = logRecordAttributes := by decide
  rw [LogEvent.record, InsertionDict.keys_ofPairs, hmap, hnodup]

/-- The formatter leaves out exactly the attributes that no `extra` key may overwrite. -/
theorem contains_standardRecordAttrs (key : String) :
    standardRecordAttrs.contains key = isReservedKey key := by
  rw [Bool.eq_iff_iff, standardRecordAttrs, keys_record, isReservedKey]
  simp only [List.contains_iff_mem, List.mem_append, Bool.or_eq_true]
  exact or_comm

/-- One `extra` key is refused exactly where it is reserved, while the record has no other key than
the standard ones and the ones before it. -/
theorem addExtra_eq {record : LogRecord ξ} {before : List String} {e : String × LogValue}
    (hkeys : record.dict.keys = logRecordAttributes ++ before) (hnew : e.1 ∉ before) :
    record.addExtra e =
      if isReservedKey e.1 = true then
        .error ⟨.keyError, "Attempt to overwrite '" ++ e.1 ++ "' in LogRecord"⟩
      else .ok { record with dict := record.dict.set e.1 e.2 } := by
  have hcond : (["message", "asctime"].contains e.1 || record.dict.keys.contains e.1) =
      isReservedKey e.1 := by
    rw [hkeys, isReservedKey, Bool.eq_iff_iff]
    simp [hnew]
  rw [LogRecord.addExtra, hcond]

/-- The loop over `extra` stops at the first reserved key. -/
theorem foldlM_addExtra {es : List (String × LogValue)} (hnodup : (es.map Prod.fst).Nodup)
    {record : LogRecord ξ} {before : List String}
    (hkeys : record.dict.keys = logRecordAttributes ++ before)
    (hnew : ∀ key ∈ es.map Prod.fst, key ∉ before) :
    es.foldlM LogRecord.addExtra record =
      match (es.map Prod.fst).find? isReservedKey with
      | some key => .error ⟨.keyError, "Attempt to overwrite '" ++ key ++ "' in LogRecord"⟩
      | none => .ok { record with dict := es.foldl (fun d e => d.set e.1 e.2) record.dict } := by
  induction es generalizing record before with
  | nil => rfl
  | cons e es ih =>
    obtain ⟨hhead, htail⟩ := List.nodup_cons.1 hnodup
    have he : e.1 ∉ before := hnew e.1 (by simp)
    rw [List.foldlM_cons, addExtra_eq hkeys he, List.map_cons, List.find?_cons]
    cases hreserved : isReservedKey e.1 with
    | true => rfl
    | false =>
      -- the key is a new one, behind the ones that are there
      have hset : ({ record with dict := record.dict.set e.1 e.2 } : LogRecord ξ).dict.keys =
          logRecordAttributes ++ (before ++ [e.1]) := by
        have hfree : e.1 ∉ record.dict.keys := by
          rw [hkeys, List.mem_append]
          rintro (hmem | hmem)
          · simp [isReservedKey, hmem] at hreserved
          · exact he hmem
        rw [InsertionDict.keys_set, if_neg hfree, hkeys, List.append_assoc]
      have hrest : ∀ key ∈ es.map Prod.fst, key ∉ before ++ [e.1] := by
        intro key hkey hmem
        rcases List.mem_append.1 hmem with hmem | hmem
        · exact hnew key (List.mem_cons_of_mem _ hkey) hmem
        · exact hhead (List.mem_singleton.1 hmem ▸ hkey)
      exact ih htail hset hrest

/-- The mappings without a reserved key become attributes of the record. -/
theorem makeRecord_eq (event : LogEvent ξ) (extra : InsertionDict String LogValue) :
    makeRecord event extra =
      match extra.keys.find? isReservedKey with
      | some key => .error ⟨.keyError, "Attempt to overwrite '" ++ key ++ "' in LogRecord"⟩
      | none => .ok { event.record with dict := event.record.dict.update extra } :=
  foldlM_addExtra extra.nodup_keys ((keys_record event).trans (List.append_nil _).symm)
    fun _ _ => List.not_mem_nil

/-- The record that an accepted mapping gives. -/
theorem eq_of_makeRecord {event : LogEvent ξ} {extra : InsertionDict String LogValue}
    {record : LogRecord ξ} (h : makeRecord event extra = .ok record) :
    (∀ key ∈ extra.keys, isReservedKey key = false) ∧
      record = { event.record with dict := event.record.dict.update extra } := by
  rw [makeRecord_eq] at h
  cases hfind : extra.keys.find? isReservedKey with
  | some key => simp [hfind] at h
  | none =>
    rw [hfind] at h
    exact ⟨find?_isReservedKey_eq_none_iff.1 hfind, (Except.ok.inj h).symm⟩

theorem makeRecord_of_free (event : LogEvent ξ) {extra : InsertionDict String LogValue}
    (h : ∀ key ∈ extra.keys, isReservedKey key = false) :
    makeRecord event extra =
      .ok { event.record with dict := event.record.dict.update extra } := by
  rw [makeRecord_eq, find?_isReservedKey_eq_none_iff.2 h]

/-- What is written has the extra values in front of the formatter's own. -/
theorem get?_payload (formatter : JsonFormatter ξ) {event : LogEvent ξ}
    {extra : InsertionDict String LogValue} {record : LogRecord ξ}
    (h : makeRecord event extra = .ok record) (key : String) :
    (formatter.payload record).get? key =
      (extra.get? key).or ((formatter.envelope record).get? key) := by
  obtain ⟨hfree, hrecord⟩ := eq_of_makeRecord h
  have hdict : record.dict.get? key = (extra.get? key).or (event.record.dict.get? key) := by
    rw [hrecord]
    exact InsertionDict.get?_update event.record.dict extra key
  rw [JsonFormatter.payload,
    InsertionDict.get?_foldl_set_unless standardRecordAttrs.contains record.dict.nodup_keys,
    contains_standardRecordAttrs]
  change (if isReservedKey key = true then _ else (record.dict.get? key).or _) = _
  rw [hdict]
  cases hreserved : isReservedKey key with
  | true =>
    -- a reserved key is no key of the mapping
    have hnone : extra.get? key = none := by
      rw [InsertionDict.get?_eq_none_iff]
      intro hkey
      rw [hfree key hkey] at hreserved
      cases hreserved
    simp [hnone]
  | false =>
    have hnone : event.record.dict.get? key = none := by
      rw [InsertionDict.get?_eq_none_iff, keys_record]
      intro hkey
      simp [isReservedKey, hkey] at hreserved
    simp [hnone]

/-- A reader of the line gets back what was written. -/
theorem loads_dumps (payload : InsertionDict String LogValue) :
    ∃ object, loads (dumps payload) = some object ∧
      ∀ key, object.get? key = (payload.get? key).map LogValue.toJson := by
  refine ⟨.ofPairs (payload.entries.map (Prod.map id LogValue.toJson)), ?_, ?_⟩
  · rw [loads, dumps, Json.decode_encode]
  · exact InsertionDict.get?_ofPairs_map_snd LogValue.toJson payload

end Logs
