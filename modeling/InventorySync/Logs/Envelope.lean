import InventorySync.Logs.JsonFormatter
import InventorySync.Sync.FailureReport

/-!
# The envelope of a log line

A log line is one JSON object with the record's own timestamp, level, logger, message and
exception, and with one key per `extra` field. Both share one dictionary, and an `extra` field is
set last: where it has the name of one of the formatter's own keys, the line reports the field's
value as the record's. `Logger.makeRecord` refuses `message` among these names, but not the others.

* `loads_format`: what a reader finds under each key of the line;
* `keepsEnvelope_iff`: when the line has everything the record has;
* `keepsEnvelope_failureLog`: the lines of failed records.
-/

open Python

namespace Logs

variable {ξ : Type}

/-- The object has what the record has. -/
structure HasFields (formatter : JsonFormatter ξ) (record : LogRecord ξ)
    (extra : InsertionDict String LogValue) (object : InsertionDict String Json) : Prop where
  timestamp : object.get? "timestamp" = some (.str (formatter.formatTime record.created))
  level : object.get? "level" = some (.str record.levelname)
  logger : object.get? "logger" = some (.str record.name)
  message : object.get? "message" = some (.str record.message)
  /-- A traceback, exactly with exception info. -/
  exception : object.get? "exception" =
    record.excInfo.map fun info => .str (formatter.formatException info)
  extra : ∀ key value, extra.get? key = some value → object.get? key = some value.toJson

/-- The line is one line, and decodes to an object that has what the record has. -/
structure KeepsEnvelope (formatter : JsonFormatter ξ) (record : LogRecord ξ)
    (extra : InsertionDict String LogValue) (line : String) : Prop where
  singleLine : ∀ c ∈ line.toList, c ≠ '\n' ∧ c ≠ '\r'
  decodes : ∃ object, loads line = some object ∧ HasFields formatter record extra object

/-- An extra field with the name of one of the formatter's keys has that key's value. -/
structure NoClash (formatter : JsonFormatter ξ) (event : LogEvent ξ)
    (extra : InsertionDict String LogValue) : Prop where
  timestamp : ∀ value, extra.get? "timestamp" = some value →
    value.toJson = .str (formatter.formatTime event.created)
  level : ∀ value, extra.get? "level" = some value → value.toJson = .str event.levelname
  logger : ∀ value, extra.get? "logger" = some value → value.toJson = .str event.name
  exception : ∀ value, extra.get? "exception" = some value →
    ∃ info, event.excInfo = some info ∧ value.toJson = .str (formatter.formatException info)

variable {formatter : JsonFormatter ξ} {event : LogEvent ξ} {record : LogRecord ξ}
  {extra : InsertionDict String LogValue}

theorem get?_envelope (record : LogRecord ξ) (key : String) :
    (formatter.envelope record).get? key =
      if key = "exception" then record.excInfo.map fun info => .str (formatter.formatException info)
      else if key = "message" then some (.str record.message)
      else if key = "logger" then some (.str record.name)
      else if key = "level" then some (.str record.levelname)
      else if key = "timestamp" then some (.str (formatter.formatTime record.created))
      else none := by
  unfold JsonFormatter.envelope
  -- the keys in the order in which they are set, the last one first
  cases record.excInfo with
  | some info =>
    simp only [InsertionDict.ofPairs, List.foldl_cons, List.foldl_nil, InsertionDict.get?_set,
      InsertionDict.get?_empty, Option.map_some]
  | none =>
    simp only [InsertionDict.ofPairs, List.foldl_cons, List.foldl_nil, InsertionDict.get?_set,
      InsertionDict.get?_empty, Option.map_none]
    by_cases hkey : key = "exception"
    · simp [hkey]
    · simp [hkey]

/-- What a reader finds under each key of a line. -/
theorem loads_format (formatter : JsonFormatter ξ) (h : makeRecord event extra = .ok record) :
    ∃ object, loads (formatter.format record) = some object ∧
      ∀ key, object.get? key =
        ((extra.get? key).or ((formatter.envelope record).get? key)).map LogValue.toJson := by
  obtain ⟨object, hloads, hobject⟩ := loads_dumps (formatter.payload record)
  refine ⟨object, hloads, fun key => ?_⟩
  rw [hobject, get?_payload formatter h]

/-- A reader finds the value that the formatter wrote under a key exactly if no extra field of that
name has another one. -/
theorem get?_eq_own_iff {object : InsertionDict String Json}
    (hobject : ∀ key, object.get? key =
      ((extra.get? key).or ((formatter.envelope record).get? key)).map LogValue.toJson)
    (key : String) (own : Option Json)
    (hown : ((formatter.envelope record).get? key).map LogValue.toJson = own) :
    object.get? key = own ↔ ∀ value, extra.get? key = some value → own = some value.toJson := by
  rw [hobject]
  cases extra.get? key with
  | none => simp [hown]
  | some value => simp [eq_comm]

/-- A record keeps what it was built from. -/
theorem toLogEvent_of_makeRecord (h : makeRecord event extra = .ok record) :
    record.toLogEvent = event := by
  rw [(eq_of_makeRecord h).2]
  rfl

/-- `message` is no extra field. -/
theorem get?_message_of_makeRecord (h : makeRecord event extra = .ok record) :
    extra.get? "message" = none := by
  rw [InsertionDict.get?_eq_none_iff]
  intro hkey
  have hfree := (eq_of_makeRecord h).1 "message" hkey
  simp [isReservedKey] at hfree

/-- The object that a reader makes of the line has what the record has exactly when no extra field
takes the place of another value. -/
theorem hasFields_iff (h : makeRecord event extra = .ok record)
    {object : InsertionDict String Json}
    (hobject : ∀ key, object.get? key =
      ((extra.get? key).or ((formatter.envelope record).get? key)).map LogValue.toJson) :
    HasFields formatter record extra object ↔ NoClash formatter event extra := by
  obtain rfl := toLogEvent_of_makeRecord h
  have htimestamp := get?_eq_own_iff hobject "timestamp"
    (some (.str (formatter.formatTime record.created)))
    (by simp [get?_envelope, LogValue.toJson])
  have hlevel := get?_eq_own_iff hobject "level" (some (.str record.levelname))
    (by simp [get?_envelope, LogValue.toJson])
  have hlogger := get?_eq_own_iff hobject "logger" (some (.str record.name))
    (by simp [get?_envelope, LogValue.toJson])
  have hexception := get?_eq_own_iff hobject "exception"
    (record.excInfo.map fun info => .str (formatter.formatException info))
    (by simp [get?_envelope, LogValue.toJson, Function.comp_def])
  constructor
  · intro hfields
    refine ⟨fun value hvalue => ?_, fun value hvalue => ?_, fun value hvalue => ?_,
      fun value hvalue => ?_⟩
    · exact (Option.some.inj (htimestamp.1 hfields.timestamp value hvalue)).symm
    · exact (Option.some.inj (hlevel.1 hfields.level value hvalue)).symm
    · exact (Option.some.inj (hlogger.1 hfields.logger value hvalue)).symm
    · obtain ⟨info, hinfo, hjson⟩ :=
        Option.map_eq_some_iff.1 (hexception.1 hfields.exception value hvalue)
      exact ⟨info, hinfo, hjson.symm⟩
  · intro hclash
    refine ⟨?_, ?_, ?_, ?_, ?_, ?_⟩
    · exact htimestamp.2 fun value hvalue => by rw [hclash.timestamp value hvalue]
    · exact hlevel.2 fun value hvalue => by rw [hclash.level value hvalue]
    · exact hlogger.2 fun value hvalue => by rw [hclash.logger value hvalue]
    · -- the one key of the formatter that is reserved
      rw [hobject, get?_message_of_makeRecord h]
      simp [get?_envelope, LogValue.toJson]
    · refine hexception.2 fun value hvalue => ?_
      obtain ⟨info, hinfo, hjson⟩ := hclash.exception value hvalue
      rw [hinfo, hjson, Option.map_some]
    · intro key value hvalue
      rw [hobject, hvalue, Option.some_or, Option.map_some]

/-- Every line is one line. -/
theorem singleLine_dumps (payload : InsertionDict String LogValue) :
    ∀ c ∈ (dumps payload).toList, c ≠ '\n' ∧ c ≠ '\r' := by
  intro c hc
  have hprintable := Json.isPrintable_encode _ c hc
  constructor
  · rintro rfl
    revert hprintable
    decide
  · rintro rfl
    revert hprintable
    decide

theorem keepsEnvelope_of_noClash (h : makeRecord event extra = .ok record)
    (hclash : NoClash formatter event extra) :
    KeepsEnvelope formatter record extra (formatter.format record) := by
  obtain ⟨object, hloads, hobject⟩ := loads_format formatter h
  exact ⟨singleLine_dumps _, object, hloads, (hasFields_iff h hobject).2 hclash⟩

theorem noClash_of_keepsEnvelope (h : makeRecord event extra = .ok record)
    (hkeeps : KeepsEnvelope formatter record extra (formatter.format record)) :
    NoClash formatter event extra := by
  obtain ⟨object, hloads, hobject⟩ := loads_format formatter h
  obtain ⟨object', hloads', hfields⟩ := hkeeps.decodes
  obtain rfl := Option.some.inj (hloads.symm.trans hloads')
  exact (hasFields_iff h hobject).1 hfields

/-- A log line keeps its envelope and its extra fields exactly when no extra field with the name
of one of the formatter's keys has another value. -/
theorem keepsEnvelope_iff (formatter : JsonFormatter ξ) (event : LogEvent ξ)
    (extra : InsertionDict String LogValue) (record : LogRecord ξ)
    (h : makeRecord event extra = .ok record) :
    KeepsEnvelope formatter record extra (formatter.format record) ↔
      NoClash formatter event extra :=
  ⟨noClash_of_keepsEnvelope h, keepsEnvelope_of_noClash h⟩

/-- The key of a failed record and its exception are accepted under the key column's name. -/
theorem isReservedKey_of_keys {keyColumn : String}
    (hkeys : ∀ name ∈ extra.keys, name = keyColumn ∨ name = "exception_type")
    (hreserved : isReservedKey keyColumn = false) :
    ∀ name ∈ extra.keys, isReservedKey name = false := by
  intro name hname
  rcases hkeys name hname with rfl | rfl
  · exact hreserved
  · rfl

theorem noClash_of_keys {keyColumn : String}
    (hkeys : ∀ name ∈ extra.keys, name = keyColumn ∨ name = "exception_type")
    (hname : keyColumn ∉ ["timestamp", "level", "logger", "exception"]) :
    NoClash formatter event extra := by
  have hnone : ∀ name ∈ ["timestamp", "level", "logger", "exception"],
      extra.get? name = none := by
    intro name hmem
    rw [InsertionDict.get?_eq_none_iff]
    intro hkey
    -- neither the key column nor `exception_type` is one of the four
    rcases hkeys name hkey with rfl | rfl
    · exact hname hmem
    · simp at hmem
  refine ⟨?_, ?_, ?_, ?_⟩
  all_goals
    intro value hvalue
    rw [hnone _ (by simp)] at hvalue
    cases hvalue

/-- A formatter in a zone without an offset. -/
def utcFormatter : JsonFormatter Unit := ⟨fun _ => "1970-01-01T00:00:00+0000", fun _ => "None"⟩

/-- The report of a failed record whose key column has the given name. -/
def failedEvent (keyColumn : String) : LogEvent Unit where
  name := "lag_service_kit.runners.odata"
  levelname := "ERROR"
  message := "FAILED " ++ keyColumn ++ "=A-1: HTTPError: 400"
  created := 0
  excInfo := none
  standard := fun _ => .none

def failedExtra (keyColumn : String) : InsertionDict String LogValue :=
  .ofPairs [(keyColumn, .str "A-1"), ("exception_type", .str "HTTPError")]

theorem mem_keys_failedExtra (keyColumn : String) :
    ∀ name ∈ (failedExtra keyColumn).keys, name = keyColumn ∨ name = "exception_type" := by
  intro name hname
  rw [failedExtra, InsertionDict.keys_ofPairs, List.mem_eraseDups] at hname
  simpa using hname

theorem keepsEnvelope_skuId :
    ∃ record, makeRecord (failedEvent "sku_id") (failedExtra "sku_id") = .ok record ∧
      KeepsEnvelope utcFormatter record (failedExtra "sku_id") (utcFormatter.format record) := by
  have hkeys := mem_keys_failedExtra "sku_id"
  have hrecord := makeRecord_of_free (failedEvent "sku_id") (isReservedKey_of_keys hkeys rfl)
  have hclash : NoClash utcFormatter (failedEvent "sku_id") (failedExtra "sku_id") :=
    noClash_of_keys hkeys (by simp)
  exact ⟨_, hrecord, (keepsEnvelope_iff utcFormatter _ _ _ hrecord).2 hclash⟩

/-- A key column called `level` takes the place of the level. -/
theorem not_keepsEnvelope_level :
    ∃ record, makeRecord (failedEvent "level") (failedExtra "level") = .ok record ∧
      ¬ KeepsEnvelope utcFormatter record (failedExtra "level") (utcFormatter.format record) := by
  have hkeys := mem_keys_failedExtra "level"
  have hrecord := makeRecord_of_free (failedEvent "level") (isReservedKey_of_keys hkeys rfl)
  refine ⟨_, hrecord, fun hkeeps => ?_⟩
  have hlevel := (noClash_of_keepsEnvelope hrecord hkeeps).level (.str "A-1") rfl
  simp [LogValue.toJson, failedEvent] at hlevel

/-- The lines of failed records keep their envelope where the key column has none of the names that
the log record or the formatter uses. -/
theorem keepsEnvelope_failureLog (formatter : JsonFormatter ξ) (event : LogEvent ξ)
    {runner : Sync.BaseODataSyncRunner} {key : PyValue} {e : PyException}
    (hextra : extra.keys = (runner.failureLog key e).extra.keys)
    (hreserved : isReservedKey runner.dedupeKey = false)
    (hname : runner.dedupeKey ∉ ["timestamp", "level", "logger", "exception"]) :
    ∃ record, makeRecord event extra = .ok record ∧
      KeepsEnvelope formatter record extra (formatter.format record) := by
  have hkeys : ∀ name ∈ extra.keys, name = runner.dedupeKey ∨ name = "exception_type" := by
    intro name hmem
    rw [hextra, Sync.BaseODataSyncRunner.failureLog, InsertionDict.keys_ofPairs,
      List.mem_eraseDups] at hmem
    simpa using hmem
  have hrecord := makeRecord_of_free event (isReservedKey_of_keys hkeys hreserved)
  exact ⟨_, hrecord, keepsEnvelope_of_noClash hrecord (noClash_of_keys hkeys hname)⟩

end Logs
