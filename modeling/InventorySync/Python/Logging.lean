import InventorySync.Foundations.InsertionDict
import InventorySync.Python.Values

/-!
# Logging calls

One call of `Logger.error`, `Logger.exception` or `Logger.info`, and what it can raise. The values
of `extra` become attributes of the log record, and `Logger.makeRecord` refuses a key that would
overwrite an attribute the record already has. Handlers do not raise, so this is the only way in
which a logging call fails.
-/

namespace Python

/-- The arguments of one logging call. -/
structure LogCall where
  /-- The format string. -/
  msg : String
  /-- The arguments the format string is filled with. -/
  args : List PyValue
  /-- The `extra` mapping. -/
  extra : InsertionDict String PyValue

/-- The attributes every `LogRecord` has. -/
def logRecordAttributes : List String :=
  ["name", "msg", "args", "levelname", "levelno", "pathname", "filename", "module", "exc_info",
    "exc_text", "stack_info", "lineno", "funcName", "created", "msecs", "relativeCreated", "thread",
    "threadName", "processName", "process", "taskName"]

/-- `key in ["message", "asctime"] or key in rv.__dict__` -/
def isReservedKey (key : String) : Bool :=
  ["message", "asctime"].contains key || logRecordAttributes.contains key

/-- A mapping is accepted exactly if none of its keys is reserved. -/
theorem find?_isReservedKey_eq_none_iff {keys : List String} :
    keys.find? isReservedKey = none ↔ ∀ key ∈ keys, isReservedKey key = false := by
  rw [List.find?_eq_none]
  exact forall₂_congr fun key _ => Bool.eq_false_iff.symm

/-- What `Logger.makeRecord` raises, if anything. -/
def makeRecord (call : LogCall) : Except PyException Unit :=
  match call.extra.keys.find? isReservedKey with
  | some key => .error ⟨.keyError, "Attempt to overwrite '" ++ key ++ "' in LogRecord"⟩
  | none => .ok ()

/-- A logger: what each logging call on it raises, if anything. -/
structure Logger where
  log : LogCall → Except PyException Unit
  /-- A call without a reserved key does not raise. -/
  log_ok : ∀ call, (∀ key ∈ call.extra.keys, isReservedKey key = false) → log call = .ok ()

/-- The standard logger with the call's level enabled. -/
def standardLogger : Logger where
  log := makeRecord
  log_ok := by
    intro call hkeys
    simp [makeRecord, find?_isReservedKey_eq_none_iff.2 hkeys]

end Python
