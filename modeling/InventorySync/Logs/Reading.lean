import InventorySync.Logs.Envelope
import InventorySync.Sync.LogLines

/-!
# Reading the log

What a reader of the service's output learns from its lines, whatever their timestamps and messages:
the key of a failed record, that the breaker tripped, and the counts of the summary. Each of the
three is told from the fields that the call sites attach with `extra`, which the formatter writes
under their own names.

* `Renders`: the lines that a logging call may be written as;
* `failedKey`, `tellsTrip`, `reported`: what a reader makes of a line;
* `failedKey_of_failureLog`, `tellsTrip_of_tripLog`, `reported_of_summary`: the lines of a run.
-/

open Python Sync

namespace Logs

variable {ξ : Type} {formatter : JsonFormatter ξ} {call : LogCall} {line : String}

/-! ### Lines of a call -/

/-- What a value of an `extra` mapping is as an attribute of the record. -/
inductive Carries : PyValue → LogValue → Prop
  | str (s : String) : Carries (.str s) (.str s)
  | int (n : ℤ) (h : (Nat.toDigits 10 n.natAbs).length ≤ 4300) : Carries (.int n) (.int n h)
  | bool (b : Bool) : Carries (.bool b) (.bool b)
  | none : Carries .none .none

/-- An entry of the mapping and what it becomes. -/
def SameField (field : String × PyValue) (entry : String × LogValue) : Prop :=
  field.1 = entry.1 ∧ Carries field.2 entry.2

/-- The line is what the formatter makes of a record of the call: any record with its fields. -/
def Renders (formatter : JsonFormatter ξ) (call : LogCall) (line : String) : Prop :=
  ∃ (event : LogEvent ξ) (extra : InsertionDict String LogValue) (record : LogRecord ξ),
    List.Forall₂ SameField call.extra.entries extra.entries ∧
      makeRecord event extra = .ok record ∧ line = formatter.format record

theorem map_fst_of_forall₂ {es : List (String × PyValue)} {es' : List (String × LogValue)}
    (h : List.Forall₂ SameField es es') :
    es'.map Prod.fst = es.map Prod.fst := by
  induction h with
  | nil => rfl
  | cons hhead _ ih => rw [List.map_cons, List.map_cons, ih, hhead.1]

theorem exists_lookup_of_forall₂ {es : List (String × PyValue)} {es' : List (String × LogValue)}
    (h : List.Forall₂ SameField es es') {name : String}
    {value : PyValue} (hget : es.lookup name = some value) :
    ∃ value', Carries value value' ∧ es'.lookup name = some value' := by
  induction h with
  | nil => cases hget
  | @cons e e' es es' hhead _ ih =>
    obtain ⟨key, v⟩ := e
    obtain ⟨key', v'⟩ := e'
    obtain ⟨rfl, hvalue⟩ := hhead
    by_cases hname : name = key
    · subst hname
      rw [List.lookup_cons_self, Option.some.injEq] at hget
      subst hget
      exact ⟨v', hvalue, List.lookup_cons_self⟩
    · rw [List.lookup_cons, beq_eq_false_iff_ne.2 hname] at hget ⊢
      exact ih hget

/-- A call whose fields have no reserved names and can be written has a line. -/
theorem exists_renders (formatter : JsonFormatter ξ) (event : LogEvent ξ)
    {fields : List (String × PyValue)} (hextra : call.extra = .ofPairs fields)
    (hfields : ∀ name value, (name, value) ∈ fields →
      isReservedKey name = false ∧ ∃ value', Carries value value') :
    ∃ line, Renders formatter call line := by
  have hcarried : ∀ es : List (String × PyValue), (∀ e ∈ es, ∃ value, Carries e.2 value) →
      ∃ es', List.Forall₂ SameField es es' := by
    intro es hes
    induction es with
    | nil => exact ⟨[], .nil⟩
    | cons e es ih =>
      rw [List.forall_mem_cons] at hes
      obtain ⟨value, hvalue⟩ := hes.1
      obtain ⟨es', hrest⟩ := ih hes.2
      exact ⟨(e.1, value) :: es', .cons ⟨rfl, hvalue⟩ hrest⟩
  have hentries : ∀ e ∈ call.extra.entries, e ∈ fields := by
    rw [hextra]
    exact fun e he => InsertionDict.mem_of_mem_entries_ofPairs he
  obtain ⟨es', hes⟩ := hcarried call.extra.entries fun e he => (hfields e.1 e.2 (hentries e he)).2
  have hkeys := map_fst_of_forall₂ hes
  let extra : InsertionDict String LogValue := ⟨es', hkeys ▸ call.extra.nodup_keys⟩
  have hfree : ∀ key ∈ extra.keys, isReservedKey key = false := by
    intro key hkey
    change key ∈ es'.map Prod.fst at hkey
    rw [hkeys] at hkey
    obtain ⟨e, he, rfl⟩ := List.mem_map.1 hkey
    exact (hfields e.1 e.2 (hentries e he)).1
  exact ⟨_, event, extra, _, hes, makeRecord_of_free event hfree, rfl⟩

/-! ### What a reader makes of a line -/

/-- A field of the object that a line is. -/
def field (name line : String) : Option Json := (loads line).bind fun object => object.get? name

/-- The key of the record that a line reports as failed. -/
def failedKey (keyColumn line : String) : Option String :=
  match field "exception_type" line, field keyColumn line with
  | some _, some (.str key) => some key
  | _, _ => none

/-- The line reports the trip of the breaker. -/
def tellsTrip (line : String) : Bool :=
  (field "exception_type" line).isNone && (field "failure_threshold" line).isSome

/-- The number that a line reports under a name. -/
def reported (name line : String) : Option ℤ :=
  match field name line with
  | some (.number (.int n)) => some n
  | _ => none

/-- Every field of the call is read back from its line. -/
theorem exists_field_of_renders (h : Renders formatter call line) {name : String} {value : PyValue}
    (hget : call.extra.get? name = some value) :
    ∃ value', Carries value value' ∧ field name line = some value'.toJson := by
  obtain ⟨event, extra, record, hes, hrecord, rfl⟩ := h
  obtain ⟨object, hloads, hobject⟩ := loads_format formatter hrecord
  obtain ⟨value', hvalue, hlookup⟩ := exists_lookup_of_forall₂ hes hget
  refine ⟨value', hvalue, ?_⟩
  rw [field, hloads, Option.bind_some, hobject, InsertionDict.get?, hlookup]
  rfl

/-- Besides, there are only the keys that the formatter sets itself. -/
theorem field_eq_none_of_renders (h : Renders formatter call line) {name : String}
    (hget : name ∉ call.extra.keys)
    (hname : name ∉ ["timestamp", "level", "logger", "message", "exception"]) :
    field name line = none := by
  obtain ⟨event, extra, record, hes, hrecord, rfl⟩ := h
  obtain ⟨object, hloads, hobject⟩ := loads_format formatter hrecord
  have hextra : extra.get? name = none := by
    rw [InsertionDict.get?_eq_none_iff, InsertionDict.keys, map_fst_of_forall₂ hes]
    exact hget
  have henvelope : (formatter.envelope record).get? name = none := by
    simp only [List.mem_cons, List.not_mem_nil, or_false, not_or] at hname
    obtain ⟨h1, h2, h3, h4, h5⟩ := hname
    rw [get?_envelope, if_neg h5, if_neg h4, if_neg h3, if_neg h2, if_neg h1]
  rw [field, hloads, Option.bind_some, hobject, hextra, henvelope]
  rfl

theorem failedKey_of_not_isFailureLine (h : Renders formatter call line)
    (hcall : isFailureLine call = false) (keyColumn : String) :
    failedKey keyColumn line = none := by
  have hnot : "exception_type" ∉ call.extra.keys := by
    simpa [isFailureLine] using hcall
  rw [failedKey, field_eq_none_of_renders h hnot (by simp)]

/-- A line tells of the trip exactly if it is the line of the trip. -/
theorem tellsTrip_of_renders (h : Renders formatter call line) :
    tellsTrip line = isTripLine call := by
  have hread : ∀ name ∉ ["timestamp", "level", "logger", "message", "exception"],
      (field name line).isSome = call.extra.keys.contains name := by
    intro name hname
    by_cases hmem : name ∈ call.extra.keys
    · obtain ⟨value, hvalue⟩ := Option.ne_none_iff_exists'.1
        (mt InsertionDict.get?_eq_none_iff.1 (not_not.2 hmem))
      obtain ⟨value', -, hfield⟩ := exists_field_of_renders h hvalue
      rw [hfield, List.contains_iff_mem.2 hmem]
      rfl
    · rw [field_eq_none_of_renders h hmem hname, Option.isSome_none, eq_comm, Bool.eq_false_iff,
        ne_eq, List.contains_iff_mem]
      exact hmem
  rw [tellsTrip, isTripLine, isFailureLine, ← hread _ (by simp), ← hread _ (by simp),
    Option.not_isSome]

/-! ### The lines of a run -/

/-- The line of a failed record names its key, unless the key column is called like the field that
stands beside it. -/
theorem failedKey_of_failureLog {runner : BaseODataSyncRunner} {text : String} {e : PyException}
    (h : Renders formatter (runner.failureLog (.str text) e) line)
    (hname : runner.dedupeKey ≠ "exception_type") :
    failedKey runner.dedupeKey line = some text := by
  have htype : (runner.failureLog (.str text) e).extra.get? "exception_type" =
      some (.str e.cls.name) := by
    rw [BaseODataSyncRunner.get?_failureLog, if_pos rfl]
  have hkey : (runner.failureLog (.str text) e).extra.get? runner.dedupeKey = some (.str text) := by
    rw [BaseODataSyncRunner.get?_failureLog, if_neg hname, if_pos rfl]
  obtain ⟨_, -, hread⟩ := exists_field_of_renders h htype
  obtain ⟨_, ⟨⟩, hreadKey⟩ := exists_field_of_renders h hkey
  rw [failedKey, hread, hreadKey]
  rfl

/-- The summary reports each count under its name. -/
theorem reported_of_summary {result : InsertionDict String ℕ} {total created updated failed : ℕ}
    (h : Renders formatter (BaseSyncRunner.summary result total created updated failed) line)
    {name : String} {n : ℕ}
    (hget : (BaseSyncRunner.summary result total created updated failed).extra.get? name =
      some (.int n)) :
    reported name line = some (n : ℤ) := by
  obtain ⟨_, ⟨⟩, hread⟩ := exists_field_of_renders h hget
  rw [reported, hread]
  rfl

end Logs
