import InventorySync.Sync.RunEffect

/-!
# The record of a row

What the request for a row writes: the fields are those that columns are mapped to, whatever the row
is, and each holds the value of its column as JSON.

* `eq_none_iff_of_requestOf`: which fields there are;
* `exists_encoded_of_requestOf`: and what they hold.
-/

open Python Pandas Transport PatchStore

namespace Sync

/-- What a row is sent as is its payload. -/
theorem exists_of_requestOf {self : BaseODataSyncRunner} {row : NamedTuple} {key : String}
    {record : Record String JsonValue} (h : self.requestOf row = some (key, record)) :
    ∃ payload json, self.buildPayload row = .ok payload ∧ encodePayload payload = .ok json ∧
      record = bodyRecord json := by
  unfold BaseODataSyncRunner.requestOf at h
  split at h
  next hkey hpayload =>
    split at h
    next hjson =>
      cases h
      exact ⟨_, _, hpayload, hjson, rfl⟩
    next => cases h
  next => cases h

/-- A payload holds what was read of each mapped column. -/
theorem eq_ofPairs_of_buildPayload {fieldMapping : InsertionDict String String} {row : NamedTuple}
    {payload : Payload} (h : buildPayload fieldMapping row = .ok payload) :
    payload = InsertionDict.ofPairs (fieldMapping.entries.map fun field =>
      (field.2, (row.getattr field.1).toOption.getD .none)) := by
  have hread : ∀ field ∈ fieldMapping.entries,
      row.getattr field.1 = .ok ((row.getattr field.1).toOption.getD .none) := by
    intro field hfield
    obtain ⟨value, hvalue⟩ := getattr_of_buildPayload h field hfield
    rw [hvalue]
    rfl
  exact Except.ok.inj (h.symm.trans
    (buildPayload_eq_ok (fun name => (row.getattr name).toOption.getD .none) hread))

/-- The fields of the record of a row are those that columns are mapped to. -/
theorem eq_none_iff_of_requestOf {runner : DataverseInventorySyncRunner} {row : NamedTuple}
    {key : String} {record : Record String JsonValue}
    (h : runner.odata.requestOf row = some (key, record)) (name : String) :
    record name = none ↔ name ∉ runner.fieldMapping.entries.map Prod.snd := by
  obtain ⟨payload, json, hpayload, hjson, rfl⟩ := exists_of_requestOf h
  rw [bodyRecord, InsertionDict.lookup_eq_none_iff_notMem, fields_of_encodePayload hjson,
    eq_ofPairs_of_buildPayload hpayload, InsertionDict.keys_ofPairs, List.mem_eraseDups,
    List.map_map]
  rfl

/-- If no two columns are mapped to the same field, each field of the record of a row holds the
value of its column. -/
theorem exists_encoded_of_requestOf {runner : DataverseInventorySyncRunner} {row : NamedTuple}
    {key : String} {record : Record String JsonValue}
    (hfields : (runner.fieldMapping.entries.map Prod.snd).Nodup)
    (h : runner.odata.requestOf row = some (key, record)) {field : String × String}
    (hfield : field ∈ runner.fieldMapping.entries) :
    ∃ value encoded, row.getattr field.1 = .ok value ∧ encodeJsonValue value = .ok encoded ∧
      record field.2 = some encoded := by
  obtain ⟨payload, json, hpayload, hjson, rfl⟩ := exists_of_requestOf h
  obtain ⟨value, hvalue⟩ := getattr_of_buildPayload hpayload field hfield
  -- the body was encoded, so every value in it was
  have hmem := (mem_values_of_buildPayload hfields hpayload value).2 ⟨field, hfield, hvalue⟩
  obtain ⟨encoded, hencoded⟩ :=
    encodeJsonValue_eq_ok_iff.2 (encodePayload_eq_ok_iff.1 ⟨json, hjson⟩ value hmem)
  refine ⟨value, encoded, hvalue, hencoded, ?_⟩
  -- no two columns map to the same field, so no entry of the payload overwrites another
  have hnodup : ((runner.fieldMapping.entries.map fun field =>
      (field.2, (row.getattr field.1).toOption.getD .none)).map Prod.fst).Nodup := by
    rwa [List.map_map]
  have hentry : (field.2, (row.getattr field.1).toOption.getD .none) ∈
      runner.fieldMapping.entries.map fun field =>
        (field.2, (row.getattr field.1).toOption.getD .none) := List.mem_map_of_mem hfield
  rw [bodyRecord, lookup_of_encodePayload hjson, eq_ofPairs_of_buildPayload hpayload,
    InsertionDict.get?, InsertionDict.entries_ofPairs_of_nodup hnodup,
    InsertionDict.lookup_of_mem hnodup hentry, Option.bind_some, hvalue]
  change (encodeJsonValue value).toOption = _
  rw [hencoded]
  rfl

end Sync
