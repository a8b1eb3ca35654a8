import Mathlib.Logic.Function.Basic
import Mathlib.Logic.Relation

/-!
# Stores that are written by patches

A store keeps a record under each of its keys, and a record a value in each of its fields. A patch
overwrites the fields it names and keeps the others, creating the record if there is none. Patches
to different keys do not see each other, and a patch that is made again changes nothing
(`overwrite_overwrite`).

A table of payloads, at most one for each key, may be written in part and in any order: `Partly`
says that each key holds what it held or what the table makes of it. Writing in part again and again
is writing in part (`Partly.trans`), and it is made good by writing the whole table once
(`writeAll_of_partly`).
-/

namespace PatchStore

variable {κ φ ν : Type*}

/-- The values of a record's fields. -/
abbrev Record (φ ν : Type*) : Type _ := φ → Option ν

/-- The records under the keys of a store. -/
abbrev Store (κ φ ν : Type*) : Type _ := κ → Option (Record φ ν)

/-- The fields of a payload over those of the record that was there, if any. -/
def overwrite (payload : Record φ ν) (old : Option (Record φ ν)) : Record φ ν :=
  fun field => (payload field).or (old.bind fun record => record field)

/-- A field that the payload names gets the payload's value. -/
theorem overwrite_of_some {payload : Record φ ν} {field : φ} {value : ν}
    (h : payload field = some value) (old : Option (Record φ ν)) :
    overwrite payload old field = some value := by
  rw [overwrite, h, Option.some_or]

/-- A field that the payload does not name stays as it was. -/
theorem overwrite_of_none {payload : Record φ ν} {field : φ} (h : payload field = none)
    (old : Option (Record φ ν)) :
    overwrite payload old field = old.bind fun record => record field := by
  rw [overwrite, h, Option.none_or]

/-- Overwriting again with the same payload changes nothing. -/
@[simp]
theorem overwrite_overwrite (payload : Record φ ν) (old : Option (Record φ ν)) :
    overwrite payload (some (overwrite payload old)) = overwrite payload old := by
  ext field
  cases hfield : payload field with
  | none => rw [overwrite_of_none hfield, Option.bind_some]
  | some value => rw [overwrite_of_some hfield, overwrite_of_some hfield]

/-- A payload leaves nothing of an earlier one that names no other fields. -/
theorem overwrite_overwrite_of_fields {payload payload' : Record φ ν}
    (h : ∀ field, payload field = none → payload' field = none) (old : Option (Record φ ν)) :
    overwrite payload (some (overwrite payload' old)) = overwrite payload old := by
  ext field
  cases hfield : payload field with
  | none =>
    rw [overwrite_of_none hfield, overwrite_of_none hfield, Option.bind_some,
      overwrite_of_none (h field hfield)]
  | some value => rw [overwrite_of_some hfield, overwrite_of_some hfield]

section Patch

variable [DecidableEq κ]

/-- Write a payload under a key. -/
def patch (store : Store κ φ ν) (key : κ) (payload : Record φ ν) : Store κ φ ν :=
  Function.update store key (some (overwrite payload (store key)))

@[simp]
theorem patch_self (store : Store κ φ ν) (key : κ) (payload : Record φ ν) :
    patch store key payload key = some (overwrite payload (store key)) :=
  Function.update_self ..

/-- A patch leaves the other keys alone. -/
theorem patch_of_ne {key key' : κ} (h : key' ≠ key) (store : Store κ φ ν) (payload : Record φ ν) :
    patch store key payload key' = store key' :=
  Function.update_of_ne h ..

/-- Writing a payload again changes nothing. -/
theorem patch_patch (store : Store κ φ ν) (key : κ) (payload : Record φ ν) :
    patch (patch store key payload) key payload = patch store key payload := by
  ext key' : 1
  by_cases hkey : key' = key
  · rw [hkey, patch_self, patch_self, overwrite_overwrite]
  · rw [patch_of_ne hkey]

/-- Remove the record under a key. -/
def erase (store : Store κ φ ν) (key : κ) : Store κ φ ν := Function.update store key none

/-- Removing a record again changes nothing. -/
theorem erase_erase (store : Store κ φ ν) (key : κ) : erase (erase store key) key =
    erase store key := Function.update_idem ..

end Patch

/-! ### Writing a table of payloads -/

/-- Write a table of payloads. -/
def writeAll (payloads : κ → Option (Record φ ν)) (store : Store κ φ ν) : Store κ φ ν := fun key =>
  match payloads key with
  | none => store key
  | some payload => some (overwrite payload (store key))

variable {payloads : κ → Option (Record φ ν)} {store store' store'' : Store κ φ ν} {key : κ}

theorem writeAll_of_none (h : payloads key = none) : writeAll payloads store key = store key := by
  rw [writeAll, h]

theorem writeAll_of_some {payload : Record φ ν} (h : payloads key = some payload) :
    writeAll payloads store key = some (overwrite payload (store key)) := by
  rw [writeAll, h]

/-- What a table makes of a key depends on what the store holds there, and on nothing else. -/
theorem writeAll_congr (h : store key = store' key) :
    writeAll payloads store key = writeAll payloads store' key := by
  rw [writeAll, writeAll, h]

/-- Writing a table again changes nothing. -/
@[simp]
theorem writeAll_writeAll :
    writeAll payloads (writeAll payloads store) = writeAll payloads store := by
  ext key : 1
  cases hkey : payloads key with
  | none => rw [writeAll_of_none hkey]
  | some payload => rw [writeAll_of_some hkey, writeAll_of_some hkey, overwrite_overwrite]

/-- Each key holds what it held, or what the table makes of that. -/
def Partly (payloads : κ → Option (Record φ ν)) (store store' : Store κ φ ν) : Prop :=
  ∀ key, store' key = store key ∨ store' key = writeAll payloads store key

theorem Partly.refl (payloads : κ → Option (Record φ ν)) (store : Store κ φ ν) :
    Partly payloads store store := fun _ => .inl rfl

/-- A table that was written in part, and then in part again, was written in part. -/
theorem Partly.trans (h : Partly payloads store store') (h' : Partly payloads store' store'') :
    Partly payloads store store'' := by
  intro key
  rcases h' key with hkept | hwritten
  · exact (h key).imp hkept.trans hkept.trans
  · rcases h key with hold | hnew
    · exact .inr (hwritten.trans (writeAll_congr hold))
    · -- written both times, which is the same as once
      have hagain : writeAll payloads store' key = writeAll payloads store key :=
        (writeAll_congr (hnew : store' key = writeAll payloads store key)).trans
          (congrFun writeAll_writeAll key)
      exact .inr (hwritten.trans hagain)

/-- Any number of partial writes of one table amount to one. -/
theorem partly_of_reflTransGen (h : Relation.ReflTransGen (Partly payloads) store store') :
    Partly payloads store store' := by
  induction h with
  | refl => exact .refl payloads store
  | tail _ hlast ih => exact ih.trans hlast

/-- Writing the whole table makes good whatever part of it was written before. -/
theorem writeAll_of_partly (h : Partly payloads store store') :
    writeAll payloads store' = writeAll payloads store := by
  ext key : 1
  rcases h key with hold | hnew
  · exact writeAll_congr hold
  · exact (writeAll_congr (hnew : store' key = writeAll payloads store key)).trans
      (congrFun writeAll_writeAll key)

/-- What a table made of a key stands, whatever part of the table is written after that. -/
theorem Partly.stands {initial : Store κ φ ν} (h : Partly payloads store store')
    (hkey : store key = writeAll payloads initial key) :
    store' key = writeAll payloads initial key := by
  rcases h key with hkept | hagain
  · exact hkept.trans hkey
  · calc store' key
      _ = writeAll payloads store key := hagain
      _ = writeAll payloads (writeAll payloads initial) key := writeAll_congr hkey
      _ = writeAll payloads initial key := congrFun writeAll_writeAll key

/-- A patch that the table has writes the table in part. -/
theorem partly_patch [DecidableEq κ] {payload : Record φ ν} (h : payloads key = some payload)
    (store : Store κ φ ν) : Partly payloads store (patch store key payload) := by
  intro key'
  by_cases hkey : key' = key
  · subst hkey
    exact .inr (by rw [patch_self, writeAll_of_some h])
  · exact .inl (patch_of_ne hkey store payload)

end PatchStore
