import InventorySync.Transport.Destination
import InventorySync.Transport.Queries

/-!
# The service behind the client

The OData service that holds an entity set is no part of this repository. `Service` states what is
documented of one: `PATCH` creates or updates the record that its URL addresses, `GET` reads a
record or a page of the collection, and `DELETE` deletes a record. What filters and orderings mean
is left to it, and so is which queries it understands and how many records it puts on a page.

`tableService` is a service over a table of records, which does all of this.
-/

open Python PatchStore

namespace Transport

/-! ### Records as JSON -/

/-- A deserialized value is that of a field. A number may be written with a fraction or without. -/
def Body.StandsFor : Body → JsonValue → Prop
  | .str s, .str s' => s = s'
  | .int n, .number q => (n : ℚ) = q
  | .float q, .number q' => q = q'
  | .bool b, .bool b' => b = b'
  | .null, .null => True
  | .array items, .strings names => items = names.map .str
  | .object members, .emptyObject => members = []
  | _, _ => False

/-- A field is selected: its name stands between the commas of a `$select`, or there is none. -/
def IsSelected (select : Option (List Char)) (field : String) : Prop :=
  ∀ text ∈ select, field.toList ∈ text.splitOn ','

/-- A JSON object shows the selected fields of a record. It may have other members: annotations, or
fields that a service always shows. -/
def Body.Shows (select : Option (List Char)) (record : Record String JsonValue) (body : Body) :
    Prop :=
  ∃ members, body = .object members ∧ ∀ field value, record field = some value →
    IsSelected select field → ∃ shown, members.lookup field = some shown ∧ shown.StandsFor value

/-! ### Queries -/

/-- The query options of a request. -/
abbrev Options : Type := List (List Char × List Char)

/-- An option of a request, by name. -/
def optionOf (name : String) (options : Options) : Option (List Char) :=
  options.lookup name.toList

/-- A count, if one is given; it has to be a natural number. -/
def readCount : Option (List Char) → Option (Option ℕ)
  | none => some none
  | some text => (Json.natValue? text).map some

/-- A record and its key. -/
abbrev Entry : Type := String × Record String JsonValue

/-- What a service makes of the texts of query options. -/
structure QueryLanguage where
  /-- Whether it can make anything of the options of a request. -/
  understands : Options → Bool
  /-- Whether a filter keeps a record. -/
  holds : List Char → Entry → Bool
  /-- Whether one record may stand before another in an ordering. -/
  precedes : List Char → Entry → Entry → Prop

/-- All records that a filter keeps, in the order that was asked for. -/
structure QueryLanguage.Lists (lang : QueryLanguage) (filter orderBy : Option (List Char))
    (records : Destination) (entries : List Entry) : Prop where
  nodup : (entries.map Prod.fst).Nodup
  mem_iff : ∀ key record, (key, record) ∈ entries ↔
    records key = some record ∧ ∀ text ∈ filter, lang.holds text (key, record) = true
  sorted : ∀ text ∈ orderBy, entries.Pairwise (lang.precedes text)

/-- The part of a list that the counts of a query ask for. -/
def pageOf {α : Type} (top skip : Option ℕ) (entries : List α) : List α :=
  let rest := entries.drop (skip.getD 0)
  top.elim rest rest.take

theorem pageOf_map {α β : Type} (f : α → β) (top skip : Option ℕ) (entries : List α) :
    pageOf top skip (entries.map f) = (pageOf top skip entries).map f := by
  cases top with
  | none => simp [pageOf]
  | some n => simp [pageOf, List.map_take]

/-- Where the answer to a query says that there is more. -/
def HasNextLink (members : List (String × Body)) : Prop :=
  (members.lookup "@odata.nextLink").isSome = true

/-- The answer to a query: a first page of the records that it asks for, and a link to the next page
if these are not all. -/
inductive QueryLanguage.Answers (lang : QueryLanguage) (options : Options) (records : Destination) :
    Body → Prop
  | page {top skip entries members shown n}
      (htop : readCount (optionOf "$top" options) = some top)
      (hskip : readCount (optionOf "$skip" options) = some skip)
      (hlists : lang.Lists (optionOf "$filter" options) (optionOf "$orderby" options) records
        entries)
      (hvalue : members.lookup "value" = some (.array shown))
      (hshown : List.Forall₂ (fun entry body => Body.Shows (optionOf "$select" options) entry.2
        body) ((pageOf top skip entries).take n) shown)
      (hall : (pageOf top skip entries).length ≤ n ∨ HasNextLink members) :
      lang.Answers options records (.object members)

/-! ### The service -/

/-- A request as it arrives. -/
inductive HttpRequest
  | patch (request : Request)
  | get (url : String)
  | delete (url : String)

/-- A service that holds an entity set, with states `σ`. -/
structure Service (baseUrl entitySet alternateKeyName : String) (lang : QueryLanguage)
    (σ : Type) where
  /-- What it does with a request. -/
  serve : HttpRequest → σ → JsonResponse × σ
  /-- The records of the entity set. -/
  records : σ → Destination
  /-- A `PATCH` writes the fields of its body over those of the record, and creates the record if
  there is none. -/
  patched : ∀ (request : Request) key s,
    readTarget baseUrl entitySet alternateKeyName request.url = some (.record key) →
    (request.json.map Prod.fst).Nodup →
      (serve (.patch request) s).1.statusCode < 400 ∧
      ((serve (.patch request) s).1.statusCode = 201 ↔ records s key = none) ∧
      records (serve (.patch request) s).2 = patch (records s) key (bodyRecord request.json)
  /-- A `GET` changes no record. -/
  read : ∀ url s, records (serve (.get url) s).2 = records s
  /-- It refuses options that it can make nothing of. -/
  misunderstood : ∀ url target options s,
    readUrl baseUrl entitySet alternateKeyName url = some (target, options) →
    lang.understands options = false → (serve (.get url) s).1.statusCode = 400
  notFound : ∀ url key options s,
    readUrl baseUrl entitySet alternateKeyName url = some (.record key, options) →
    lang.understands options = true → records s key = none → (serve (.get url) s).1.statusCode = 404
  found : ∀ url key options s record,
    readUrl baseUrl entitySet alternateKeyName url = some (.record key, options) →
    lang.understands options = true → records s key = some record →
      (serve (.get url) s).1.statusCode = 200 ∧
      ∃ body ∈ (serve (.get url) s).1.body, Body.Shows (optionOf "$select" options) record body
  queried : ∀ url options s,
    readUrl baseUrl entitySet alternateKeyName url = some (.collection, options) →
    lang.understands options = true →
      (serve (.get url) s).1.statusCode = 200 ∧
      ∃ body ∈ (serve (.get url) s).1.body, lang.Answers options (records s) body
  deleted : ∀ url key s,
    readTarget baseUrl entitySet alternateKeyName url = some (.record key) →
      (serve (.delete url) s).1.statusCode = (if (records s key).isSome then 204 else 404) ∧
      records (serve (.delete url) s).2 = erase (records s) key

/-- The service puts all that a query asks for on one page. -/
def Service.HasWholePages {baseUrl entitySet alternateKeyName : String} {lang : QueryLanguage}
    {σ : Type} (service : Service baseUrl entitySet alternateKeyName lang σ) : Prop :=
  ∀ url options s members,
    readUrl baseUrl entitySet alternateKeyName url = some (.collection, options) →
    (service.serve (.get url) s).1.body = some (.object members) → ¬HasNextLink members

/-! ### A service over a table -/

/-- The fields of a record. -/
abbrev Row : Type := InsertionDict String JsonValue

/-- The records of an entity set under their keys, oldest first. -/
abbrev Table : Type := InsertionDict String Row

/-- The records as a destination of patches. -/
def Table.toDestination (table : Table) : Destination :=
  fun key => (table.get? key).map fun row => row.get?

/-- The fields of a JSON object over those of the record that was there, if any. -/
def mergeRow (old : Option Row) (json : List (String × JsonValue)) : Row :=
  (old.getD .empty).update (.ofPairs json)

/-- Create or update a record. -/
def Table.merge (table : Table) (key : String) (json : List (String × JsonValue)) : Table :=
  table.set key (mergeRow (table.get? key) json)

/-- Merging is patching. -/
theorem Table.toDestination_merge (table : Table) (key : String)
    {json : List (String × JsonValue)} (hjson : (json.map Prod.fst).Nodup) :
    (table.merge key json).toDestination = patch table.toDestination key (bodyRecord json) := by
  ext key' : 1
  by_cases hkey : key' = key
  · subst hkey
    rw [patch_self, toDestination, merge, InsertionDict.get?_set, if_pos rfl, Option.map_some]
    refine congrArg some (funext fun field => ?_)
    have hfields : (InsertionDict.ofPairs json).get? field = json.lookup field := by
      rw [InsertionDict.get?, InsertionDict.entries_ofPairs_of_nodup hjson]
    rw [mergeRow, InsertionDict.get?_update, hfields, overwrite, bodyRecord]
    congr 1
    rw [toDestination]
    cases table.get? key' <;> rfl
  · rw [patch_of_ne hkey, toDestination, toDestination, merge, InsertionDict.get?_set,
      if_neg hkey]

theorem Table.toDestination_erase (table : Table) (key : String) :
    Table.toDestination (InsertionDict.erase table key) = erase table.toDestination key := by
  ext key' : 1
  rw [toDestination, InsertionDict.get?_erase, erase, Function.update_apply, toDestination]
  split <;> rfl

/-- A value as the service writes it: a number without a fraction as an integer. -/
def JsonValue.body : JsonValue → Body
  | .str s => .str s
  | .number q => if q.den = 1 then .int q.num else .float q
  | .bool b => .bool b
  | .null => .null
  | .strings items => .array (items.map .str)
  | .emptyObject => .object []

theorem JsonValue.standsFor_body (value : JsonValue) : value.body.StandsFor value := by
  cases value with
  | number q =>
    rw [body]
    split
    next hden => exact Rat.coe_int_num_of_den_eq_one hden
    next => rfl
  | _ => simp [body, Body.StandsFor]

/-- A record as a JSON object. -/
def Row.body (row : Row) : Body := .object (row.entries.map (Prod.map id JsonValue.body))

theorem Row.shows_body (row : Row) (select : Option (List Char)) :
    Body.Shows select row.get? (Row.body row) := by
  refine ⟨_, rfl, fun field value hvalue _ => ⟨value.body, ?_, value.standsFor_body⟩⟩
  rw [InsertionDict.lookup_map_snd, ← InsertionDict.get?, hvalue, Option.map_some]

/-- The status of a successful update: with what is updated, if the headers prefer that. -/
def updateStatus (headers : List (String × String)) : ℕ :=
  if ("Prefer", "return=representation") ∈ headers then 200 else 204

/-- A filter of records, over a service that has no say in their order. -/
def tableLanguage (holds : List Char → Entry → Bool) : QueryLanguage where
  understands options :=
    (readCount (optionOf "$top" options)).isSome && (readCount (optionOf "$skip" options)).isSome
  holds := holds
  precedes _ _ _ := True

section Table

variable (baseUrl entitySet alternateKeyName : String) (holds : List Char → Entry → Bool)

/-- The records that a filter keeps. -/
def Table.kept (filter : Option (List Char)) (table : Table) : List (String × Row) :=
  table.entries.filter fun entry => filter.all fun text => holds text (entry.1, entry.2.get?)

/-- What the service does with a request. It shows all fields, also if some are selected. -/
def Table.serve : HttpRequest → Table → JsonResponse × Table
  | .patch request, table =>
    match readTarget baseUrl entitySet alternateKeyName request.url with
    | some (.record key) =>
      (⟨⟨if (table.get? key).isNone then 201 else updateStatus request.headers⟩, none⟩,
        table.merge key request.json)
    | some .collection => (⟨⟨405⟩, none⟩, table)
    | none => (⟨⟨404⟩, none⟩, table)
  | .get url, table =>
    match readUrl baseUrl entitySet alternateKeyName url with
    | some (target, options) =>
      match readCount (optionOf "$top" options), readCount (optionOf "$skip" options) with
      | some top, some skip =>
        match target with
        | .record key =>
          match table.get? key with
          | some row => (⟨⟨200⟩, some (Row.body row)⟩, table)
          | none => (⟨⟨404⟩, none⟩, table)
        | .collection =>
          let page := pageOf top skip (table.kept holds (optionOf "$filter" options))
          (⟨⟨200⟩, some (.object [("value", .array (page.map fun entry => Row.body entry.2))])⟩,
            table)
      | _, _ => (⟨⟨400⟩, none⟩, table)
    | none => (⟨⟨404⟩, none⟩, table)
  | .delete url, table =>
    match readTarget baseUrl entitySet alternateKeyName url with
    | some (.record key) =>
      (⟨⟨if (table.get? key).isSome then 204 else 404⟩, none⟩, InsertionDict.erase table key)
    | some .collection => (⟨⟨405⟩, none⟩, table)
    | none => (⟨⟨404⟩, none⟩, table)

variable {baseUrl entitySet alternateKeyName holds}

theorem mem_entries_iff (table : Table) (key : String) (row : Row) :
    (key, row) ∈ table.entries ↔ table.get? key = some row := by
  constructor
  · exact fun h => InsertionDict.lookup_of_mem table.nodup_keys h
  · intro h
    obtain ⟨before, after, hentries, -⟩ := List.lookup_eq_some_iff.1 h
    simp [hentries]

theorem Table.lists_kept (filter orderBy : Option (List Char)) (table : Table) :
    (tableLanguage holds).Lists filter orderBy table.toDestination
      ((table.kept holds filter).map (Prod.map id InsertionDict.get?)) where
  nodup := by
    rw [List.map_map]
    exact table.nodup_keys.sublist (List.filter_sublist.map Prod.fst)
  mem_iff key record := by
    have hfilter : ∀ entry : Entry, (filter.all fun text => holds text entry) = true ↔
        ∀ text ∈ filter, holds text entry = true := by
      intro entry
      cases filter <;> simp
    rw [List.mem_map]
    constructor
    · rintro ⟨⟨key', row⟩, hmem, heq⟩
      obtain ⟨hentry, hkept⟩ := List.mem_filter.1 hmem
      cases heq
      refine ⟨?_, (hfilter _).1 hkept⟩
      rw [toDestination, id_eq, (mem_entries_iff table key' row).1 hentry, Option.map_some]
    · rintro ⟨hrecord, hkept⟩
      obtain ⟨row, hrow, rfl⟩ := Option.map_eq_some_iff.1 hrecord
      exact ⟨(key, row), List.mem_filter.2 ⟨(mem_entries_iff table key row).2 hrow,
        (hfilter _).2 hkept⟩, rfl⟩
  sorted _ _ := List.pairwise_of_forall fun _ _ => trivial

theorem Table.answers_kept {options : Options} {top skip : Option ℕ}
    (htop : readCount (optionOf "$top" options) = some top)
    (hskip : readCount (optionOf "$skip" options) = some skip) (table : Table) :
    (tableLanguage holds).Answers options table.toDestination (.object [("value", .array
      ((pageOf top skip (table.kept holds (optionOf "$filter" options))).map
        fun entry => Row.body entry.2))]) := by
  refine .page htop hskip (table.lists_kept _ _) rfl ?_ (.inl le_rfl)
  rw [List.take_length, pageOf_map, List.forall₂_map_left_iff, List.forall₂_map_right_iff]
  exact List.forall₂_same.2 fun entry _ => Row.shows_body entry.2 _

theorem exists_counts_of_understands {options : Options}
    (h : (tableLanguage holds).understands options = true) :
    ∃ top skip, readCount (optionOf "$top" options) = some top ∧
      readCount (optionOf "$skip" options) = some skip := by
  obtain ⟨htop, hskip⟩ := Bool.and_eq_true_iff.1 h
  obtain ⟨top, htop⟩ := Option.isSome_iff_exists.1 htop
  obtain ⟨skip, hskip⟩ := Option.isSome_iff_exists.1 hskip
  exact ⟨top, skip, htop, hskip⟩

theorem Table.isNone_iff_toDestination {table : Table} {key : String} :
    (table.get? key).isNone = true ↔ table.toDestination key = none := by
  rw [toDestination, Option.map_eq_none_iff, Option.isNone_iff_eq_none]

theorem updateStatus_mem (headers : List (String × String)) :
    updateStatus headers < 400 ∧ updateStatus headers ≠ 201 := by
  unfold updateStatus
  split <;> decide

variable (baseUrl entitySet alternateKeyName holds) in
/-- The service over a table of records. -/
def tableService :
    Service baseUrl entitySet alternateKeyName (tableLanguage holds) Table where
  serve := Table.serve baseUrl entitySet alternateKeyName holds
  records := Table.toDestination
  patched request key table htarget hjson := by
    obtain ⟨hlt, hne⟩ := updateStatus_mem request.headers
    simp only [Table.serve, htarget]
    refine ⟨?_, ?_, table.toDestination_merge key hjson⟩
    · split
      · decide
      · exact hlt
    · rw [← Table.isNone_iff_toDestination]
      split
      next hnone => exact iff_of_true rfl hnone
      next hsome => exact iff_of_false hne hsome
  read url table := by
    simp only [Table.serve]
    -- whatever the answer is, the table comes back as it was
    split
    · split
      · split
        · split <;> rfl
        · rfl
      · rfl
    · rfl
  misunderstood url target options table hurl hunknown := by
    simp only [Table.serve, hurl]
    split
    next htop hskip =>
      simp only [tableLanguage, htop, hskip, Option.isSome_some, Bool.and_self,
        Bool.true_eq_false] at hunknown
    next => rfl
  notFound url key options table hurl hknown hnone := by
    obtain ⟨top, skip, htop, hskip⟩ := exists_counts_of_understands hknown
    have hget : table.get? key = none := Option.map_eq_none_iff.1 hnone
    simp only [Table.serve, hurl, htop, hskip, hget]
  found url key options table record hurl hknown hrecord := by
    obtain ⟨top, skip, htop, hskip⟩ := exists_counts_of_understands hknown
    obtain ⟨row, hget, rfl⟩ := Option.map_eq_some_iff.1 hrecord
    simp only [Table.serve, hurl, htop, hskip, hget]
    exact ⟨trivial, _, rfl, row.shows_body _⟩
  queried url options table hurl hknown := by
    obtain ⟨top, skip, htop, hskip⟩ := exists_counts_of_understands hknown
    simp only [Table.serve, hurl, htop, hskip]
    exact ⟨trivial, _, rfl, table.answers_kept htop hskip⟩
  deleted url key table htarget := by
    simp only [Table.serve, htarget, Table.toDestination, Option.isSome_map]
    exact ⟨trivial, table.toDestination_erase key⟩

/-- It has no other pages. -/
theorem hasWholePages_tableService :
    (tableService baseUrl entitySet alternateKeyName holds).HasWholePages := by
  intro url options table members hurl hbody hnext
  simp only [tableService, Table.serve, hurl] at hbody
  split at hbody
  · cases hbody
    cases hnext
  · cases hbody

end Table

end Transport
