import Mathlib.Data.List.MinMax
import Mathlib.Order.Nat
import InventorySync.Foundations.Recency
import InventorySync.Python.Values

/-!
# Data frames and their rows

What the sync engine uses of `pandas`: a `DataFrame` as a list of rows under column labels, the
named tuples `itertuples(index=False)` makes of its rows, `drop_duplicates(keep="last")`, and the
frame built from a list of named tuples.

* `renameFields_of_plain`: identifier labels survive `itertuples` unchanged;
* `getattr_itertuple`: under such labels, attribute access on a row reads the cell of that column;
* `ofNamedTuples_cons_eq_ok`: rows of one width build the frame of their cells, under the fields of
  the first row.

Cells keep the value they have. (A frame built from rows widens a column that mixes `int` and
`float` to `float`, which changes how a number is stored but not which number it is.)
-/

open Python

namespace Pandas

/-! ### Field names of a named tuple -/

/-- The Unicode property tables behind `str.isidentifier`. -/
class IdentifierTables where
  /-- `XID_Start` -/
  xidStart : Char → Bool
  /-- `XID_Continue` -/
  xidContinue : Char → Bool
  xidStart_of_isAlpha : ∀ c, c.isAlpha = true → xidStart c = true
  xidContinue_of_isAlphanum : ∀ c, c.isAlphanum = true → xidContinue c = true
  xidContinue_underscore : xidContinue '_' = true

/-- The tables restricted to ASCII. -/
@[reducible]
def asciiTables : IdentifierTables where
  xidStart := Char.isAlpha
  xidContinue := fun c => c.isAlphanum || c == '_'
  xidStart_of_isAlpha := fun _ h => h
  xidContinue_of_isAlphanum := fun c h => by rw [h, Bool.true_or]
  xidContinue_underscore := rfl

/-- `keyword.kwlist` -/
def keywords : List String :=
  ["False", "None", "True", "and", "as", "assert", "async", "await", "break", "class", "continue",
    "def", "del", "elif", "else", "except", "finally", "for", "from", "global", "if", "import",
    "in", "is", "lambda", "nonlocal", "not", "or", "pass", "raise", "return", "try", "while",
    "with", "yield"]

/-- A replaced name starts with an underscore. -/
theorem head?_underscore_append (s : String) : ("_" ++ s).toList.head? = some '_' := by
  rw [String.toList_append]
  rfl

section Names

variable [IdentifierTables]

/-- `name.isidentifier()` -/
def isidentifier (name : String) : Bool :=
  match name.toList with
  | [] => false
  | c :: cs => (c == '_' || IdentifierTables.xidStart c) && cs.all IdentifierTables.xidContinue

/-- The name is an identifier, no keyword, and does not start with an underscore. -/
def isFieldName (name : String) : Bool :=
  isidentifier name && !keywords.contains name && !(name.toList.head? == some '_')

/-- An ASCII field name is one under any tables. -/
theorem isFieldName_of_ascii {name : String} (h : @isFieldName asciiTables name = true) :
    isFieldName name = true := by
  simp only [isFieldName, Bool.and_eq_true] at h ⊢
  refine ⟨⟨?_, h.1.2⟩, h.2⟩
  have hid := h.1.1
  unfold isidentifier at hid ⊢
  cases hlist : name.toList with
  | nil =>
    rw [hlist] at hid
    cases hid
  | cons c cs =>
    rw [hlist] at hid
    simp only [Bool.and_eq_true, Bool.or_eq_true, List.all_eq_true] at hid ⊢
    -- the ASCII letters, digits and underscore are among the characters of every table
    refine ⟨hid.1.imp_right (IdentifierTables.xidStart_of_isAlpha c), fun d hd => ?_⟩
    have hascii : (d.isAlphanum || d == '_') = true := hid.2 d hd
    rcases Bool.or_eq_true_iff.1 hascii with hd | hd
    · exact IdentifierTables.xidContinue_of_isAlphanum d hd
    · rw [beq_iff_eq] at hd
      exact hd ▸ IdentifierTables.xidContinue_underscore

/-- The field names of `namedtuple(_, names, rename=True)`: a name that cannot be a field, or that
occurs before, is replaced by its position. -/
def renameFields (names : List String) : List String :=
  names.zipIdx.map fun (name, index) =>
    if isFieldName name && !(names.take index).contains name then name
    else "_" ++ toString index

@[simp]
theorem length_renameFields (names : List String) :
    (renameFields names).length = names.length := by
  simp [renameFields]

theorem getElem_renameFields {names : List String} {i : ℕ} (hi : i < names.length)
    (hi' : i < (renameFields names).length) :
    (renameFields names)[i] =
      if isFieldName names[i] && !(names.take i).contains names[i] then names[i]
      else "_" ++ toString i := by
  simp [renameFields]

theorem head?_ne_of_isFieldName {name : String} (h : isFieldName name = true) :
    name.toList.head? ≠ some '_' := by
  simp only [isFieldName, Bool.and_eq_true, Bool.not_eq_true', beq_eq_false_iff_ne] at h
  exact h.2

/-- A label that can be a field name is found where it stands. -/
theorem idxOf_renameFields {names : List String} {name : String} (hname : isFieldName name = true)
    (hmem : name ∈ names) : (renameFields names).idxOf name = names.idxOf name := by
  have hlt : names.idxOf name < names.length := List.idxOf_lt_length_of_mem hmem
  obtain ⟨k, hk⟩ : ∃ k, names.idxOf name = k := ⟨_, rfl⟩
  rw [hk] at hlt ⊢
  obtain ⟨hget, hbefore⟩ := (List.findIdx_eq hlt).1 hk
  rw [beq_iff_eq] at hget
  have hnew : name ∉ names.take k := by
    intro hin
    obtain ⟨j, hj, heq⟩ := List.getElem_of_mem hin
    rw [List.length_take] at hj
    have hne := hbefore j (by omega)
    simp [← heq] at hne
  refine (List.findIdx_eq (by simpa using hlt)).2 ⟨?_, fun j hj => ?_⟩
  · rw [getElem_renameFields hlt]
    simp [hget, hname, hnew]
  · -- an earlier label is another one, or was replaced by one with an underscore
    rw [getElem_renameFields (hj.trans hlt)]
    split
    · exact hbefore j hj
    · rw [beq_eq_false_iff_ne]
      intro heq
      exact head?_ne_of_isFieldName hname (heq ▸ head?_underscore_append _)

/-- A label that can be no field name, and does not look like a replaced one, is lost. -/
theorem not_mem_renameFields {names : List String} {name : String}
    (hname : isFieldName name = false) (hhead : name.toList.head? ≠ some '_') :
    name ∉ renameFields names := by
  intro hmem
  obtain ⟨i, hi, heq⟩ := List.getElem_of_mem hmem
  rw [getElem_renameFields (by simpa using hi)] at heq
  split at heq
  next hkeep =>
    rw [heq, hname] at hkeep
    simp at hkeep
  next => exact hhead (heq ▸ head?_underscore_append _)

/-- Distinct labels that can all be field names. -/
structure PlainColumns (names : List String) : Prop where
  fieldName : ∀ name ∈ names, isFieldName name = true
  nodup : names.Nodup

instance (names : List String) : Decidable (PlainColumns names) :=
  decidable_of_iff ((∀ name ∈ names, isFieldName name = true) ∧ names.Nodup)
    ⟨fun h => ⟨h.1, h.2⟩, fun h => ⟨h.fieldName, h.nodup⟩⟩

/-- Plain labels are kept as they are. -/
theorem renameFields_of_plain {names : List String} (h : PlainColumns names) :
    renameFields names = names := by
  apply List.ext_getElem (length_renameFields names)
  intro i _ hi
  have hname : isFieldName names[i] = true := h.fieldName _ (List.getElem_mem hi)
  have hnew : names[i] ∉ names.take i := by
    intro hmem
    obtain ⟨j, hj, heq⟩ := List.getElem_of_mem hmem
    rw [List.getElem_take, h.nodup.getElem_inj_iff] at heq
    rw [List.length_take] at hj
    omega
  simp [renameFields, hname, hnew]

end Names

/-! ### Rows -/

/-- A named tuple: one value for each field. -/
structure NamedTuple where
  fields : List String
  values : List PyValue
  length_values : values.length = fields.length

/-- The public attributes every named tuple has besides its fields. -/
def tupleAttributes : List String :=
  ["count", "index", "_make", "_replace", "_asdict", "_fields", "_field_defaults"]

/-- The cell under a label, of a row with the given labels. -/
def cell (columns : List String) (row : List PyValue) (name : String) : Option PyValue :=
  (columns.zip row).lookup name

/-- The cell under a label stands at the label's first position. -/
theorem cell_eq_getElem? {columns : List String} {row : List PyValue} {name : String}
    (hlength : row.length = columns.length) :
    cell columns row name = row[columns.idxOf name]? := by
  induction columns generalizing row with
  | nil => simp [cell, List.length_eq_zero_iff.1 hlength]
  | cons c columns ih =>
    cases row with
    | nil => simp at hlength
    | cons v row =>
      rw [cell, List.zip_cons_cons, List.lookup_cons]
      -- the first label with the name decides, on both sides
      by_cases hc : name = c
      · simp [hc]
      · rw [beq_eq_false_iff_ne.2 hc, List.idxOf_cons_ne columns (Ne.symm hc),
          Nat.succ_eq_add_one, List.getElem?_cons_succ]
        exact ih (by simpa using hlength)

/-- A row as long as its labels has a cell under each of them. -/
theorem exists_cell {columns : List String} {row : List PyValue} {name : String}
    (hlength : row.length = columns.length) (hname : name ∈ columns) :
    ∃ v ∈ row, cell columns row name = some v := by
  have hlt : columns.idxOf name < row.length := hlength ▸ List.idxOf_lt_length_of_mem hname
  refine ⟨row[columns.idxOf name], List.getElem_mem hlt, ?_⟩
  rw [cell_eq_getElem? hlength, List.getElem?_eq_getElem hlt]

/-- `getattr(row, name)` -/
def NamedTuple.getattr (row : NamedTuple) (name : String) : Except PyException PyValue :=
  match cell row.fields row.values name with
  | some value => .ok value
  | none =>
    if name = "_fields" then .ok (.fieldNames row.fields)
    else if tupleAttributes.contains name then .ok (.rowAttribute name)
    else .error ⟨.attributeError, "'Pandas' object has no attribute '" ++ name ++ "'"⟩

/-- Attribute access by a field's name reads that field. -/
theorem NamedTuple.getattr_eq_ok {row : NamedTuple} {name : String} {value : PyValue}
    (h : cell row.fields row.values name = some value) : row.getattr name = .ok value := by
  rw [getattr, h]

/-- A name that is neither a field nor an attribute of the tuple type cannot be read. -/
theorem NamedTuple.getattr_eq_error {row : NamedTuple} {name : String} (hfield : name ∉ row.fields)
    (hattribute : name ∉ tupleAttributes) : ∃ e, row.getattr name = .error e := by
  have hcell : cell row.fields row.values name = none := by
    rw [cell_eq_getElem? row.length_values, List.getElem?_eq_none_iff, row.length_values,
      List.idxOf_eq_length hfield]
  have hfields : name ≠ "_fields" := by
    rintro rfl
    exact hattribute (by decide)
  rw [getattr, hcell]
  simp [hattribute, hfields]

theorem not_mem_tupleAttributes [IdentifierTables] {name : String}
    (hname : isFieldName name = false) (hhead : name.toList.head? ≠ some '_') :
    name ∉ tupleAttributes := by
  intro hmem
  have hcount : isFieldName "count" = true := isFieldName_of_ascii (by decide)
  have hindex : isFieldName "index" = true := isFieldName_of_ascii (by decide)
  simp only [tupleAttributes, List.mem_cons, List.not_mem_nil, or_false] at hmem
  -- `count` and `index` are field names, and all others start with an underscore
  rcases hmem with rfl | rfl | rfl | rfl | rfl | rfl | rfl
  · exact absurd hcount (by simp [hname])
  · exact absurd hindex (by simp [hname])
  all_goals exact hhead rfl

@[ext]
theorem NamedTuple.ext' {row row' : NamedTuple} (hfields : row.fields = row'.fields)
    (hvalues : row.values = row'.values) : row = row' := by
  cases row
  cases row'
  simp_all

/-! ### Frames -/

/-- A table of cells under column labels. -/
structure DataFrame where
  columns : List String
  rows : List (List PyValue)
  /-- Every row has one cell for each column. -/
  rectangular : ∀ row ∈ rows, row.length = columns.length

namespace DataFrame

theorem ext_of {df df' : DataFrame} (hcolumns : df.columns = df'.columns)
    (hrows : df.rows = df'.rows) : df = df' := by
  cases df
  cases df'
  simp_all

/-- `pd.DataFrame(columns=columns)` -/
def ofColumns (columns : List String) : DataFrame := ⟨columns, [], by simp⟩

/-- `self[name]` -/
def column (df : DataFrame) (name : String) : Except PyException (List PyValue) :=
  if df.columns.contains name then
    .ok (df.rows.filterMap fun row => cell df.columns row name)
  else .error ⟨.keyError, "'" ++ name ++ "'"⟩

/-- What `drop_duplicates(subset=key)` compares of a row. -/
def rowKey (key : String) (columns : List String) (row : List PyValue) : PyValue.HashKey :=
  ((cell columns row key).map PyValue.hashKey).getD .none

theorem mem_of_mem_keepLast {α κ : Type*} [DecidableEq κ] {key : α → κ} {l : List α} {x : α}
    (h : x ∈ Recency.keepLast key l) : x ∈ l :=
  (Recency.mem_keepLast.1 h).mem

/-- `self.drop_duplicates(subset=key, keep="last")` -/
def dropDuplicatesLast (df : DataFrame) (key : String) : Except PyException DataFrame :=
  if df.columns.contains key then
    .ok ⟨df.columns, Recency.keepLast (rowKey key df.columns) df.rows,
      fun row hrow => df.rectangular row (mem_of_mem_keepLast hrow)⟩
  else .error ⟨.keyError, "Index(['" ++ key ++ "'], dtype='object')"⟩

/-- `self.itertuples(index=False)` -/
def itertuples [IdentifierTables] (df : DataFrame) : List NamedTuple :=
  df.rows.attach.map fun ⟨row, hrow⟩ =>
    ⟨renameFields df.columns, row, by rw [length_renameFields, df.rectangular row hrow]⟩

/-- `pd.DataFrame(rows)` for a list of named tuples: the labels are those of the first row, the
cells go by position, and shorter rows are filled with `NaN`. -/
def ofNamedTuples (rows : List NamedTuple) : Except PyException DataFrame :=
  let columns := (rows.head?.map NamedTuple.fields).getD []
  let width := (rows.map fun row => row.values.length).foldr max ⊥
  if h : columns.length = width then
    .ok ⟨columns, rows.map fun row => row.values ++
      List.replicate (width - row.values.length) .nan, by
        intro cells hcells
        obtain ⟨row, hrow, rfl⟩ := List.mem_map.1 hcells
        have hle : row.values.length ≤ width :=
          List.le_max_of_le (List.mem_map_of_mem (f := fun row => row.values.length) hrow) le_rfl
        simp only [List.length_append, List.length_replicate, h]
        omega⟩
  else
    .error ⟨.valueError, toString columns.length ++ " columns passed, passed data had " ++
      toString width ++ " columns"⟩

section Rows

variable [IdentifierTables] {df : DataFrame}

/-- The rows of the frame, in order. -/
theorem map_values_itertuples (df : DataFrame) :
    df.itertuples.map NamedTuple.values = df.rows := by
  rw [itertuples, List.map_map]
  exact df.rows.attach_map_subtype_val

/-- Under the same labels, a frame is determined by the tuples of its rows. -/
theorem ext_itertuples {df df' : DataFrame} (hcolumns : df.columns = df'.columns)
    (hrows : df.itertuples = df'.itertuples) : df = df' := by
  apply ext_of hcolumns
  rw [← map_values_itertuples df, ← map_values_itertuples df', hrows]

theorem mem_itertuples {row : NamedTuple} :
    row ∈ df.itertuples ↔ row.fields = renameFields df.columns ∧ row.values ∈ df.rows := by
  rw [itertuples, List.mem_map]
  constructor
  · rintro ⟨⟨cells, hcells⟩, -, rfl⟩
    exact ⟨rfl, hcells⟩
  · rintro ⟨hfields, hvalues⟩
    exact ⟨⟨row.values, hvalues⟩, List.mem_attach _ _, NamedTuple.ext' hfields.symm rfl⟩

theorem length_itertuples (df : DataFrame) : df.itertuples.length = df.rows.length := by
  simp [itertuples]

/-- Under plain labels, attribute access on a row reads the cell of that column. -/
theorem getattr_itertuple (hplain : PlainColumns df.columns) {row : NamedTuple}
    (hrow : row ∈ df.itertuples) {name : String} (hname : name ∈ df.columns) :
    ∃ value ∈ row.values, cell df.columns row.values name = some value ∧
      row.getattr name = .ok value := by
  obtain ⟨hfields, hvalues⟩ := mem_itertuples.1 hrow
  rw [renameFields_of_plain hplain] at hfields
  obtain ⟨value, hmem, hcell⟩ := exists_cell (df.rectangular _ hvalues) hname
  exact ⟨value, hmem, hcell, NamedTuple.getattr_eq_ok (hfields ▸ hcell)⟩

end Rows

/-- Rows as wide as the first build the frame of their cells, under the fields of the first. -/
theorem ofNamedTuples_cons_eq_ok {first : NamedTuple} {rows : List NamedTuple}
    (hwidth : ∀ row ∈ first :: rows, row.fields.length = first.fields.length) :
    ∃ df, ofNamedTuples (first :: rows) = .ok df ∧ df.columns = first.fields ∧
      df.rows = (first :: rows).map NamedTuple.values := by
  have hlength : ∀ row ∈ first :: rows, row.values.length = first.fields.length :=
    fun row hrow => by rw [row.length_values, hwidth row hrow]
  -- no row is filled up
  have hmax : ((first :: rows).map fun row => row.values.length).foldr max ⊥ =
      first.fields.length := by
    have hfirst : first.values.length ∈
        (first :: rows).map fun row => row.values.length := List.mem_cons_self
    refine le_antisymm (List.max_le_of_forall_le _ _ ?_)
      (List.le_max_of_le hfirst (hlength first List.mem_cons_self).ge)
    rintro m hm
    obtain ⟨row, hrow, rfl⟩ := List.mem_map.1 hm
    exact (hlength row hrow).le
  have hcolumns : ((first :: rows).head?.map NamedTuple.fields).getD [] = first.fields := rfl
  unfold ofNamedTuples
  simp only [hcolumns, hmax, dite_true]
  refine ⟨_, rfl, rfl, List.map_congr_left fun row hrow => ?_⟩
  simp [hlength row hrow]

end DataFrame

end Pandas
