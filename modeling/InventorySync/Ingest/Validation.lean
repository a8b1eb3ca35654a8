import InventorySync.Foundations.Except
import InventorySync.Pandas.DataFrame

/-!
# Ingest validation

`require_columns` and `require_non_null`: the structural checks a batch of raw records passes
before dedup.
-/

open Python Pandas

namespace Ingest

/-- Raise if any of `required` is missing from `records`. -/
def requireColumns (records : DataFrame) (required : List String) : Except PyException Unit :=
  let missing := required.filter fun name => !records.columns.contains name
  if missing.isEmpty then .ok ()
  else .error ⟨.recordValidationError,
    "Missing required column(s): " ++ String.intercalate ", " missing ++ "."⟩

/-- `values.isna() | (values.astype(str).str.strip() == "")` on one value. -/
def isBlank (value : PyValue) : Bool := value.isna || strip value.text == ""

/-- Raise if any row's `column` value is null, NaN, or blank. -/
def requireNonNull (records : DataFrame) (column : String) : Except PyException Unit := do
  let values ← records.column column
  let blankCount := values.countP isBlank
  if blankCount = 0 then .ok ()
  else .error ⟨.recordValidationError,
    toString blankCount ++ " row(s) have a null or blank '" ++ column ++ "' value; '" ++ column ++
      "' must uniquely identify every record."⟩

theorem requireColumns_eq_ok {records : DataFrame} {required : List String} :
    requireColumns records required = .ok () ↔ ∀ name ∈ required, name ∈ records.columns := by
  unfold requireColumns
  simp only [List.isEmpty_iff, List.filter_eq_nil_iff]
  split
  next h => simpa using h
  next h => simpa using h

theorem requireNonNull_eq_ok {records : DataFrame} {column : String}
    (hcolumn : column ∈ records.columns) :
    requireNonNull records column = .ok () ↔
      ∀ row ∈ records.rows, ∀ value, cell records.columns row column = some value →
        isBlank value = false := by
  have hvalues : records.column column =
      .ok (records.rows.filterMap fun row => cell records.columns row column) := by
    simp [DataFrame.column, hcolumn]
  rw [requireNonNull, hvalues]
  change (if _ then _ else _) = _ ↔ _
  split
  -- no blank value was counted
  next h =>
    simp only [true_iff]
    intro row hrow value hvalue
    have hnot := List.countP_eq_zero.1 h value (List.mem_filterMap.2 ⟨row, hrow, hvalue⟩)
    simpa using hnot
  -- a counted value comes from some row
  next h =>
    simp only [reduceCtorEq, false_iff]
    intro hall
    refine h (List.countP_eq_zero.2 fun value hvalue => ?_)
    obtain ⟨row, hrow, hcell⟩ := List.mem_filterMap.1 hvalue
    simp [hall row hrow value hcell]

/-- Decimal digits are no white space. -/
theorem isSpace_of_isDigit {c : Char} (h : c.isDigit = true) : isSpace c = false := by
  have hrange : 48 ≤ c.toNat ∧ c.toNat ≤ 57 := by
    simpa [Char.isDigit, UInt32.le_iff_toNat_le] using h
  simp only [isSpace, Bool.or_eq_false_iff, Bool.and_eq_false_iff, decide_eq_false_iff_not,
    beq_eq_false_iff_ne]
  omega

/-- The text of an integer has a digit. -/
theorem exists_isDigit_mem_repr (n : ℤ) : ∃ c ∈ n.repr.toList, c.isDigit = true := by
  have hnat : ∀ m : ℕ, ∃ c ∈ m.repr.toList, c.isDigit = true := by
    intro m
    obtain ⟨c, hc⟩ := List.exists_mem_of_ne_nil _ (Nat.toDigits_ne_nil (n := m) (b := 10))
    rw [Nat.repr_eq_ofList_toDigits, String.toList_ofList]
    exact ⟨c, hc, Nat.isDigit_of_mem_toDigits (by decide) (by decide) hc⟩
  rw [Int.repr_eq_if]
  split
  next => exact hnat n.toNat
  -- a minus sign before the digits
  next =>
    obtain ⟨c, hc, hdigit⟩ := hnat (-n).toNat
    refine ⟨c, ?_, hdigit⟩
    rw [String.toList_append]
    exact List.mem_append_right _ hc

/-- An integer is never blank. -/
theorem isBlank_int (n : ℤ) : isBlank (.int n) = false := by
  have hnot : strip n.repr ≠ "" := by
    rw [Ne, strip_eq_empty_iff]
    intro hall
    obtain ⟨c, hc, hdigit⟩ := exists_isDigit_mem_repr n
    simpa [isSpace_of_isDigit hdigit] using hall c hc
  simp [isBlank, PyValue.isna, PyValue.text, hnot]

end Ingest
