import InventorySync.Ingest.LoadRecords

/-!
# CSV feeds

`CsvRecordReader.load_chunks` and `CsvInventorySource`: a CSV file is cut into chunks of
`chunksize` rows and each chunk is typed on its own, a column all of whose cells are integer
literals becoming integers and any other column keeping its text.
-/

open Python Pandas

namespace Ingest

/-! ### Integer literals -/

/-- The number a string of decimal digits denotes. -/
def digitsValue (digits : List Char) : ℕ := digits.foldl (fun n c => 10 * n + (c.toNat - 48)) 0

/-- A nonempty string of decimal digits, as a number. -/
def naturalLiteral? (digits : List Char) : Option ℕ :=
  if !digits.isEmpty && digits.all Char.isDigit then some (digitsValue digits) else none

/-- An optional sign and a nonempty string of decimal digits, as a number. -/
def integerLiteral? (text : String) : Option ℤ :=
  match text.toList with
  | '-' :: digits => (naturalLiteral? digits).map fun n : ℕ => -(n : ℤ)
  | '+' :: digits => (naturalLiteral? digits).map Int.ofNat
  | digits => (naturalLiteral? digits).map Int.ofNat

theorem exists_isDigit_of_naturalLiteral? {digits : List Char} {n : ℕ}
    (h : naturalLiteral? digits = some n) : ∃ c ∈ digits, c.isDigit = true := by
  rw [naturalLiteral?] at h
  split at h
  next hdigits =>
    simp only [Bool.and_eq_true, Bool.not_eq_true', List.isEmpty_eq_false_iff,
      List.all_eq_true] at hdigits
    obtain ⟨c, hc⟩ := List.exists_mem_of_ne_nil digits hdigits.1
    exact ⟨c, hc, hdigits.2 c hc⟩
  next => cases h

/-- A literal has a digit. -/
theorem exists_isDigit_of_integerLiteral? {text : String} {n : ℤ}
    (h : integerLiteral? text = some n) : ∃ c ∈ text.toList, c.isDigit = true := by
  rw [integerLiteral?] at h
  split at h
  next digits htext =>
    obtain ⟨m, hm, -⟩ := Option.map_eq_some_iff.1 h
    obtain ⟨c, hc, hdigit⟩ := exists_isDigit_of_naturalLiteral? hm
    exact ⟨c, htext ▸ List.mem_cons_of_mem _ hc, hdigit⟩
  next digits htext =>
    obtain ⟨m, hm, -⟩ := Option.map_eq_some_iff.1 h
    obtain ⟨c, hc, hdigit⟩ := exists_isDigit_of_naturalLiteral? hm
    exact ⟨c, htext ▸ List.mem_cons_of_mem _ hc, hdigit⟩
  -- without a sign, the text is all digits
  next =>
    obtain ⟨m, hm, -⟩ := Option.map_eq_some_iff.1 h
    exact exists_isDigit_of_naturalLiteral? hm

/-- No literal is blank. -/
theorem isBlank_of_integerLiteral? {text : String} {n : ℤ} (h : integerLiteral? text = some n) :
    isBlank (.str text) = false := by
  have hnot : strip text ≠ "" := by
    rw [Ne, strip_eq_empty_iff]
    intro hall
    obtain ⟨c, hc, hdigit⟩ := exists_isDigit_of_integerLiteral? h
    simpa [isSpace_of_isDigit hdigit] using hall c hc
  simpa [isBlank, PyValue.isna, PyValue.text] using hnot

/-! ### Cutting a feed into chunks -/

section Slices

variable {α : Type*}

/-- `slices` with a bound on the number of pieces. -/
def slicesAux (n : ℕ) : ℕ → List α → List (List α)
  | 0, _ => []
  | _ + 1, [] => []
  | fuel + 1, xs => xs.take n :: slicesAux n fuel (xs.drop n)

/-- The list cut into pieces of `n` elements, the last of which may be shorter. -/
def slices (n : ℕ) (xs : List α) : List (List α) := slicesAux n xs.length xs

theorem flatten_slicesAux {n : ℕ} (hn : 0 < n) {fuel : ℕ} {xs : List α} (hfuel : xs.length ≤ fuel) :
    (slicesAux n fuel xs).flatten = xs := by
  induction fuel generalizing xs with
  | zero => simp [slicesAux, List.length_eq_zero_iff.1 (Nat.le_zero.1 hfuel)]
  | succ fuel ih =>
    cases xs with
    | nil => rfl
    | cons x xs =>
      -- as `n` is positive, taking a piece off shortens the list
      have hdrop : ((x :: xs).drop n).length ≤ fuel := by
        rw [List.length_drop, List.length_cons] at *
        omega
      rw [slicesAux, List.flatten_cons, ih hdrop, List.take_append_drop]
      simp

/-- The pieces make up the list. -/
theorem flatten_slices {n : ℕ} (hn : 0 < n) (xs : List α) : (slices n xs).flatten = xs :=
  flatten_slicesAux hn le_rfl

/-- A piece as long as the list is the list. -/
theorem slices_length {xs : List α} (hne : xs ≠ []) : slices xs.length xs = [xs] := by
  cases xs with
  | nil => exact absurd rfl hne
  | cons x xs =>
    rw [slices, List.length_cons, slicesAux, ← List.length_cons, List.take_length,
      List.drop_length]
    · cases xs <;> rfl
    · simp

theorem slicesAux_one {fuel : ℕ} {xs : List α} (hfuel : xs.length ≤ fuel) :
    slicesAux 1 fuel xs = xs.map fun x => [x] := by
  induction fuel generalizing xs with
  | zero => simp [slicesAux, List.length_eq_zero_iff.1 (Nat.le_zero.1 hfuel)]
  | succ fuel ih =>
    cases xs with
    | nil => rfl
    | cons x xs =>
      have htail : slicesAux 1 fuel xs = xs.map fun x => [x] := ih (by simpa using hfuel)
      simp [slicesAux, htail]

/-- Pieces of one element. -/
theorem slices_one (xs : List α) : slices 1 xs = xs.map fun x => [x] := slicesAux_one le_rfl

end Slices

/-! ### Reading a feed -/

/-- A row of a CSV file: one text for each column. -/
abbrev CsvRow (header : List String) : Type := { row : List String // row.length = header.length }

/-- The text of a CSV file: the column labels, which the reader has made distinct, and the cells of
each row. -/
structure CsvFeed where
  header : List String
  nodup_header : header.Nodup
  rows : List (CsvRow header)

/-- The `j`-th column of a chunk holds integer literals only. -/
def columnIsInteger (slice : List (List String)) (j : ℕ) : Bool :=
  slice.all fun row => ((row[j]?).bind integerLiteral?).isSome

/-- The cell that the reader makes of a text in the `j`-th column of a chunk. -/
def readCell (slice : List (List String)) (j : ℕ) (text : String) : PyValue :=
  -- the type of a cell is decided by its whole column in the chunk
  match integerLiteral? text with
  | some n => if columnIsInteger slice j then .int n else .str text
  | none => .str text

/-- The row that the reader makes of a row of a chunk. -/
def readRow (slice : List (List String)) (row : List String) : List PyValue :=
  row.mapIdx (readCell slice)

namespace CsvFeed

variable (feed : CsvFeed)

/-- The rows of each chunk of a chunked read. A file without rows has one, empty, chunk. -/
def chunks (chunksize : ℕ) : List (List (CsvRow feed.header)) :=
  if feed.rows.isEmpty then [[]] else slices chunksize feed.rows

/-- The frame read from the rows of one chunk. -/
def frame (slice : List (CsvRow feed.header)) : DataFrame where
  columns := feed.header
  rows := slice.map fun row => readRow (slice.map Subtype.val) row.val
  rectangular := by
    intro cells hcells
    obtain ⟨row, -, rfl⟩ := List.mem_map.1 hcells
    rw [readRow, List.length_mapIdx, row.property]

/-- The frames of `pd.read_csv(path, chunksize=chunksize)`. -/
def frames (chunksize : ℕ) : List DataFrame := (feed.chunks chunksize).map feed.frame

/-- `CsvInventorySource(path)` for a path that holds the feed. -/
def source : RecordSource := .chunked fun chunksize =>
  if chunksize < 1 then .error ⟨.valueError, "'chunksize' must be an integer >=1"⟩
  else .ok ((feed.frames chunksize.toNat).map .ok)

/-- The rows of the feed as they are read under a chunk size, in file order. -/
def readRows (chunksize : ℕ) : List (List PyValue) :=
  (feed.frames chunksize).flatMap DataFrame.rows

/-- The text under a label. -/
def text (key : String) (row : CsvRow feed.header) : String :=
  (row.val[feed.header.idxOf key]?).getD ""

end CsvFeed

end Ingest
