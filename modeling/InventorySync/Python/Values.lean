import Mathlib.Data.List.TakeWhile
import Mathlib.Data.Rat.Defs
import InventorySync.Python.Exceptions

/-!
# Python values

The values that travel from a feed through dedup into a request: strings, numbers, missing values,
and the other attributes that `getattr` finds on a tuple. Floats are finite and carry the rational
they denote together with the text `repr` gives for them, so that both Python's `==` (which
compares an `int` and a `float` by value) and `str` are those of the value.
-/

namespace Python

/-- `str.isspace` on one character. -/
def isSpace (c : Char) : Bool :=
  let n := c.toNat
  (9 ≤ n && n ≤ 13) || (28 ≤ n && n ≤ 32) || n == 0x85 || n == 0xA0 || n == 0x1680 ||
    (0x2000 ≤ n && n ≤ 0x200A) || n == 0x2028 || n == 0x2029 || n == 0x202F || n == 0x205F ||
    n == 0x3000

/-- `str.strip()`. -/
def strip (s : String) : String :=
  String.ofList ((s.toList.dropWhile isSpace).reverse.dropWhile isSpace).reverse

/-- Stripping leaves nothing exactly when every character is white space. -/
theorem strip_eq_empty_iff (s : String) : strip s = "" ↔ ∀ c ∈ s.toList, isSpace c = true := by
  have hofList : strip s = "" ↔
      ((s.toList.dropWhile isSpace).reverse.dropWhile isSpace).reverse = [] := by
    rw [strip, ← String.ofList_nil, String.ofList_inj]
  rw [hofList, List.reverse_eq_nil_iff, List.dropWhile_eq_nil_iff]
  constructor
  · intro h c hc
    rw [← List.takeWhile_append_dropWhile (p := isSpace) (l := s.toList), List.mem_append] at hc
    rcases hc with hc | hc
    · exact List.mem_takeWhile_imp hc
    · exact h c (List.mem_reverse.2 hc)
  · intro h c hc
    exact h c ((List.dropWhile_sublist isSpace).subset (List.mem_reverse.1 hc))

/-- A finite `float`: the rational it denotes and the text `repr` gives for it. -/
structure PyFloat where
  value : ℚ
  repr : String
  /-- `repr` of a float is never blank. -/
  repr_not_blank : strip repr ≠ ""
  deriving DecidableEq

/-- A value held by a cell of a `DataFrame` or read off a row. -/
inductive PyValue
  | str (s : String)
  | int (n : ℤ)
  | float (f : PyFloat)
  | bool (b : Bool)
  /-- `None` -/
  | none
  /-- `float("nan")`, the missing value as `pandas` hands it to a row -/
  | nan
  /-- `_fields` of a row: the tuple of its field names -/
  | fieldNames (names : List String)
  /-- Any other attribute of a row that is not one of its cells, kept opaque: `_field_defaults`,
  which is an empty `dict`, or a method of the tuple type. -/
  | rowAttribute (name : String)
  deriving DecidableEq

namespace PyValue

/-- `pandas.isna` on one value. -/
def isna : PyValue → Bool
  | none => true
  | nan => true
  | _ => false

/-- `type(self).__name__` -/
def typeName : PyValue → String
  | str _ => "str"
  | int _ => "int"
  | float _ => "float"
  | bool _ => "bool"
  | none => "NoneType"
  | nan => "float"
  | fieldNames _ => "tuple"
  | rowAttribute name =>
    if name = "_field_defaults" then "dict"
    else if name = "count" ∨ name = "index" then "builtin_function_or_method"
    else "method"

/-- `str(self)`, which is also what `Series.astype(str)` gives for one value. -/
def text : PyValue → String
  | str s => s
  | int n => toString n
  | float f => f.repr
  | bool b => if b then "True" else "False"
  | none => "None"
  | nan => "nan"
  -- field names are identifiers, so each is quoted as it is
  | fieldNames [name] => "('" ++ name ++ "',)"
  | fieldNames names => "(" ++ ", ".intercalate (names.map fun name => "'" ++ name ++ "'") ++ ")"
  | rowAttribute name => "<attribute " ++ name ++ ">"

/-- What the hash tables of `dict` and `drop_duplicates` compare: numbers by value, everything
else as it is. -/
inductive HashKey
  | text (s : String)
  | number (q : ℚ)
  | none
  | nan
  | fieldNames (names : List String)
  | rowAttribute (name : String)
  deriving DecidableEq

/-- The hash-table identity of a value, so that `1`, `1.0` and `True` are one key. -/
def hashKey : PyValue → HashKey
  | str s => .text s
  | int n => .number n
  | float f => .number f.value
  | bool b => .number (if b then 1 else 0)
  | none => .none
  | nan => .nan
  | fieldNames names => .fieldNames names
  | rowAttribute name => .rowAttribute name

@[simp]
theorem hashKey_str (s : String) : (str s).hashKey = .text s := rfl

@[simp]
theorem hashKey_int (n : ℤ) : (int n).hashKey = .number n := rfl

end PyValue

end Python
