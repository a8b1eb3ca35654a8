import Mathlib.Algebra.Group.Int.Defs
import InventorySync.Foundations.Hexadecimal
import InventorySync.Python.Exceptions
import InventorySync.Python.Text

/-!
# Reading UUIDs

`uuid.UUID(hex)` and `int(text, 16)`, which it leaves the digits to: whatever `urn:`, `uuid:`,
braces and hyphens are deleted, and `int` reads signs, a `0x`, underscores between the digits,
white space around them, and digits of any script.

* `int16?_of_plain`: without any of these, `int` reads exactly the hexadecimal digits.
-/

namespace Python

open Hexadecimal PercentEncoding

/-- `Py_ISSPACE` -/
def isAsciiSpace (c : Char) : Bool := (9 ≤ c.toNat && c.toNat ≤ 13) || c == ' '

/-- One character of `_PyUnicode_TransformDecimalAndSpaceToASCII`. -/
def toAsciiDigit [TextTables] (c : Char) : Char :=
  if isAscii c then c
  else if isSpace c then ' '
  else
    match TextTables.decimal? c with
    | some d => Char.ofNat (48 + d)
    | none => '?'

/-- The sign that a number starts with, if it has one. -/
def splitSign : List Char → ℤ × List Char
  | '+' :: text => (1, text)
  | '-' :: text => (-1, text)
  | text => (1, text)

/-- The number without `0x`, behind which one underscore may stand. -/
def dropHexPrefix : List Char → List Char
  | '0' :: 'x' :: '_' :: text => text
  | '0' :: 'X' :: '_' :: text => text
  | '0' :: 'x' :: text => text
  | '0' :: 'X' :: text => text
  | text => text

/-- A character inside the digits of a number. -/
def isDigitOrUnderscore (c : Char) : Bool := (hexValue? c).isSome || c == '_'

/-- A digit follows every underscore. -/
def underscoresFollowed : List Char → Bool
  | [] => true
  | ['_'] => false
  | '_' :: '_' :: _ => false
  | _ :: text => underscoresFollowed text

/-- `int(text, 16)`, if it does not raise. -/
def int16? [TextTables] (text : List Char) : Option ℤ :=
  let signed := splitSign ((text.map toAsciiDigit).dropWhile isAsciiSpace)
  let number := dropHexPrefix signed.2
  let digits := number.takeWhile isDigitOrUnderscore
  let rest := number.dropWhile isDigitOrUnderscore
  if digits = [] ∨ digits.head? = some '_' ∨ underscoresFollowed digits = false ∨
      rest.all isAsciiSpace = false then none
  else (hexNumber? (digits.filter (· != '_'))).map fun n : ℕ => signed.1 * (n : ℤ)

/-- A brace. -/
def isBrace (c : Char) : Bool := c == '{' || c == '}'

/-- What is left of the text of a UUID for `int` to read. -/
def uuidDigits (hex : List Char) : List Char :=
  let hex := deleteAll "uuid:".toList 0 (deleteAll "urn:".toList 0 hex)
  (hex.trim isBrace).filter (· != '-')

/-- `uuid.UUID(hex).int` -/
def uuidInt [TextTables] (hex : List Char) : Except PyException ℕ :=
  if (uuidDigits hex).length ≠ 32 then
    .error ⟨.valueError, "badly formed hexadecimal UUID string"⟩
  else
    match int16? (uuidDigits hex) with
    | none => .error ⟨.valueError, "invalid literal for int() with base 16: " ++
        reprText (String.ofList (uuidDigits hex))⟩
    | some n =>
      if 0 ≤ n ∧ n < 2 ^ 128 then .ok n.toNat
      else .error ⟨.valueError, "int is out of range (need a 128-bit value)"⟩

/-- A text is read exactly if 32 characters are left that `int` reads as a 128-bit number. -/
theorem exists_uuidInt_eq_ok_iff [TextTables] {hex : List Char} :
    (∃ n, uuidInt hex = .ok n) ↔ (uuidDigits hex).length = 32 ∧
      ∃ n, int16? (uuidDigits hex) = some n ∧ 0 ≤ n ∧ n < 2 ^ 128 := by
  unfold uuidInt
  by_cases hlength : (uuidDigits hex).length = 32
  · rw [if_neg (not_not_intro hlength)]
    cases hint : int16? (uuidDigits hex) with
    | none => simp
    | some n =>
      simp only [hlength, Option.some.injEq, true_and, exists_eq_left']
      split
      next hrange => exact iff_of_true ⟨_, rfl⟩ hrange
      next hrange => exact iff_of_false (by rintro ⟨_, ⟨⟩⟩) hrange
  · rw [if_pos hlength]
    simp [hlength]

/-! ### Plain digits -/

/-- A character that `int` does not treat in a way of its own, digits aside. -/
def isPlain (c : Char) : Bool :=
  isAscii c && !isAsciiSpace c && !"+-_xX".toList.contains c

/-- A hexadecimal digit is plain. -/
theorem isPlain_of_hexValue? {c : Char} (h : (hexValue? c).isSome = true) : isPlain c = true := by
  have hlt : c.toNat < 128 := by
    by_contra hle
    have hnone : hexValue? c = none := by
      simp only [hexValue?]
      rw [if_neg (by omega), if_neg (by omega), if_neg (by omega)]
    rw [hnone] at h
    cases h
  -- so there are few characters to check
  have hall : ∀ m : Fin 128, (hexValue? (Char.ofNat m)).isSome = true →
      isPlain (Char.ofNat m) = true := by decide
  have hc := hall ⟨c.toNat, hlt⟩
  rw [Char.ofNat_toNat] at hc
  exact hc h

section Plain

variable {text : List Char} (h : ∀ c ∈ text, isPlain c = true)

include h

theorem map_toAsciiDigit_of_plain [TextTables] : text.map toAsciiDigit = text := by
  have hid : ∀ c ∈ text, toAsciiDigit c = id c := by
    intro c hc
    have hplain := h c hc
    simp only [isPlain, Bool.and_eq_true] at hplain
    rw [toAsciiDigit, if_pos hplain.1.1, id]
  rw [List.map_congr_left hid, List.map_id]

theorem isAsciiSpace_of_plain {c : Char} (hc : c ∈ text) : isAsciiSpace c = false := by
  have hplain := h c hc
  simp only [isPlain, Bool.and_eq_true, Bool.not_eq_true'] at hplain
  exact hplain.1.2

theorem ne_of_plain {c d : Char} (hc : c ∈ text) (hd : d ∈ "+-_xX".toList) : c ≠ d := by
  rintro rfl
  have hplain := h c hc
  rw [isPlain, List.contains_iff_mem.2 hd, Bool.not_true, Bool.and_false] at hplain
  cases hplain

/-- A plain text has no sign and no `0x`. -/
theorem dropHexPrefix_splitSign_of_plain :
    splitSign text = (1, text) ∧ dropHexPrefix text = text := by
  constructor
  · unfold splitSign
    split
    next => exact absurd rfl (ne_of_plain h List.mem_cons_self (by decide))
    next => exact absurd rfl (ne_of_plain h List.mem_cons_self (by decide))
    next => rfl
  · have hx {d : Char} {rest : List Char} (htext : text = '0' :: d :: rest)
        (hd : d ∈ "+-_xX".toList) : False :=
      ne_of_plain h (htext ▸ List.mem_cons_of_mem _ List.mem_cons_self) hd rfl
    -- an `x` behind the zero would not be plain
    unfold dropHexPrefix
    split
    next => exact (hx rfl (by decide)).elim
    next => exact (hx rfl (by decide)).elim
    next => exact (hx rfl (by decide)).elim
    next => exact (hx rfl (by decide)).elim
    next => rfl

theorem underscoresFollowed_of_plain : underscoresFollowed text = true := by
  induction text with
  | nil => rfl
  | cons c text ih =>
    have hc : c ≠ '_' := ne_of_plain h List.mem_cons_self (by decide)
    rw [underscoresFollowed.eq_4 _ _ (fun hmem _ => hc hmem) (fun _ hmem _ => hc hmem)]
    exact ih fun d hd => h d (List.mem_cons_of_mem c hd)

/-- Without anything that it treats in a way of its own, `int` reads the hexadecimal digits. -/
theorem int16?_of_plain [TextTables] (hne : text ≠ []) :
    int16? text = (hexNumber? text).map fun n : ℕ => (n : ℤ) := by
  have hdrop : text.dropWhile isAsciiSpace = text := by
    cases text with
    | nil => rfl
    | cons c text =>
      rw [List.dropWhile_cons_of_neg]
      rw [isAsciiSpace_of_plain h List.mem_cons_self]
      exact Bool.false_ne_true
  obtain ⟨hsign, hprefix⟩ := dropHexPrefix_splitSign_of_plain h
  simp only [int16?, map_toAsciiDigit_of_plain h, hdrop, hsign, hprefix]
  by_cases hall : ∀ c ∈ text, (hexValue? c).isSome = true
  · -- every character is a digit, and there is nothing behind them
    have hdigit : ∀ c ∈ text, isDigitOrUnderscore c = true := by
      intro c hc
      rw [isDigitOrUnderscore, hall c hc, Bool.true_or]
    have hfilter : text.filter (· != '_') = text := by
      rw [List.filter_eq_self]
      intro c hc
      exact bne_iff_ne.2 (ne_of_plain h hc (by decide))
    have hhead : text.head? ≠ some '_' := by
      intro hhead
      exact ne_of_plain h (List.mem_of_mem_head? hhead) (by decide) rfl
    rw [List.takeWhile_eq_self_iff.2 hdigit, List.dropWhile_eq_nil_iff.2 hdigit, hfilter,
      if_neg (by simp [hne, hhead, underscoresFollowed_of_plain h])]
    simp
  · -- the first character that is no digit stops the reading, and it is no white space
    obtain ⟨c, hc, hdigit⟩ : ∃ c ∈ text, (hexValue? c).isSome = false := by simpa using hall
    have hrest : c ∈ text.dropWhile isDigitOrUnderscore := by
      apply List.mem_dropWhile_of_not hc
      rw [isDigitOrUnderscore, hdigit, Bool.false_or, beq_eq_false_iff_ne]
      exact ne_of_plain h hc (by decide)
    have hspace : (text.dropWhile isDigitOrUnderscore).all isAsciiSpace = false := by
      rw [List.all_eq_false]
      exact ⟨c, hrest, by rw [isAsciiSpace_of_plain h hc]; exact Bool.false_ne_true⟩
    have hnone : hexNumber? text = none := by
      rw [← Option.not_isSome_iff_eq_none, isSome_hexNumber?_iff]
      exact hall
    rw [if_pos (.inr (.inr (.inr hspace))), hnone]
    rfl

end Plain

end Python
