import Mathlib.Algebra.Group.Nat.Defs
import InventorySync.Foundations.PercentEncoding

/-!
# Hexadecimal numbers

The number that a sequence of hexadecimal digits denotes, most significant digit first.

* `isSome_hexNumber?_iff`: exactly the sequences of digits denote one;
* `hexNumber?_lt`: as many digits as it has bound it.
-/

namespace Hexadecimal

open PercentEncoding

/-- One more digit behind the number `n`. -/
def shiftIn (n : ℕ) (c : Char) : Option ℕ := (hexValue? c).map (16 * n + ·)

/-- The number that a sequence of digits denotes. -/
def hexNumber? (digits : List Char) : Option ℕ := digits.foldlM shiftIn 0

theorem hexValue?_lt {c : Char} {n : ℕ} (h : hexValue? c = some n) : n < 16 := by
  simp only [hexValue?] at h
  -- one range of characters after the other
  split at h
  · cases h; omega
  · split at h
    · cases h; omega
    · split at h
      · cases h; omega
      · cases h

theorem isSome_foldlM_shiftIn_iff (digits : List Char) (n : ℕ) :
    (digits.foldlM shiftIn n).isSome = true ↔ ∀ c ∈ digits, (hexValue? c).isSome = true := by
  induction digits generalizing n with
  | nil => simp
  | cons c digits ih =>
    rw [List.foldlM_cons, shiftIn]
    cases hc : hexValue? c with
    | none => simp [hc]
    | some d =>
      have hrest := ih (16 * n + d)
      simp [hc, hrest]

/-- Exactly the sequences of digits denote a number. -/
theorem isSome_hexNumber?_iff (digits : List Char) :
    (hexNumber? digits).isSome = true ↔ ∀ c ∈ digits, (hexValue? c).isSome = true :=
  isSome_foldlM_shiftIn_iff digits 0

theorem foldlM_shiftIn_lt {digits : List Char} {n m : ℕ} (h : digits.foldlM shiftIn n = some m) :
    m < 16 ^ digits.length * (n + 1) := by
  induction digits generalizing n with
  | nil =>
    obtain rfl := Option.some.inj h
    simp
  | cons c digits ih =>
    rw [List.foldlM_cons, shiftIn] at h
    cases hc : hexValue? c with
    | none => simp [hc] at h
    | some d =>
      have hd : d < 16 := hexValue?_lt hc
      have hlt : m < 16 ^ digits.length * (16 * n + d + 1) := ih (by simpa [hc] using h)
      -- a digit below 16 behind `n` leaves the number below `16 * (n + 1)`
      have hle : 16 ^ digits.length * (16 * n + d + 1) ≤ 16 ^ digits.length * (16 * (n + 1)) :=
        Nat.mul_le_mul_left _ (by omega)
      rw [List.length_cons, Nat.pow_succ, Nat.mul_assoc]
      exact Nat.lt_of_lt_of_le hlt hle

/-- A number is bounded by how many digits it has. -/
theorem hexNumber?_lt {digits : List Char} {n : ℕ} (h : hexNumber? digits = some n) :
    n < 16 ^ digits.length := by
  have hlt := foldlM_shiftIn_lt h
  simpa using hlt

end Hexadecimal
