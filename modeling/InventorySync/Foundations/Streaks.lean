import Mathlib.Data.List.DropRight
import Mathlib.Data.List.Infix

/-!
# Runs of equal elements

How long a list ends in one element, and when it contains a block of that element. Both are told
element by element from the front, as a counter that is reset sees them.

* `replicate_suffix_iff`: a list ends in a block exactly as long as its trailing streak;
* `replicate_infix_concat`: one more element completes a block only as the end of a streak.
-/

namespace List

variable {α : Type*} [DecidableEq α] {a x : α} {n : ℕ} {l : List α}

/-- How often `a` stands at the end of a list without interruption. -/
def streak (a : α) (l : List α) : ℕ := (l.rtakeWhile (· == a)).length

@[simp]
theorem streak_nil (a : α) : streak a [] = 0 := rfl

@[simp]
theorem streak_concat_self (a : α) (l : List α) : streak a (l ++ [a]) = streak a l + 1 := by
  rw [streak, rtakeWhile_concat_pos _ _ _ (by simp), length_append]
  rfl

theorem streak_concat_of_ne (h : x ≠ a) (l : List α) : streak a (l ++ [x]) = 0 := by
  rw [streak, rtakeWhile_concat_neg _ _ _ (by simpa using h)]
  rfl

/-- A list ends in a block exactly when its streak is as long. -/
theorem replicate_suffix_iff : replicate n a <:+ l ↔ n ≤ streak a l := by
  induction l using List.reverseRecOn generalizing n with
  | nil => simp
  | append_singleton l x ih =>
    cases n with
    | zero => simp
    | succ n =>
      rw [replicate_succ', suffix_concat_iff]
      by_cases hx : x = a
      · subst hx
        simp [ih]
      · have hne : ¬a = x := Ne.symm hx
        simp [streak_concat_of_ne hx, hne]

/-- A block in a list with one more element was there before, or it ends with that element. -/
theorem replicate_infix_concat :
    replicate n a <:+: l ++ [x] ↔ replicate n a <:+: l ∨ n ≤ streak a (l ++ [x]) := by
  rw [infix_concat_iff, replicate_suffix_iff, or_comm]

end List
