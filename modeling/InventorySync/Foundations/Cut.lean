import Mathlib.Data.List.DropRight
import Mathlib.Data.List.TakeWhile
import Mathlib.Tactic.Common

/-!
# Cutting and trimming lists

`List.cut p` separates what stands before the first element that satisfies `p` from the rest, and
`List.rcut p` what stands after the last such element. Both leave the delimiter in the part that
is not asked for. `List.trim p` drops such elements at both ends.

* `cut_append_of_mem`, `cut_append_of_notMem`: cutting a list that is continued;
* `trim_eq_self_iff`: the lists that trimming leaves alone.
-/

namespace List

variable {α : Type*} (p : α → Bool)

/-- What stands before the first delimiter, and the list from there on. -/
def cut (l : List α) : List α × List α := (l.takeWhile (!p ·), l.dropWhile (!p ·))

/-- The list up to the last delimiter, and what stands after it. -/
def rcut (l : List α) : List α × List α :=
  ((l.reverse.dropWhile (!p ·)).reverse, (l.reverse.takeWhile (!p ·)).reverse)

variable {p} {l m : List α}

theorem fst_cut_append_snd (p : α → Bool) (l : List α) : (l.cut p).1 ++ (l.cut p).2 = l :=
  takeWhile_append_dropWhile

theorem not_of_mem_fst_cut {a : α} (h : a ∈ (l.cut p).1) : p a = false := by
  simpa using mem_takeWhile_imp h

/-- What is cut off begins with a delimiter. -/
theorem mem_drop_snd_cut {a : α} (h : a ∈ (l.cut p).2) (ha : p a = false) :
    a ∈ (l.cut p).2.drop 1 := by
  cases hcut : (l.cut p).2 with
  | nil => simp [hcut] at h
  | cons b rest =>
    have hb : (!p b) = false := by
      have hhead := head?_dropWhile_not (!p ·) l
      rw [show l.dropWhile (!p ·) = b :: rest from hcut] at hhead
      exact hhead
    rw [hcut, mem_cons] at h
    refine h.resolve_left ?_
    rintro rfl
    rw [ha] at hb
    cases hb

/-- A list without a delimiter is not cut. -/
theorem cut_of_notMem (h : ∀ a ∈ l, p a = false) : l.cut p = (l, []) := by
  have hall : ∀ a ∈ l, (!p a) = true := fun a ha => by rw [h a ha]; rfl
  rw [cut, takeWhile_eq_self_iff.2 hall, dropWhile_eq_nil_iff.2 hall]

/-- The first delimiter of the first part stays the first one. -/
theorem cut_append_of_mem (h : ∃ a ∈ l, p a = true) :
    (l ++ m).cut p = ((l.cut p).1, (l.cut p).2 ++ m) := by
  induction l with
  | nil => simp at h
  | cons a l ih =>
    by_cases ha : p a = true
    · simp [cut, ha]
    · -- the head is passed over, and the delimiter is further on
      have hl : ∃ b ∈ l, p b = true := by simpa [ha] using h
      have hcut := ih hl
      simp only [cut, Prod.mk.injEq] at hcut
      simp [cut, ha, hcut.1, hcut.2]

/-- Without a delimiter in the first part, the second part is cut. -/
theorem cut_append_of_notMem (h : ∀ a ∈ l, p a = false) :
    (l ++ m).cut p = (l ++ (m.cut p).1, (m.cut p).2) := by
  have hall : ∀ a ∈ l, (!p a) = true := fun a ha => by rw [h a ha]; rfl
  rw [cut, takeWhile_append_of_pos hall, dropWhile_append_of_pos hall, cut]

theorem length_fst_cut_le (p : α → Bool) (l : List α) : (l.cut p).1.length ≤ l.length :=
  (takeWhile_sublist _).length_le

theorem fst_rcut_append_snd (p : α → Bool) (l : List α) : (l.rcut p).1 ++ (l.rcut p).2 = l := by
  rw [rcut, ← reverse_append, takeWhile_append_dropWhile, reverse_reverse]

/-- Dropping a front keeps what is not to be dropped. -/
theorem mem_dropWhile_of_not {a : α} (h : a ∈ l) (ha : p a = false) : a ∈ l.dropWhile p := by
  rw [← takeWhile_append_dropWhile (p := p) (l := l), mem_append] at h
  refine h.resolve_left fun hmem => ?_
  rw [mem_takeWhile_imp hmem] at ha
  cases ha

/-- The part after the last delimiter of a list that ends with a list without one. -/
theorem rcut_append_cons {a : α} (ha : p a = true) (hm : ∀ b ∈ m, p b = false) :
    (l ++ a :: m).rcut p = (l ++ [a], m) := by
  have hall : ∀ b ∈ m.reverse, (!p b) = true := by
    intro b hb
    rw [hm b (mem_reverse.1 hb)]
    rfl
  have hsplit : (l ++ a :: m).reverse = m.reverse ++ (a :: l.reverse) := by simp
  rw [rcut, hsplit, takeWhile_append_of_pos hall, dropWhile_append_of_pos hall]
  simp [ha]

/-! ### Trimming -/

/-- The list without the elements at its ends that satisfy `p`. -/
def trim (p : α → Bool) (l : List α) : List α := (l.dropWhile p).rdropWhile p

theorem not_of_mem_head?_dropWhile {a : α} (h : a ∈ (l.dropWhile p).head?) : p a = false := by
  have hhead := head?_dropWhile_not p l
  rw [Option.mem_def.1 h] at hhead
  exact hhead

theorem not_of_mem_head?_trim {a : α} (h : a ∈ (l.trim p).head?) : p a = false := by
  -- what is trimmed at the back does not change the head
  obtain ⟨rest, hrest⟩ := rdropWhile_prefix p (l.dropWhile p)
  apply not_of_mem_head?_dropWhile (l := l)
  rw [← hrest, head?_append, ← trim, Option.mem_def.1 h]
  rfl

theorem not_of_mem_getLast?_rdropWhile {a : α} (h : a ∈ (l.rdropWhile p).getLast?) :
    p a = false := by
  obtain ⟨hne, rfl⟩ := mem_getLast?_eq_getLast h
  exact Bool.eq_false_iff.2 (rdropWhile_last_not p l hne)

theorem rdropWhile_eq_self (h : ∀ a ∈ l.getLast?, p a = false) : l.rdropWhile p = l := by
  rw [rdropWhile_eq_self_iff]
  intro hne
  rw [h _ (getLast?_eq_some_getLast hne)]
  exact Bool.false_ne_true

/-- Trimming leaves a list alone exactly when no end of it is to be trimmed. -/
theorem trim_eq_self_iff :
    l.trim p = l ↔ (∀ a ∈ l.head?, p a = false) ∧ ∀ a ∈ l.getLast?, p a = false := by
  constructor
  · intro h
    rw [← h]
    exact ⟨fun a => not_of_mem_head?_trim, fun a => not_of_mem_getLast?_rdropWhile⟩
  · rintro ⟨hhead, hlast⟩
    have hdrop : l.dropWhile p = l := by
      cases l with
      | nil => rfl
      | cons a l => rw [dropWhile_cons_of_neg (by rw [hhead a rfl]; exact Bool.false_ne_true)]
    rw [trim, hdrop, rdropWhile_eq_self hlast]

/-- One element at each end is trimmed off. -/
theorem trim_cons_concat {a b : α} (ha : p a = true) (hb : p b = true) (hl : l ≠ [])
    (h : l.trim p = l) : (a :: l ++ [b]).trim p = l := by
  obtain ⟨hhead, hlast⟩ := trim_eq_self_iff.1 h
  have hdrop : (l ++ [b]).dropWhile p = l ++ [b] := by
    cases l with
    | nil => exact absurd rfl hl
    | cons c l =>
      rw [cons_append, dropWhile_cons_of_neg (by rw [hhead c rfl]; exact Bool.false_ne_true)]
  rw [trim, cons_append, dropWhile_cons_of_pos ha, hdrop, rdropWhile_concat_pos p l b hb,
    rdropWhile_eq_self hlast]

end List
