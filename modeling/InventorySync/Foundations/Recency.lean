import Mathlib.Data.List.Pairwise
import Mathlib.Data.List.Sort
import InventorySync.Foundations.InsertionDict

/-!
# The last item of each key

A list is read as a stream of items, of which later ones supersede earlier ones with the same key.
Two ways of keeping the last item of each key:

* `keepLast` drops every item that a later one supersedes, so the survivors stand in the order of
  their *last* occurrence;
* `collect` overwrites the entry of the item's key in an insertion-ordered dictionary, so the
  survivors stand in the order of their key's *first* occurrence.

Both keep the same items (`mem_keepLast`, `mem_collect`). They agree as lists exactly when no key
lies with all its items between two items of another key (`collect_eq_keepLast_iff`).
-/

namespace Recency

variable {α κ : Type*}

/-! ### First and last occurrences in a list of keys -/

section Order

variable [DecidableEq κ]

/-- Some key has all its occurrences between two occurrences of another key. -/
def Enclosed (l : List κ) : Prop :=
  ∃ a b p m s, l = p ++ a :: (m ++ a :: s) ∧ b ≠ a ∧ b ∈ m ∧ b ∉ p ∧ b ∉ s

/-- `eraseDups` lists the keys by first occurrence. -/
theorem pairwise_eraseDups (l : List κ) :
    l.eraseDups.Pairwise fun a b => l.idxOf a < l.idxOf b := by
  induction l using List.reverseRecOn with
  | nil => simp
  | append_singleton l x ih =>
    have hlift : l.eraseDups.Pairwise fun a b => (l ++ [x]).idxOf a < (l ++ [x]).idxOf b := by
      refine ih.imp_of_mem fun {a b} ha hb hab => ?_
      rwa [List.idxOf_append_of_mem (List.mem_eraseDups.1 ha),
        List.idxOf_append_of_mem (List.mem_eraseDups.1 hb)]
    rw [List.eraseDups_append]
    -- an element seen before adds nothing, a new one comes last
    by_cases hx : x ∈ l
    · simpa [List.removeAll, hx] using hlift
    · have hlast : (List.removeAll [x] l).eraseDups = [x] := by
        simp [List.removeAll, hx, List.eraseDups_cons]
      rw [hlast, List.pairwise_append]
      refine ⟨hlift, List.pairwise_singleton _ _, fun a ha b hb => ?_⟩
      have ha' : a ∈ l := List.mem_eraseDups.1 ha
      obtain rfl : b = x := List.mem_singleton.1 hb
      rw [List.idxOf_append_of_mem ha', List.idxOf_append_of_notMem hx]
      exact Nat.lt_add_right _ (List.idxOf_lt_length_of_mem ha')

/-- Keeping last occurrences is keeping first occurrences of the reversed list. -/
theorem dedup_eq_reverse_eraseDups (l : List κ) : l.dedup = l.reverse.eraseDups.reverse := by
  induction l with
  | nil => rfl
  | cons a l ih =>
    rw [List.reverse_cons, List.eraseDups_append, List.reverse_append, ← ih]
    -- the reversed list meets the head of `l` last, so it counts only if it is new there
    by_cases ha : a ∈ l
    · simp [List.removeAll, ha, List.dedup_cons_of_mem ha]
    · simp [List.removeAll, ha, List.dedup_cons_of_notMem ha, List.eraseDups_cons]

/-- `dedup` lists the keys by last occurrence. -/
theorem pairwise_dedup (l : List κ) :
    l.dedup.Pairwise fun a b => l.reverse.idxOf b < l.reverse.idxOf a := by
  rw [dedup_eq_reverse_eraseDups, List.pairwise_reverse]
  exact pairwise_eraseDups l.reverse

/-- The list split at the first occurrence of `a`, which `b` follows. -/
theorem exists_split_first {l : List κ} {a b : κ} (h : l.idxOf a < l.idxOf b) :
    ∃ p r, l = p ++ a :: r ∧ a ∉ p ∧ b ∉ p := by
  have ha : a ∈ l := List.idxOf_lt_length_iff.1 (h.trans_le List.idxOf_le_length)
  obtain ⟨p, r, rfl, hp⟩ := List.eq_append_cons_of_mem ha
  refine ⟨p, r, rfl, hp, fun hb => ?_⟩
  rw [List.idxOf_append_of_notMem hp, List.idxOf_append_of_mem hb, List.idxOf_cons_self] at h
  have hlt : p.idxOf b < p.length := List.idxOf_lt_length_of_mem hb
  omega

theorem idxOf_lt_of_split {p r : List κ} {a b : κ} (hb : b ∉ p) (hba : b ≠ a) :
    (p ++ a :: r).idxOf a < (p ++ a :: r).idxOf b := by
  have ha : (p ++ a :: r).idxOf a ≤ p.length := by
    by_cases hap : a ∈ p
    · rw [List.idxOf_append_of_mem hap]
      exact List.idxOf_le_length
    · simp [List.idxOf_append_of_notMem hap]
  rw [List.idxOf_append_of_notMem hb, List.idxOf_cons_ne r (Ne.symm hba)]
  omega

/-- If `a` starts before `b` and ends after `b`, all of `b` lies between two occurrences of
`a`. -/
theorem enclosed_of_lt {l : List κ} {a b : κ} (hb : b ∈ l) (hba : b ≠ a)
    (hfirst : l.idxOf a < l.idxOf b) (hlast : l.reverse.idxOf a < l.reverse.idxOf b) :
    Enclosed l := by
  obtain ⟨p, r, hl, hap, hbp⟩ := exists_split_first hfirst
  obtain ⟨s', q', hrev, has, hbs⟩ := exists_split_first hlast
  have hl' : l = q'.reverse ++ a :: s'.reverse := by
    rw [← List.reverse_reverse l, hrev]
    simp
  rw [← List.mem_reverse] at has hbs
  -- The first `a` stands before the last one: otherwise it would lie in `p`, or `b` nowhere.
  rcases List.append_eq_append_iff.1 (hl.symm.trans hl') with ⟨u, hq, hu⟩ | ⟨u, hp, hu⟩
  · cases u with
    | nil =>
      obtain rfl : r = s'.reverse := by simpa using hu
      exact absurd hb (by simp [hl, hbp, hba, hbs])
    | cons x m =>
      obtain ⟨rfl, hr⟩ := List.cons.inj hu
      have hbm : b ∈ m := by simpa [hl, hr, hbp, hba, hbs] using hb
      exact ⟨a, b, p, m, s'.reverse, by rw [hl, hr]; rfl, hba, hbm, hbp, hbs⟩
  · cases u with
    | nil =>
      obtain rfl : s'.reverse = r := by simpa using hu
      exact absurd hb (by simp [hl, hbp, hba, hbs])
    | cons x m =>
      obtain ⟨rfl, -⟩ := List.cons.inj hu
      exact absurd (hp ▸ by simp : a ∈ p) hap

/-- If first and last occurrences stand in the same order, a key that starts later ends later. -/
theorem idxOf_reverse_lt_of_eq {l : List κ} (heq : l.eraseDups = l.dedup) {a b : κ} (ha : a ∈ l)
    (hb : b ∈ l) (hab : a ≠ b) (hfirst : l.idxOf a < l.idxOf b) :
    l.reverse.idxOf b < l.reverse.idxOf a := by
  -- `SameOrder` is symmetric, so that it holds of any two keys and not only of neighbours in the
  -- pairwise order
  let SameOrder (x y : κ) : Prop :=
    (l.idxOf x < l.idxOf y ∧ l.reverse.idxOf y < l.reverse.idxOf x) ∨
      (l.idxOf y < l.idxOf x ∧ l.reverse.idxOf x < l.reverse.idxOf y)
  have hsymm : Std.Symm SameOrder := ⟨fun x y h => h.symm⟩
  have hpair : l.eraseDups.Pairwise SameOrder := by
    have hlast := pairwise_dedup l
    rw [← heq] at hlast
    exact ((pairwise_eraseDups l).and hlast).imp .inl
  rcases hpair.forall (List.mem_eraseDups.2 ha) (List.mem_eraseDups.2 hb) hab with h | h
  · exact h.2
  · exact absurd hfirst (Nat.lt_asymm h.1)

/-- First occurrences and last occurrences stand in the same order exactly when no key encloses
another. -/
theorem eraseDups_eq_dedup_iff (l : List κ) : l.eraseDups = l.dedup ↔ ¬Enclosed l := by
  constructor
  · -- `a` encloses `b`: it starts before `b` and ends after it, so the two orders differ on them
    rintro heq ⟨a, b, p, m, s, hl, hba, hbm, hbp, hbs⟩
    have ha : a ∈ l := by simp [hl]
    have hb : b ∈ l := by simp [hl, hbm]
    have hfirst : l.idxOf a < l.idxOf b := hl ▸ idxOf_lt_of_split hbp hba
    have hlast : l.reverse.idxOf a < l.reverse.idxOf b := by
      have hrev : l.reverse = s.reverse ++ a :: (m.reverse ++ a :: p.reverse) := by simp [hl]
      rw [hrev]
      exact idxOf_lt_of_split (by simpa using hbs) hba
    exact Nat.lt_asymm hlast (idxOf_reverse_lt_of_eq heq ha hb (Ne.symm hba) hfirst)
  · -- without enclosure both lists are sorted by last occurrence, and they have the same members
    intro hnot
    have hfirst : l.eraseDups.Pairwise fun a b => l.reverse.idxOf b < l.reverse.idxOf a := by
      refine (pairwise_eraseDups l).imp_of_mem fun {a b} ha hb hab => ?_
      have hba : b ≠ a := by
        rintro rfl
        exact Nat.lt_irrefl _ hab
      -- otherwise `a`, which starts before `b`, also ends after it
      by_contra hnlt
      have hmem : b ∈ l.reverse := List.mem_reverse.2 (List.mem_eraseDups.1 hb)
      have hne : l.reverse.idxOf a ≠ l.reverse.idxOf b := by
        intro h
        exact hba ((List.idxOf_inj hmem).1 h.symm)
      exact hnot (enclosed_of_lt (List.mem_eraseDups.1 hb) hba hab (by omega))
    have hirrefl : Std.Irrefl fun a b : κ => l.reverse.idxOf b < l.reverse.idxOf a :=
      ⟨fun a => Nat.lt_irrefl _⟩
    have hantisymm : Std.Antisymm fun a b : κ => l.reverse.idxOf b < l.reverse.idxOf a :=
      ⟨fun a b h h' => absurd h' (Nat.lt_asymm h)⟩
    refine hfirst.eq_of_mem_iff (pairwise_dedup l) fun a => ?_
    rw [List.mem_eraseDups, List.mem_dedup]

end Order

/-! ### Keeping the last item of each key -/

section Keyed

variable {key : α → κ}

/-- `x` is the last item of `l` with its key. -/
def IsLatest (key : α → κ) (l : List α) (x : α) : Prop :=
  ∃ p s, l = p ++ x :: s ∧ key x ∉ s.map key

theorem exists_of_forall₂_mem {β : Type*} {R : β → α → Prop} {m : List β} {l : List α}
    (hlists : List.Forall₂ R m l) {y : β} (hy : y ∈ m) : ∃ x ∈ l, R y x := by
  induction hlists with
  | nil => cases hy
  | @cons b a m l hab _ ih =>
    rcases List.mem_cons.1 hy with rfl | hy
    · exact ⟨a, List.mem_cons_self, hab⟩
    · obtain ⟨x, hx, hR⟩ := ih hy
      exact ⟨x, List.mem_cons_of_mem a hx, hR⟩

/-- Where different items stand for different ones, a list without repetitions stands for one. -/
theorem nodup_of_forall₂ {β : Type*} {R : β → α → Prop} {m : List β} {l : List α}
    (hlists : List.Forall₂ R m l) (hR : ∀ y y' x, R y x → R y' x → y = y') (hm : m.Nodup) :
    l.Nodup := by
  induction hlists with
  | nil => exact List.nodup_nil
  | @cons b a m l hab hrest ih =>
    obtain ⟨hb, hm⟩ := List.nodup_cons.1 hm
    refine List.nodup_cons.2 ⟨fun ha => hb ?_, ih hm⟩
    obtain ⟨y, hy, hya⟩ := exists_of_forall₂_mem hrest.flip ha
    exact hR b y a hab hya ▸ hy

theorem not_isLatest_nil (x : α) : ¬IsLatest key [] x := by
  rintro ⟨p, s, h, -⟩
  simp at h

theorem isLatest_cons {z x : α} {l : List α} :
    IsLatest key (z :: l) x ↔ IsLatest key l x ∨ (x = z ∧ key z ∉ l.map key) := by
  constructor
  · rintro ⟨p, s, h, hs⟩
    cases p with
    | nil =>
      obtain ⟨rfl, rfl⟩ := List.cons.inj h
      exact .inr ⟨rfl, hs⟩
    | cons w p =>
      obtain ⟨rfl, rfl⟩ := List.cons.inj h
      exact .inl ⟨p, s, rfl, hs⟩
  · rintro (⟨p, s, rfl, hs⟩ | ⟨rfl, hl⟩)
    · exact ⟨z :: p, s, rfl, hs⟩
    · exact ⟨[], l, rfl, hl⟩

/-- The latest items of two lists in a row are those of the second one, and those of the first one
whose keys do not occur in the second one. -/
theorem isLatest_append {l m : List α} {x : α} :
    IsLatest key (l ++ m) x ↔ IsLatest key m x ∨ (IsLatest key l x ∧ key x ∉ m.map key) := by
  induction l with
  | nil => simp [not_isLatest_nil]
  | cons z l ih =>
    rw [List.cons_append, isLatest_cons, isLatest_cons, ih, List.map_append, List.mem_append,
      not_or]
    constructor
    · rintro ((hm | ⟨hl, hnot⟩) | ⟨rfl, hnotl, hnotm⟩)
      · exact .inl hm
      · exact .inr ⟨.inl hl, hnot⟩
      · exact .inr ⟨.inr ⟨rfl, hnotl⟩, hnotm⟩
    · rintro (hm | ⟨hl | ⟨rfl, hnotl⟩, hnot⟩)
      · exact .inl (.inl hm)
      · exact .inl (.inr ⟨hl, hnot⟩)
      · exact .inr ⟨rfl, hnotl, hnot⟩

theorem IsLatest.mem {l : List α} {x : α} (hx : IsLatest key l x) : x ∈ l := by
  obtain ⟨p, s, rfl, -⟩ := hx
  simp

/-- A key has one latest item. -/
theorem IsLatest.unique {l : List α} {x y : α} (hx : IsLatest key l x) (hy : IsLatest key l y)
    (hxy : key x = key y) : x = y := by
  induction l with
  | nil => exact absurd hx (not_isLatest_nil x)
  | cons z l ih =>
    have hmem : ∀ w, IsLatest key l w → key w ∈ l.map key := fun w hw =>
      List.mem_map_of_mem hw.mem
    -- a latest element is the head or one of the tail, and the head is one only if the tail lacks
    -- its key
    rcases isLatest_cons.1 hx with hxl | ⟨hxz, hnot⟩
    · rcases isLatest_cons.1 hy with hyl | ⟨hyz, hnot⟩
      · exact ih hxl hyl
      · rw [← hyz, ← hxy] at hnot
        exact absurd (hmem x hxl) hnot
    · rcases isLatest_cons.1 hy with hyl | ⟨hyz, -⟩
      · rw [← hxz, hxy] at hnot
        exact absurd (hmem y hyl) hnot
      · exact hxz.trans hyz.symm

/-- Where each item of a list stands for one of another, and different keys there are different keys
here, the latest item of a key stands for a latest item. -/
theorem IsLatest.exists_of_forall₂ {β κ' : Type*} {R : β → α → Prop} {key' : β → κ'} {m : List β}
    {l : List α} (hlists : List.Forall₂ R m l)
    (hkey : ∀ y x y' x', R y x → R y' x' → key' y = key' y' → key x = key x') {x : α}
    (hx : IsLatest key l x) : ∃ y, R y x ∧ IsLatest key' m y := by
  induction hlists with
  | nil => exact absurd hx (not_isLatest_nil x)
  | @cons b a m l hab hrest ih =>
    rcases isLatest_cons.1 hx with hlater | ⟨rfl, hlast⟩
    · obtain ⟨y, hy, hlatest⟩ := ih hlater
      exact ⟨y, hy, isLatest_cons.2 (.inl hlatest)⟩
    · refine ⟨b, hab, isLatest_cons.2 (.inr ⟨rfl, fun hmem => hlast ?_⟩)⟩
      -- a later item with the same key would stand for a later item with the same key
      obtain ⟨y, hy, heq⟩ := List.mem_map.1 hmem
      obtain ⟨a', ha', hR⟩ := exists_of_forall₂_mem hrest hy
      exact hkey y a' b x hR hab heq ▸ List.mem_map_of_mem ha'

/-- Every key that occurs has a latest item. -/
theorem exists_isLatest {l : List α} {k : κ} (hk : k ∈ l.map key) :
    ∃ x, IsLatest key l x ∧ key x = k := by
  induction l with
  | nil => simp at hk
  | cons z l ih =>
    by_cases hl : k ∈ l.map key
    · obtain ⟨x, hx, hxk⟩ := ih hl
      exact ⟨x, isLatest_cons.2 (.inl hx), hxk⟩
    · -- no later item has the key, so the head is its latest
      obtain rfl : k = key z := by simpa [hl] using hk
      exact ⟨z, isLatest_cons.2 (.inr ⟨rfl, hl⟩), rfl⟩

/-- Two lists of latest items with the same keys in the same order are equal. -/
theorem eq_of_map_key_eq {l xs ys : List α} (hxs : ∀ x ∈ xs, IsLatest key l x)
    (hys : ∀ y ∈ ys, IsLatest key l y) (h : xs.map key = ys.map key) : xs = ys := by
  induction xs generalizing ys with
  | nil => simpa [eq_comm] using h
  | cons x xs ih =>
    cases ys with
    | nil => simp at h
    | cons y ys =>
      obtain ⟨hkey, hrest⟩ := List.cons.inj h
      have hhead : x = y := (hxs x List.mem_cons_self).unique (hys y List.mem_cons_self) hkey
      have htail : xs = ys :=
        ih (fun z hz => hxs z (List.mem_cons_of_mem x hz))
          (fun z hz => hys z (List.mem_cons_of_mem y hz)) hrest
      rw [hhead, htail]

variable [DecidableEq κ]

/-- Drop every item that a later one supersedes. -/
def keepLast (key : α → κ) : List α → List α
  | [] => []
  | x :: l => if key x ∈ l.map key then keepLast key l else x :: keepLast key l

/-- Set the entry of every item's key to that item, in order, and read the dictionary back. -/
def collect (key : α → κ) (l : List α) : List α :=
  (InsertionDict.ofPairs (l.map fun x => (key x, x))).values

theorem mem_keepLast {l : List α} {x : α} : x ∈ keepLast key l ↔ IsLatest key l x := by
  induction l with
  | nil => simp [keepLast, not_isLatest_nil]
  | cons z l ih =>
    rw [isLatest_cons, keepLast]
    by_cases hz : key z ∈ l.map key
    · rw [if_pos hz, ih]
      simp [hz]
    · rw [if_neg hz, List.mem_cons, ih]
      simp [hz, or_comm]

theorem map_key_keepLast (l : List α) : (keepLast key l).map key = (l.map key).dedup := by
  induction l with
  | nil => rfl
  | cons z l ih =>
    rw [keepLast, List.map_cons]
    by_cases hz : key z ∈ l.map key
    · rw [if_pos hz, ih, List.dedup_cons_of_mem hz]
    · rw [if_neg hz, List.map_cons, ih, List.dedup_cons_of_notMem hz]

theorem mem_collect {l : List α} {x : α} : x ∈ collect key l ↔ IsLatest key l x := by
  have hentry : x ∈ collect key l ↔
      ∃ k, (k, x) ∈ (InsertionDict.ofPairs (l.map fun x => (key x, x))).entries := by
    simp [collect, InsertionDict.values]
  rw [hentry]
  constructor
  · rintro ⟨k, hk⟩
    -- the split of the pairs at the entry is a split of the items
    obtain ⟨p, s, hsplit, hs⟩ := (InsertionDict.mem_entries_ofPairs _ _).1 hk
    obtain ⟨p', t, rfl, rfl, ht⟩ := List.map_eq_append_iff.1 hsplit
    obtain ⟨y, s', rfl, hy, rfl⟩ := List.map_eq_cons_iff.1 ht
    obtain ⟨rfl, rfl⟩ := Prod.mk.inj hy
    exact ⟨p', s', rfl, by simpa using hs⟩
  · rintro ⟨p, s, rfl, hs⟩
    refine ⟨key x, (InsertionDict.mem_entries_ofPairs _ _).2
      ⟨p.map fun x => (key x, x), s.map fun x => (key x, x), by simp, by simpa using hs⟩⟩

theorem map_key_collect_eq_keys (l : List α) :
    (collect key l).map key = (InsertionDict.ofPairs (l.map fun x => (key x, x))).keys := by
  have hentry : ∀ e ∈ (InsertionDict.ofPairs (l.map fun x => (key x, x))).entries,
      key e.2 = e.1 := by
    intro e he
    obtain ⟨p, s, hsplit, -⟩ := (InsertionDict.mem_entries_ofPairs _ e).1 he
    have hmem : e ∈ l.map fun x => (key x, x) := by simp [hsplit]
    obtain ⟨x, -, rfl⟩ := List.mem_map.1 hmem
    rfl
  rw [collect, InsertionDict.values, List.map_map, InsertionDict.keys]
  exact List.map_congr_left hentry

theorem map_key_collect (l : List α) : (collect key l).map key = (l.map key).eraseDups := by
  rw [map_key_collect_eq_keys, InsertionDict.keys_ofPairs, List.map_map]
  rfl

theorem nodup_keepLast (l : List α) : ((keepLast key l).map key).Nodup := by
  rw [map_key_keepLast]
  exact List.nodup_dedup _

theorem nodup_collect (l : List α) : ((collect key l).map key).Nodup := by
  rw [map_key_collect_eq_keys]
  exact InsertionDict.nodup_keys _

theorem keepLast_map {β : Type*} (f : β → α) (l : List β) :
    keepLast key (l.map f) = (keepLast (fun x => key (f x)) l).map f := by
  induction l with
  | nil => rfl
  | cons z l ih =>
    rw [List.map_cons, keepLast, keepLast, List.map_map, ih]
    simp only [Function.comp_def]
    split <;> rfl

theorem keepLast_congr {key' : α → κ} {l : List α} (h : ∀ x ∈ l, key x = key' x) :
    keepLast key l = keepLast key' l := by
  induction l with
  | nil => rfl
  | cons z l ih =>
    have hmap : l.map key = l.map key' :=
      List.map_congr_left fun x hx => h x (List.mem_cons_of_mem z hx)
    rw [keepLast, keepLast, hmap, h z List.mem_cons_self,
      ih fun x hx => h x (List.mem_cons_of_mem z hx)]

theorem collect_map {β : Type*} (f : β → α) (l : List β) :
    collect key (l.map f) = (collect (fun x => key (f x)) l).map f := by
  have hpairs : (l.map f).map (fun x => (key x, x)) =
      (l.map fun x => (key (f x), x)).map (Prod.map id f) := by simp
  rw [collect, collect, InsertionDict.values, InsertionDict.values, hpairs,
    InsertionDict.entries_ofPairs_map (g := id) f fun _ _ _ _ h => h]
  simp

/-- `collect` depends on the keys only through which of them are equal. -/
theorem collect_congr {κ' : Type*} [DecidableEq κ'] {key' : α → κ'} {g : κ → κ'} {l : List α}
    (hg : ∀ a ∈ l.map key, ∀ b ∈ l.map key, g a = g b → a = b)
    (h : ∀ x ∈ l, key' x = g (key x)) : collect key' l = collect key l := by
  have hpairs : l.map (fun x => (key' x, x)) =
      (l.map fun x => (key x, x)).map (Prod.map g id) := by
    rw [List.map_map]
    exact List.map_congr_left fun x hx => by simp [h x hx]
  rw [collect, collect, InsertionDict.values, InsertionDict.values, hpairs,
    InsertionDict.entries_ofPairs_map id (by simpa using hg)]
  simp

/-- The first item collected is the latest one with the key that occurs first. -/
theorem exists_collect_cons (key : α → κ) (x : α) (l : List α) :
    ∃ y rest, collect key (x :: l) = y :: rest ∧ IsLatest key (x :: l) y ∧ key y = key x := by
  have hkeys : (collect key (x :: l)).map key =
      key x :: ((l.map key).filter fun b => !b == key x).eraseDups := by
    rw [map_key_collect, List.map_cons, List.eraseDups_cons]
  obtain ⟨y, rest, hsplit, hy, -⟩ := List.map_eq_cons_iff.1 hkeys
  refine ⟨y, rest, hsplit, mem_collect.1 ?_, hy⟩
  rw [hsplit]
  exact List.mem_cons_self

/-- The two ways keep the same items. -/
theorem collect_perm_keepLast (l : List α) : (collect key l).Perm (keepLast key l) := by
  refine (List.perm_ext_iff_of_nodup (nodup_collect l).of_map (nodup_keepLast l).of_map).2 ?_
  intro x
  rw [mem_collect, mem_keepLast]

/-- Items with distinct keys are kept as they are. -/
theorem collect_of_nodup {l : List α} (h : (l.map key).Nodup) : collect key l = l := by
  have hkeys : ((l.map fun x => (key x, x)).map Prod.fst).Nodup := by
    rwa [List.map_map]
  rw [collect, InsertionDict.values, InsertionDict.entries_ofPairs_of_nodup hkeys, List.map_map]
  exact List.map_id l

/-- Collecting twice is collecting once. -/
theorem collect_collect (l : List α) : collect key (collect key l) = collect key l :=
  collect_of_nodup (nodup_collect l)

/-- The two ways agree exactly when no key has all its items between two items of another key. -/
theorem collect_eq_keepLast_iff (l : List α) :
    collect key l = keepLast key l ↔ ¬Enclosed (l.map key) := by
  rw [← eraseDups_eq_dedup_iff, ← map_key_collect, ← map_key_keepLast]
  constructor
  · rintro h
    rw [h]
  · exact eq_of_map_key_eq (fun x hx => mem_collect.1 hx) (fun y hy => mem_keepLast.1 hy)

end Keyed

end Recency
