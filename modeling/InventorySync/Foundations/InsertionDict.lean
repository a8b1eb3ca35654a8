import Mathlib.Data.List.Dedup
import Mathlib.Data.List.Induction
import Mathlib.Data.List.Nodup
import Mathlib.Tactic.Common

/-!
# Insertion-ordered dictionaries

A dictionary that keeps its keys in the order in which they were first inserted: setting a key that
is present overwrites its value in place, setting a new key appends it.

* `keys_ofPairs`: inserting a sequence of pairs leaves its keys in first-occurrence order;
* `mem_entries_ofPairs`: the value kept for a key is the one of its last pair.
-/

variable {κ ν : Type*}

/-- A dictionary that keeps its keys in insertion order. -/
structure InsertionDict (κ ν : Type*) where
  /-- The entries, in insertion order of their keys. -/
  entries : List (κ × ν)
  /-- A key has one entry. -/
  nodup_keys : (entries.map Prod.fst).Nodup

namespace InsertionDict

/-- The keys, in insertion order. -/
def keys (d : InsertionDict κ ν) : List κ := d.entries.map Prod.fst

/-- The values, in insertion order of their keys. -/
def values (d : InsertionDict κ ν) : List ν := d.entries.map Prod.snd

/-- The dictionary with no entry. -/
def empty : InsertionDict κ ν := ⟨[], List.nodup_nil⟩

variable [DecidableEq κ]

/-- Overwrite the entry of `k`, or append one. -/
def setEntry (k : κ) (v : ν) : List (κ × ν) → List (κ × ν)
  | [] => [(k, v)]
  | e :: es => if e.1 = k then (k, v) :: es else e :: setEntry k v es

theorem keys_setEntry (k : κ) (v : ν) (es : List (κ × ν)) :
    (setEntry k v es).map Prod.fst =
      if k ∈ es.map Prod.fst then es.map Prod.fst else es.map Prod.fst ++ [k] := by
  induction es with
  | nil => simp [setEntry]
  | cons e es ih =>
    by_cases hek : e.1 = k
    · simp [setEntry, hek]
    · have hke : k ≠ e.1 := Ne.symm hek
      simp only [setEntry, hek, if_false, List.map_cons, ih, List.mem_cons, hke, false_or]
      split <;> simp

theorem nodup_keys_setEntry (k : κ) (v : ν) {es : List (κ × ν)} (h : (es.map Prod.fst).Nodup) :
    ((setEntry k v es).map Prod.fst).Nodup := by
  rw [keys_setEntry]
  split
  next => exact h
  next hk =>
    refine List.nodup_append.2 ⟨h, List.nodup_singleton k, ?_⟩
    rintro a ha b hb rfl
    exact hk (List.mem_singleton.1 hb ▸ ha)

theorem mem_setEntry (k : κ) (v : ν) {es : List (κ × ν)} (h : (es.map Prod.fst).Nodup)
    (e : κ × ν) : e ∈ setEntry k v es ↔ e = (k, v) ∨ (e.1 ≠ k ∧ e ∈ es) := by
  induction es with
  | nil => simp [setEntry]
  | cons x es ih =>
    have htail : (es.map Prod.fst).Nodup := (List.nodup_cons.1 h).2
    have hhead : x.1 ∉ es.map Prod.fst := (List.nodup_cons.1 h).1
    by_cases hxk : x.1 = k
    · -- the head is overwritten, and by `h` no other entry has the key
      have hes : ∀ e ∈ es, e.1 ≠ k := by
        rintro e he rfl
        exact hhead (hxk ▸ List.mem_map_of_mem he)
      simp only [setEntry, hxk, if_true, List.mem_cons]
      constructor
      · rintro (rfl | he)
        · exact .inl rfl
        · exact .inr ⟨hes e he, .inr he⟩
      · rintro (rfl | ⟨hne, rfl | he⟩)
        · exact .inl rfl
        · exact absurd hxk hne
        · exact .inr he
    · simp only [setEntry, hxk, if_false, List.mem_cons, ih htail]
      constructor
      · rintro (rfl | rfl | ⟨hne, he⟩)
        · exact .inr ⟨hxk, .inl rfl⟩
        · exact .inl rfl
        · exact .inr ⟨hne, .inr he⟩
      · rintro (rfl | ⟨hne, rfl | he⟩)
        · exact .inr (.inl rfl)
        · exact .inl rfl
        · exact .inr (.inr ⟨hne, he⟩)

/-- A new key is appended. -/
theorem setEntry_of_notMem {k : κ} {v : ν} {es : List (κ × ν)} (h : k ∉ es.map Prod.fst) :
    setEntry k v es = es ++ [(k, v)] := by
  induction es with
  | nil => rfl
  | cons e es ih =>
    rw [List.map_cons, List.mem_cons, not_or] at h
    rw [setEntry, if_neg (Ne.symm h.1), ih h.2, List.cons_append]

/-- `d[k] = v` -/
def set (d : InsertionDict κ ν) (k : κ) (v : ν) : InsertionDict κ ν :=
  ⟨setEntry k v d.entries, nodup_keys_setEntry k v d.nodup_keys⟩

@[simp]
theorem entries_set (d : InsertionDict κ ν) (k : κ) (v : ν) :
    (d.set k v).entries = setEntry k v d.entries := rfl

theorem mem_values_set_self (d : InsertionDict κ ν) (k : κ) (v : ν) : v ∈ (d.set k v).values :=
  List.mem_map.2 ⟨(k, v), (mem_setEntry k v d.nodup_keys _).2 (.inl rfl), rfl⟩

/-- A value in the dictionary was set last or was there. -/
theorem eq_or_mem_of_mem_values_set {d : InsertionDict κ ν} {k : κ} {v w : ν}
    (h : w ∈ (d.set k v).values) : w = v ∨ w ∈ d.values := by
  obtain ⟨e, he, rfl⟩ := List.mem_map.1 h
  rcases (mem_setEntry k v d.nodup_keys e).1 he with rfl | ⟨-, hmem⟩
  · exact .inl rfl
  · exact .inr (List.mem_map_of_mem hmem)

/-- `d.get(k)` -/
def get? (d : InsertionDict κ ν) (k : κ) : Option ν := d.entries.lookup k

theorem lookup_setEntry (k k' : κ) (v : ν) (es : List (κ × ν)) :
    (setEntry k v es).lookup k' = if k' = k then some v else es.lookup k' := by
  induction es with
  | nil =>
    rw [setEntry, List.lookup_cons]
    by_cases hk : k' = k
    · simp [hk]
    · simp [hk, beq_eq_false_iff_ne.2 hk]
  | cons e es ih =>
    by_cases hek : e.1 = k
    · rw [setEntry, if_pos hek, List.lookup_cons, List.lookup_cons, hek]
      by_cases hk : k' = k
      · simp [hk]
      · simp [hk, beq_eq_false_iff_ne.2 hk]
    · rw [setEntry, if_neg hek, List.lookup_cons, List.lookup_cons, ih]
      by_cases hk : k' = k
      · -- the entry passed over has another key
        have hne : k ≠ e.1 := Ne.symm hek
        simp [hk, beq_eq_false_iff_ne.2 hne]
      · simp [hk]

@[simp]
theorem get?_empty (k : κ) : (empty : InsertionDict κ ν).get? k = none := rfl

theorem lookup_eq_none_iff_notMem {k : κ} {es : List (κ × ν)} :
    es.lookup k = none ↔ k ∉ es.map Prod.fst := by
  rw [List.lookup_eq_none_iff]
  simp only [bne_iff_ne, List.mem_map, not_exists, not_and]
  exact forall₂_congr fun e _ => ne_comm

/-- An entry is found under its key, which no other entry has. -/
theorem lookup_of_mem {es : List (κ × ν)} (hnodup : (es.map Prod.fst).Nodup) {e : κ × ν}
    (he : e ∈ es) : es.lookup e.1 = some e.2 := by
  obtain ⟨before, after, rfl⟩ := List.append_of_mem he
  rw [List.map_append, List.map_cons, List.nodup_append] at hnodup
  refine List.lookup_eq_some_iff.2 ⟨before, after, rfl, fun e' he' => ?_⟩
  rw [bne_iff_ne]
  exact (hnodup.2.2 e'.1 (List.mem_map_of_mem he') e.1 List.mem_cons_self).symm

/-- Exactly the keys have a value. -/
theorem get?_eq_none_iff {d : InsertionDict κ ν} {k : κ} : d.get? k = none ↔ k ∉ d.keys :=
  lookup_eq_none_iff_notMem

theorem get?_set (d : InsertionDict κ ν) (k k' : κ) (v : ν) :
    (d.set k v).get? k' = if k' = k then some v else d.get? k' :=
  lookup_setEntry k k' v d.entries

/-- `d.update(other)` -/
def update (d other : InsertionDict κ ν) : InsertionDict κ ν :=
  other.entries.foldl (fun d e => d.set e.1 e.2) d

/-- Setting the pairs of a sequence with distinct keys, except where the key is excluded. -/
theorem get?_foldl_set_unless (excluded : κ → Bool) {es : List (κ × ν)}
    (hnodup : (es.map Prod.fst).Nodup) (d : InsertionDict κ ν) (k : κ) :
    (es.foldl (fun d e => if excluded e.1 then d else d.set e.1 e.2) d).get? k =
      if excluded k then d.get? k else (es.lookup k).or (d.get? k) := by
  induction es generalizing d with
  | nil => simp
  | cons e es ih =>
    obtain ⟨hhead, htail⟩ := List.nodup_cons.1 hnodup
    rw [List.foldl_cons, ih htail, List.lookup_cons]
    by_cases hk : k = e.1
    · subst hk
      -- no later pair has the key
      have hnone : es.lookup e.1 = none := lookup_eq_none_iff_notMem.2 hhead
      by_cases hexcluded : excluded e.1 = true
      · simp [hexcluded]
      · simp [hexcluded, hnone, get?_set]
    · have hother : (if excluded e.1 = true then d else d.set e.1 e.2).get? k = d.get? k := by
        split
        · rfl
        · rw [get?_set, if_neg hk]
      rw [hother, beq_eq_false_iff_ne.2 hk]

/-- After an update, the entries of the other dictionary come first. -/
theorem get?_update (d other : InsertionDict κ ν) (k : κ) :
    (d.update other).get? k = (other.get? k).or (d.get? k) := by
  have hset := get?_foldl_set_unless (fun _ => false) other.nodup_keys d k
  simpa [update, get?] using hset

/-- `del d[k]` -/
def erase (d : InsertionDict κ ν) (k : κ) : InsertionDict κ ν :=
  ⟨d.entries.filter fun e => e.1 ≠ k,
    d.nodup_keys.sublist (List.filter_sublist.map Prod.fst)⟩

theorem get?_erase (d : InsertionDict κ ν) (k k' : κ) :
    (d.erase k).get? k' = if k' = k then none else d.get? k' := by
  simp only [get?, erase]
  induction d.entries with
  | nil => simp
  | cons e es ih =>
    rw [List.filter_cons]
    by_cases hek : e.1 = k
    · have hskip : decide (e.1 ≠ k) = false := by simp [hek]
      rw [hskip, if_neg Bool.false_ne_true, ih, List.lookup_cons, hek]
      by_cases hk : k' = k
      · simp [hk]
      · simp [hk, beq_eq_false_iff_ne.2 hk]
    · have hkeep : decide (e.1 ≠ k) = true := by simp [hek]
      rw [hkeep, if_pos rfl, List.lookup_cons, List.lookup_cons, ih]
      by_cases hk : k' = k
      · simp [hk, beq_eq_false_iff_ne.2 (Ne.symm hek)]
      · simp [hk]

/-- Setting the values that a function has for a sequence of keys. -/
theorem get?_foldl_set (f : κ → Option ν) (ks : List κ) (d : InsertionDict κ ν) (k : κ) :
    (ks.foldl (fun d a => (f a).elim d (d.set a)) d).get? k =
      if k ∈ ks then (f k).or (d.get? k) else d.get? k := by
  induction ks generalizing d with
  | nil => rfl
  | cons a ks ih =>
    -- one element sets its own key, if it has a value for it
    have hstep : ((f a).elim d (d.set a)).get? k =
        if k = a then (f a).or (d.get? k) else d.get? k := by
      cases f a with
      | none => simp
      | some v => simp [get?_set]
    rw [List.foldl_cons, ih, hstep]
    by_cases hk : k = a
    · subst hk
      cases f k <;> simp
    · simp [hk]

/-- The dictionary after setting the pairs of a sequence in order. -/
def ofPairs (kvs : List (κ × ν)) : InsertionDict κ ν :=
  kvs.foldl (fun d kv => d.set kv.1 kv.2) empty

theorem ofPairs_concat (kvs : List (κ × ν)) (kv : κ × ν) :
    ofPairs (kvs ++ [kv]) = (ofPairs kvs).set kv.1 kv.2 := by
  simp [ofPairs, List.foldl_append]

theorem keys_set (d : InsertionDict κ ν) (k : κ) (v : ν) :
    (d.set k v).keys = if k ∈ d.keys then d.keys else d.keys ++ [k] :=
  keys_setEntry k v d.entries

/-- Keys stand in the order of their first occurrence. -/
theorem keys_ofPairs (kvs : List (κ × ν)) : (ofPairs kvs).keys = (kvs.map Prod.fst).eraseDups := by
  induction kvs using List.reverseRecOn with
  | nil => rfl
  | append_singleton kvs kv ih =>
    rw [ofPairs_concat, keys_set, ih, List.map_append, List.eraseDups_append]
    have hmem : kv.1 ∈ (kvs.map Prod.fst).eraseDups ↔ kv.1 ∈ kvs.map Prod.fst :=
      List.mem_eraseDups
    by_cases hk : kv.1 ∈ kvs.map Prod.fst
    · simp only [hmem.2 hk, if_true]
      simp [List.removeAll, hk]
    · simp only [hmem.not.2 hk, if_false]
      simp [List.removeAll, hk, List.eraseDups_cons]

/-- The value kept for a key is the one of the last pair with that key. -/
theorem mem_entries_ofPairs (kvs : List (κ × ν)) (e : κ × ν) :
    e ∈ (ofPairs kvs).entries ↔
      ∃ p s, kvs = p ++ e :: s ∧ e.1 ∉ s.map Prod.fst := by
  induction kvs using List.reverseRecOn with
  | nil => simp [ofPairs, empty]
  | append_singleton kvs kv ih =>
    rw [ofPairs_concat, set, mem_setEntry _ _ (ofPairs kvs).nodup_keys, ih]
    constructor
    · -- `e` is the pair set last, or it was there and `kv` has another key
      rintro (rfl | ⟨hne, p, s, rfl, hs⟩)
      · exact ⟨kvs, [], rfl, by simp⟩
      · refine ⟨p, s ++ [kv], by simp, ?_⟩
        simpa [hne] using hs
    · rintro ⟨p, s, hsplit, hs⟩
      rcases List.eq_nil_or_concat s with rfl | ⟨s', z, rfl⟩
      · obtain ⟨-, hkv⟩ := List.append_inj' hsplit rfl
        exact .inl (by simpa using (List.singleton_inj.1 hkv).symm)
      · have hsplit' : kvs ++ [kv] = (p ++ e :: s') ++ [z] := by simpa using hsplit
        obtain ⟨hinit, hz⟩ := List.append_inj' hsplit' rfl
        obtain rfl : kv = z := List.singleton_inj.1 hz
        simp only [List.concat_eq_append, List.map_append, List.map_cons, List.map_nil,
          List.mem_append, List.mem_singleton, not_or] at hs
        exact .inr ⟨hs.2, p, s', hinit, hs.1⟩

/-- Every entry is one of the pairs. -/
theorem mem_of_mem_entries_ofPairs {kvs : List (κ × ν)} {e : κ × ν}
    (h : e ∈ (ofPairs kvs).entries) : e ∈ kvs := by
  obtain ⟨p, s, rfl, -⟩ := (mem_entries_ofPairs kvs e).1 h
  simp

/-- A key of a sequence of pairs has the value of one of its pairs. -/
theorem exists_get?_ofPairs {kvs : List (κ × ν)} {k : κ} (hk : k ∈ kvs.map Prod.fst) :
    ∃ v, (ofPairs kvs).get? k = some v ∧ (k, v) ∈ kvs := by
  have hkey : k ∈ (ofPairs kvs).keys := by
    rwa [keys_ofPairs, List.mem_eraseDups]
  have hsome : ((ofPairs kvs).entries.lookup k).isSome := by
    rw [List.lookup_isSome_iff]
    obtain ⟨e, he, rfl⟩ := List.mem_map.1 hkey
    exact ⟨e, he, beq_self_eq_true e.1⟩
  obtain ⟨v, hv⟩ := Option.isSome_iff_exists.1 hsome
  refine ⟨v, hv, ?_⟩
  -- the entry found was one of the pairs
  obtain ⟨before, after, hentries, -⟩ := List.lookup_eq_some_iff.1 hv
  have hmem : (k, v) ∈ (ofPairs kvs).entries := by
    rw [hentries]
    exact List.mem_append_right before List.mem_cons_self
  obtain ⟨p, s, hsplit, -⟩ := (mem_entries_ofPairs kvs (k, v)).1 hmem
  rw [hsplit]
  exact List.mem_append_right p List.mem_cons_self

/-- Pairs with distinct keys are the entries, in order. -/
theorem entries_ofPairs_of_nodup {kvs : List (κ × ν)} (h : (kvs.map Prod.fst).Nodup) :
    (ofPairs kvs).entries = kvs := by
  induction kvs using List.reverseRecOn with
  | nil => rfl
  | append_singleton kvs kv ih =>
    rw [List.map_append, List.map_singleton, List.nodup_append] at h
    obtain ⟨hinit, -, hnew⟩ := h
    have hmem : kv.1 ∉ kvs.map Prod.fst :=
      fun hmem => hnew kv.1 hmem kv.1 (List.mem_singleton_self _) rfl
    rw [ofPairs_concat, entries_set, ih hinit, setEntry_of_notMem hmem]

section Map

variable {κ' ν' : Type*} [DecidableEq κ'] {g : κ → κ'} (f : ν → ν')

theorem lookup_map_snd (k : κ) (es : List (κ × ν)) :
    (es.map (Prod.map id f)).lookup k = (es.lookup k).map f := by
  induction es with
  | nil => rfl
  | cons e es ih =>
    rw [List.map_cons, List.lookup_cons, List.lookup_cons, Prod.map_fst, id_eq, ih]
    cases k == e.1 <;> rfl

/-- A dictionary with other values, read back from its pairs. -/
theorem get?_ofPairs_map_snd (d : InsertionDict κ ν) (k : κ) :
    (ofPairs (d.entries.map (Prod.map id f))).get? k = (d.get? k).map f := by
  have hkeys : (d.entries.map (Prod.map id f)).map Prod.fst = d.entries.map Prod.fst := by
    simp [Function.comp_def]
  have hnodup : ((d.entries.map (Prod.map id f)).map Prod.fst).Nodup := by
    rw [hkeys]
    exact d.nodup_keys
  rw [get?, entries_ofPairs_of_nodup hnodup, lookup_map_snd, get?]

theorem setEntry_map (k : κ) (v : ν) {es : List (κ × ν)} (h : ∀ e ∈ es, g e.1 = g k → e.1 = k) :
    setEntry (g k) (f v) (es.map (Prod.map g f)) = (setEntry k v es).map (Prod.map g f) := by
  induction es with
  | nil => rfl
  | cons e es ih =>
    have htail := ih fun e he => h e (List.mem_cons_of_mem _ he)
    by_cases hek : e.1 = k
    · simp [setEntry, hek]
    · have hne : g e.1 ≠ g k := fun heq => hek (h e List.mem_cons_self heq)
      simp [setEntry, hek, hne, htail]

/-- Renaming the keys of a sequence of pairs, without identifying any two of them, renames the
entries. -/
theorem entries_ofPairs_map {kvs : List (κ × ν)}
    (h : ∀ a ∈ kvs.map Prod.fst, ∀ b ∈ kvs.map Prod.fst, g a = g b → a = b) :
    (ofPairs (kvs.map (Prod.map g f))).entries = (ofPairs kvs).entries.map (Prod.map g f) := by
  induction kvs using List.reverseRecOn with
  | nil => rfl
  | append_singleton kvs kv ih =>
    have hinit := ih fun a ha b hb => h a (by simp [List.mem_map.1 ha]) b
      (by simp [List.mem_map.1 hb])
    rw [List.map_append, List.map_singleton, ofPairs_concat, ofPairs_concat, entries_set,
      entries_set, hinit]
    apply setEntry_map f kv.1 kv.2
    intro e he heq
    -- the entries so far have keys of the pairs so far, where `g` is injective
    have hmem : e.1 ∈ kvs.map Prod.fst := by
      rw [← List.mem_eraseDups, ← keys_ofPairs]
      exact List.mem_map_of_mem he
    exact h e.1 (by simp [List.mem_map.1 hmem]) kv.1 (by simp) heq

end Map

end InsertionDict
