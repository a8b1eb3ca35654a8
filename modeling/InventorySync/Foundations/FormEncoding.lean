import InventorySync.Foundations.Cut
import InventorySync.Foundations.PercentEncoding

/-!
# Form-encoded pairs

A sequence of name-value pairs as the query of a URL: names and values are percent-encoded with a
plus sign for every blank, a name is joined to its value by `=`, and the pairs by `&`.

* `unquotePlus_quotePlus`: decoding gives a text back;
* `decodeForm_encodeForm`: and the pairs, whatever characters they are made of.
-/

namespace FormEncoding

open PercentEncoding

/-- Safe bytes that leave the characters of the form alone. -/
structure FormSafe extends SafeBytes where
  blank : isSafe 32 = false
  plus : isSafe 43 = false
  ampersand : isSafe 38 = false
  equals : isSafe 61 = false

variable (safe : FormSafe)

/-- The safe bytes and the blank. -/
def withBlank : SafeBytes where
  isSafe b := safe.isSafe b || b == 32
  ascii b hb := by
    rcases Bool.or_eq_true_iff.1 hb with hsafe | hblank
    · exact safe.ascii b hsafe
    · rw [beq_iff_eq.1 hblank]
      decide
  percent := by rw [safe.percent]; decide

/-- `quote_plus(text)` -/
def quotePlus (text : List Char) : List Char :=
  if ' ' ∈ text then (quote (withBlank safe) text).map fun c => if c = ' ' then '+' else c
  else quote safe.toSafeBytes text

/-- `unquote_plus(text)` -/
def unquotePlus (cs : List Char) : Option (List Char) :=
  unquote (cs.map fun c => if c = '+' then ' ' else c)

/-- `urlencode(pairs)` -/
def encodeForm (pairs : List (List Char × List Char)) : List Char :=
  ['&'].intercalate (pairs.map fun pair => quotePlus safe pair.1 ++ '=' :: quotePlus safe pair.2)

/-- One pair: the name goes up to the first `=`. -/
def decodePair (cs : List Char) : Option (List Char × List Char) := do
  let (name, value) := cs.cut (· == '=')
  let name ← unquotePlus name
  let value ← unquotePlus (value.drop 1)
  return (name, value)

/-- The pairs of a query. -/
def decodeForm (cs : List Char) : Option (List (List Char × List Char)) :=
  if cs = [] then some [] else (cs.splitOn '&').mapM decodePair

variable {safe}

/-! ### The characters of encoded text -/

/-- An encoded character stands for a safe byte, or it is part of an escape. -/
theorem mem_quote {safe : SafeBytes} {text : List Char} {c : Char} (h : c ∈ quote safe text) :
    (∃ b, safe.isSafe b = true ∧ c = Char.ofNat b.toNat) ∨ c = '%' ∨ ∃ n < 16, c = hexDigit n := by
  rw [quote, percentEncode] at h
  obtain ⟨b, -, hc⟩ := List.mem_flatMap.1 h
  have hb : b.toNat < 256 := b.toNat_lt
  unfold encodeByte at hc
  split at hc
  next hsafe => exact .inl ⟨b, hsafe, List.mem_singleton.1 hc⟩
  next =>
    simp only [List.mem_cons, List.not_mem_nil, or_false] at hc
    rcases hc with rfl | rfl | rfl
    · exact .inr (.inl rfl)
    · exact .inr (.inr ⟨_, by omega, rfl⟩)
    · exact .inr (.inr ⟨_, by omega, rfl⟩)

/-- A character that is none of these does not occur. -/
theorem notMem_quote {safe : SafeBytes} {n : ℕ} (hn : n < 128)
    (hescaped : safe.isSafe (UInt8.ofNat n) = false) (hpercent : Char.ofNat n ≠ '%')
    (hdigit : ∀ m < 16, Char.ofNat n ≠ hexDigit m) (text : List Char) :
    Char.ofNat n ∉ quote safe text := by
  intro hmem
  rcases mem_quote hmem with ⟨b, hsafe, heq⟩ | heq | ⟨m, hm, heq⟩
  · have hb : b.toNat = n := by
      rw [← toNat_ofNat (safe.ascii b hsafe), ← heq, toNat_ofNat hn]
    rw [← hb, UInt8.ofNat_toNat, hsafe] at hescaped
    cases hescaped
  · exact hpercent heq
  · exact hdigit m hm heq

theorem hexDigit_ne {c : Char} (h : ∀ n : Fin 16, c ≠ hexDigit n) : ∀ m < 16, c ≠ hexDigit m :=
  fun m hm => h ⟨m, hm⟩

/-- Encoding writes no plus sign of its own. -/
theorem plus_notMem_quote {safe : SafeBytes} (h : safe.isSafe 43 = false) (text : List Char) :
    '+' ∉ quote safe text :=
  notMem_quote (n := 43) (by decide) h (by decide) (hexDigit_ne (by decide)) text

/-- A character of the form stands for nothing but itself. -/
theorem notMem_quotePlus {d : Char} (hd : d = '&' ∨ d = '=') (text : List Char) :
    d ∉ quotePlus safe text := by
  have hquote : ∀ safe' : SafeBytes, safe'.isSafe 38 = false → safe'.isSafe 61 = false →
      d ∉ quote safe' text := by
    intro safe' hamp heq
    rcases hd with rfl | rfl
    · exact notMem_quote (n := 38) (by decide) hamp (by decide) (hexDigit_ne (by decide)) text
    · exact notMem_quote (n := 61) (by decide) heq (by decide) (hexDigit_ne (by decide)) text
  unfold quotePlus
  split
  next =>
    rw [List.mem_map]
    rintro ⟨c, hc, heq⟩
    split at heq
    next => rcases hd with rfl | rfl <;> cases heq
    next =>
      subst heq
      refine hquote (withBlank safe) ?_ ?_ hc
      · simp [withBlank, safe.ampersand]
      · simp [withBlank, safe.equals]
  next => exact hquote _ safe.ampersand safe.equals

/-! ### Round trips -/

/-- Decoding gives the encoded text back. -/
theorem unquotePlus_quotePlus (text : List Char) :
    unquotePlus (quotePlus safe text) = some text := by
  -- every plus sign was a blank
  have hback : ∀ cs : List Char, '+' ∉ cs →
      (cs.map fun c => if c = ' ' then '+' else c).map (fun c => if c = '+' then ' ' else c) =
        cs := by
    intro cs hcs
    rw [List.map_map]
    refine (List.map_congr_left fun c hc => ?_).trans (List.map_id cs)
    have hne : c ≠ '+' := fun heq => hcs (heq ▸ hc)
    by_cases hblank : c = ' '
    · simp [hblank]
    · simp [hblank, hne]
  unfold quotePlus unquotePlus
  split
  next =>
    rw [hback _ (plus_notMem_quote (by simp [withBlank, safe.plus]) text), unquote_quote]
  next =>
    have hsame : (quote safe.toSafeBytes text).map (fun c => if c = '+' then ' ' else c) =
        quote safe.toSafeBytes text := by
      refine (List.map_congr_left fun c hc => ?_).trans (List.map_id _)
      have hne : c ≠ '+' := fun heq => plus_notMem_quote safe.plus text (heq ▸ hc)
      simp [hne]
    rw [hsame, unquote_quote]

theorem decodePair_encode (name value : List Char) :
    decodePair (quotePlus safe name ++ '=' :: quotePlus safe value) = some (name, value) := by
  have hname : ∀ c ∈ quotePlus safe name, (c == '=') = false := by
    intro c hc
    rw [beq_eq_false_iff_ne]
    rintro rfl
    exact notMem_quotePlus (.inr rfl) name hc
  have hcut : ('=' :: quotePlus safe value).cut (· == '=') = ([], '=' :: quotePlus safe value) := by
    simp [List.cut]
  rw [decodePair, List.cut_append_of_notMem hname, hcut]
  simp only [List.append_nil, List.drop_succ_cons, List.drop_zero, unquotePlus_quotePlus,
    Option.bind_eq_bind, Option.bind_some, Option.pure_def]

/-- Decoding gives the encoded pairs back. -/
theorem decodeForm_encodeForm (pairs : List (List Char × List Char)) :
    decodeForm (encodeForm safe pairs) = some pairs := by
  cases pairs with
  | nil => rfl
  | cons pair pairs =>
    -- no piece holds a separator, so splitting gives the pieces back
    have hsplit : (encodeForm safe (pair :: pairs)).splitOn '&' = (pair :: pairs).map
        fun pair => quotePlus safe pair.1 ++ '=' :: quotePlus safe pair.2 := by
      refine List.splitOn_intercalate '&' ?_ (by simp)
      intro piece hpiece
      obtain ⟨pair', -, rfl⟩ := List.mem_map.1 hpiece
      simp [notMem_quotePlus (.inl rfl)]
    have hne : encodeForm safe (pair :: pairs) ≠ [] := by
      intro hnil
      rw [hnil] at hsplit
      simp at hsplit
    rw [decodeForm, if_neg hne, hsplit]
    induction pair :: pairs with
    | nil => rfl
    | cons pair pairs ih =>
      rw [List.map_cons, List.mapM_cons, decodePair_encode, ih]
      rfl

end FormEncoding
