import InventorySync.Settings.DataverseSettings

/-!
# Tenant and client identifiers

Which strings are GUIDs, and which the validator of `azure_tenant_id` and `azure_client_id` lets
through. `uuid.UUID` deletes `urn:`, `uuid:`, braces and hyphens wherever they stand, and `int`
reads more than digits.

* `exists_uuidInt_of_isGuid`: every GUID is accepted;
* `onlyGuids_iff`: the strings for which nothing else is.
-/

open Python Hexadecimal PercentEncoding

namespace Settings

/-- The digits in groups of 8, 4, 4, 4 and 12. -/
def grouped (digits : List Char) : List Char :=
  digits.take 8 ++ '-' :: ((digits.drop 8).take 4 ++ '-' :: ((digits.drop 12).take 4 ++
    '-' :: ((digits.drop 16).take 4 ++ '-' :: digits.drop 20)))

/-- The ways in which a GUID with the given digits is written. -/
def layouts (digits : List Char) : List (List Char) :=
  [digits, grouped digits].flatMap fun body =>
    [body, '{' :: body ++ ['}'], "urn:uuid:".toList ++ body]

/-- Thirty-two hexadecimal digits, in one of the layouts. -/
def IsGuid (text : List Char) : Prop :=
  ∃ digits : List Char, digits.length = 32 ∧ (∀ c ∈ digits, (hexValue? c).isSome = true) ∧
    text ∈ layouts digits

/-! ### What is deleted -/

/-- Nothing is deleted from a text without some character of what is to be deleted. -/
theorem deleteAll_eq_self {old text : List Char} {c : Char} (hold : c ∈ old) (htext : c ∉ text) :
    deleteAll old 0 text = text := by
  induction text with
  | nil => rfl
  | cons d text ih =>
    have hnot : old.isPrefixOf (d :: text) = false := by
      rw [Bool.eq_false_iff, ne_eq, List.isPrefixOf_iff_prefix]
      exact fun hbegins => htext (hbegins.subset hold)
    rw [deleteAll, hnot, if_neg Bool.false_ne_true,
      ih fun hmem => htext (List.mem_cons_of_mem d hmem)]

/-- Every layout of digits and hyphens leaves the digits for `int` to read. -/
theorem uuidDigits_of_body {digits body text : List Char}
    (hbody : ∀ c ∈ body, (hexValue? c).isSome = true ∨ c = '-') (hne : body ≠ [])
    (hfilter : body.filter (· != '-') = digits)
    (htext : text ∈ [body, '{' :: body ++ ['}'], "urn:uuid:".toList ++ body]) :
    uuidDigits text = digits := by
  have hnot {c : Char} (hc : hexValue? c = none) (hc' : c ≠ '-') : c ∉ body := by
    intro hmem
    rcases hbody c hmem with hdigit | hhyphen
    · rw [hc] at hdigit
      cases hdigit
    · exact hc' hhyphen
  have hcolon : ':' ∉ body := hnot rfl (by decide)
  have hbrace : ∀ c ∈ body, isBrace c = false := by
    intro c hc
    rw [isBrace, Bool.or_eq_false_iff, beq_eq_false_iff_ne, beq_eq_false_iff_ne]
    constructor <;> rintro rfl
    · exact hnot rfl (by decide) hc
    · exact hnot rfl (by decide) hc
  have htrim : body.trim isBrace = body := List.trim_eq_self_iff.2
    ⟨fun c hc => hbrace c (List.mem_of_mem_head? hc),
      fun c hc => hbrace c (List.mem_of_mem_getLast? hc)⟩
  have hurn : ':' ∈ "urn:".toList := by decide
  have huuid : ':' ∈ "uuid:".toList := by decide
  simp only [List.mem_cons, List.not_mem_nil, or_false] at htext
  rw [uuidDigits]
  rcases htext with rfl | rfl | rfl
  · rw [deleteAll_eq_self hurn hcolon, deleteAll_eq_self huuid hcolon, htrim, hfilter]
  · have hcolon' : ':' ∉ '{' :: body ++ ['}'] := by simp [hcolon]
    rw [deleteAll_eq_self hurn hcolon', deleteAll_eq_self huuid hcolon',
      List.trim_cons_concat rfl rfl hne htrim, hfilter]
  · -- `urn:` goes first, and leaves `uuid:` at the front
    have hfirst : deleteAll "urn:".toList 0 ("urn:uuid:".toList ++ body) =
        "uuid:".toList ++ deleteAll "urn:".toList 0 body := rfl
    have hsecond : deleteAll "uuid:".toList 0 ("uuid:".toList ++ body) =
        deleteAll "uuid:".toList 0 body := rfl
    rw [hfirst, deleteAll_eq_self hurn hcolon, hsecond, deleteAll_eq_self huuid hcolon, htrim,
      hfilter]

section Digits

variable {digits : List Char} (hdigits : ∀ c ∈ digits, (hexValue? c).isSome = true)

include hdigits

theorem ne_of_digit {c d : Char} (hc : c ∈ digits) (hd : hexValue? d = none) : c ≠ d := by
  rintro rfl
  have hsome := hdigits c hc
  rw [hd] at hsome
  cases hsome

/-- A digit or a hyphen. -/
theorem mem_grouped {c : Char} (hc : c ∈ grouped digits) :
    (hexValue? c).isSome = true ∨ c = '-' := by
  simp only [grouped, List.mem_append, List.mem_cons] at hc
  have hsub {m n : ℕ} (hmem : c ∈ (digits.drop m).take n) : (hexValue? c).isSome = true :=
    hdigits c (List.mem_of_mem_drop (List.mem_of_mem_take hmem))
  rcases hc with hc | hc | hc | hc | hc | hc | hc | hc | hc
  · exact .inl (hdigits c (List.mem_of_mem_take hc))
  · exact .inr hc
  · exact .inl (hsub hc)
  · exact .inr hc
  · exact .inl (hsub hc)
  · exact .inr hc
  · exact .inl (hsub hc)
  · exact .inr hc
  · exact .inl (hdigits c (List.mem_of_mem_drop hc))

/-- Without its hyphens, a grouped GUID is its digits. -/
theorem filter_grouped : (grouped digits).filter (· != '-') = digits := by
  have hfilter {part : List Char} (hpart : part ⊆ digits) : part.filter (· != '-') = part := by
    rw [List.filter_eq_self]
    intro c hc
    exact bne_iff_ne.2 (ne_of_digit hdigits (hpart hc) rfl)
  have hpart (m n : ℕ) : (digits.drop m).take n ⊆ digits := fun c hc =>
    List.mem_of_mem_drop (List.mem_of_mem_take hc)
  have hsplit (m n : ℕ) : (digits.drop m).take n ++ digits.drop (m + n) = digits.drop m := by
    rw [← List.drop_drop, List.take_append_drop]
  have hyphen : ('-' != '-') = false := rfl
  simp only [grouped, List.filter_append, List.filter_cons, hyphen, Bool.false_eq_true, if_false,
    hfilter (hpart _ _), hfilter (List.drop_subset _ _), hfilter (List.take_subset _ _)]
  -- the groups follow each other without a gap
  rw [hsplit 16 4, hsplit 12 4, hsplit 8 4, List.take_append_drop]

/-- Every layout of the digits leaves them for `int` to read. -/
theorem uuidDigits_of_layout {text : List Char} (hne : digits ≠ [])
    (htext : text ∈ layouts digits) : uuidDigits text = digits := by
  obtain ⟨body, hbody, hlayout⟩ := List.mem_flatMap.1 htext
  simp only [List.mem_cons, List.not_mem_nil, or_false] at hbody
  rcases hbody with rfl | rfl
  · refine uuidDigits_of_body (fun c hc => .inl (hdigits c hc)) hne ?_ hlayout
    rw [List.filter_eq_self]
    intro c hc
    exact bne_iff_ne.2 (ne_of_digit hdigits hc rfl)
  · have hgrouped : grouped digits ≠ [] := by simp [grouped]
    exact uuidDigits_of_body (fun c => mem_grouped hdigits) hgrouped
      (filter_grouped hdigits) hlayout

end Digits

theorem ne_empty_of_uuidDigits {value : String} (h : (uuidDigits value.toList).length = 32) :
    value ≠ "" := by
  rintro rfl
  cases h

section Validator

variable [TextTables]

/-- Every GUID is accepted as it is. -/
theorem exists_uuidInt_of_isGuid {text : List Char} (h : IsGuid text) :
    ∃ n, uuidInt text = .ok n := by
  obtain ⟨digits, hlength, hdigits, htext⟩ := h
  have hne : digits ≠ [] := List.ne_nil_of_length_pos (by omega)
  rw [exists_uuidInt_eq_ok_iff, uuidDigits_of_layout hdigits hne htext]
  obtain ⟨n, hn⟩ := Option.isSome_iff_exists.1 ((isSome_hexNumber?_iff digits).2 hdigits)
  have hlt : n < 2 ^ 128 := by
    have hbound := hexNumber?_lt hn
    rw [hlength] at hbound
    exact hbound
  refine ⟨hlength, n, ?_, by omega, by omega⟩
  rw [int16?_of_plain (fun c hc => isPlain_of_hexValue? (hdigits c hc)) hne, hn]
  rfl

/-- `_validate_guid` returns what it accepts. -/
theorem validateGuid_eq_ok {fieldName value text : String} :
    validateGuid fieldName value = .ok text ↔ text = value ∧ ∃ n, uuidInt value.toList = .ok n := by
  unfold validateGuid
  cases hread : uuidInt value.toList with
  | error e => simp
  | ok n => simp [eq_comm]

/-- The fields that hold a GUID. -/
def guidFields : List FieldSpec := [azureTenantId, azureClientId]

theorem validate_eq_ok_of_mem_guidFields {field : FieldSpec} (hfield : field ∈ guidFields)
    {raw : String} {value : PyValue} :
    field.validate (.str raw) = .ok value ↔
      strip raw ≠ "" ∧ value = .str (strip raw) ∧ ∃ n, uuidInt (strip raw).toList = .ok n := by
  have hname : ∃ name, field = connectionField name (validateGuid name) := by
    simp only [guidFields, List.mem_cons, List.not_mem_nil, or_false] at hfield
    rcases hfield with rfl | rfl
    · exact ⟨"azure_tenant_id", rfl⟩
    · exact ⟨"azure_client_id", rfl⟩
  obtain ⟨name, rfl⟩ := hname
  rw [connectionField_eq_ok]
  simp only [validateGuid_eq_ok]
  constructor
  · rintro ⟨hblank, text, ⟨rfl, hread⟩, hvalue⟩
    exact ⟨hblank, hvalue, hread⟩
  · rintro ⟨hblank, hvalue, hread⟩
    exact ⟨hblank, _, ⟨rfl, hread⟩, hvalue⟩

/-- A raw string is accepted only as a GUID, and every GUID is stored as it is. -/
structure OnlyGuids (raw : String) : Prop where
  sound : ∀ field ∈ guidFields, ∀ value, field.validate (.str raw) = .ok (.str value) →
    IsGuid value.toList
  complete : ∀ field ∈ guidFields, IsGuid (strip raw).toList →
    field.validate (.str raw) = .ok (.str (strip raw))

/-- What is left of the text is free of all that `int` treats in a way of its own, and what was
deleted around it was in the layout of a GUID. -/
structure PlainDigits (text : List Char) : Prop where
  plain : ∀ c ∈ uuidDigits text, isPlain c = true
  layout : text ∈ layouts (uuidDigits text)

/-- Only GUIDs are accepted exactly if, whenever 32 characters are left that `int` reads as a
128-bit number, they are plain and were in the layout of a GUID. -/
theorem onlyGuids_iff (raw : String) :
    OnlyGuids raw ↔ ((uuidDigits (strip raw).toList).length = 32 →
      (∃ n, int16? (uuidDigits (strip raw).toList) = some n ∧ 0 ≤ n ∧ n < 2 ^ 128) →
        PlainDigits (strip raw).toList) := by
  constructor
  · intro honly hlength hread
    have htenant : azureTenantId ∈ guidFields := List.mem_cons_self
    have haccepted : azureTenantId.validate (.str raw) = .ok (.str (strip raw)) :=
      (validate_eq_ok_of_mem_guidFields htenant).2
        ⟨ne_empty_of_uuidDigits hlength, rfl, exists_uuidInt_eq_ok_iff.2 ⟨hlength, hread⟩⟩
    -- the stored value is a GUID, and what is left of it are its digits
    obtain ⟨digits, hdigitsLength, hdigits, htext⟩ := honly.sound _ htenant _ haccepted
    have hne : digits ≠ [] := List.ne_nil_of_length_pos (by omega)
    have hleft := uuidDigits_of_layout hdigits hne htext
    refine ⟨fun c hc => ?_, hleft.symm ▸ htext⟩
    rw [hleft] at hc
    exact isPlain_of_hexValue? (hdigits c hc)
  · intro hplain
    constructor
    · intro field hfield value haccepted
      obtain ⟨-, hvalue, hread⟩ := (validate_eq_ok_of_mem_guidFields hfield).1 haccepted
      obtain rfl := PyValue.str.inj hvalue
      obtain ⟨hlength, n, hn, hrange⟩ := exists_uuidInt_eq_ok_iff.1 hread
      have hdigits := hplain hlength ⟨n, hn, hrange⟩
      have hne : uuidDigits (strip raw).toList ≠ [] := List.ne_nil_of_length_pos (by omega)
      -- `int` reads plain characters as hexadecimal digits or not at all
      rw [int16?_of_plain hdigits.plain hne, Option.map_eq_some_iff] at hn
      obtain ⟨m, hm, -⟩ := hn
      exact ⟨_, hlength, (isSome_hexNumber?_iff _).1 (by rw [hm]; rfl), hdigits.layout⟩
    · intro field hfield hguid
      have hread := exists_uuidInt_of_isGuid hguid
      exact (validate_eq_ok_of_mem_guidFields hfield).2
        ⟨ne_empty_of_uuidDigits (exists_uuidInt_eq_ok_iff.1 hread).1, rfl, hread⟩

end Validator

/-- A `0x` in front of thirty digits is read as a part of the number. -/
theorem not_onlyGuids_hexPrefix :
    @FieldSpec.validate (@azureTenantId asciiText) (.str "0x123456781234123412341234567890") =
        .ok (.str "0x123456781234123412341234567890") ∧
      ¬@OnlyGuids asciiText "0x123456781234123412341234567890" := by
  have haccepted : @FieldSpec.validate (@azureTenantId asciiText)
      (.str "0x123456781234123412341234567890") =
        .ok (.str "0x123456781234123412341234567890") := rfl
  refine ⟨haccepted, fun honly => ?_⟩
  obtain ⟨digits, hlength, hdigits, htext⟩ :=
    @OnlyGuids.sound asciiText _ honly _ List.mem_cons_self _ haccepted
  have hne : digits ≠ [] := List.ne_nil_of_length_pos (by omega)
  -- nothing is deleted from it, so the `x` would be a digit
  have hleft := uuidDigits_of_layout hdigits hne htext
  have hx : 'x' ∈ digits := by
    rw [← hleft]
    decide
  have hdigit := hdigits 'x' hx
  cases hdigit

end Settings
