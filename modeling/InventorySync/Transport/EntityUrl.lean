import InventorySync.Foundations.PercentEncoding
import InventorySync.Python.Values

/-!
# The alternate-key URL of a record

`_encode_odata_string_value` and `_build_entity_url` of `ODataClient`, and how the service reads
the key back from such a URL.

* `addressedKey_buildEntityUrl`: the URL built for a key addresses that key;
* `buildEntityUrl_injective`: so different keys have different URLs;
* `buildEntityUrl_lossless`: no character of a key reaches the structure of its URL.
-/

open Python PercentEncoding

namespace Transport

/-- The bytes `urllib.parse.quote(_, safe="")` leaves as they are: letters, digits and `_.-~`. -/
def quoteSafe : SafeBytes where
  isSafe b := (65 ≤ b && b ≤ 90) || (97 ≤ b && b ≤ 122) || (48 ≤ b && b ≤ 57) ||
    b == 95 || b == 46 || b == 45 || b == 126
  ascii := by
    intro b hb
    simp only [Bool.or_eq_true, Bool.and_eq_true, decide_eq_true_eq, beq_iff_eq,
      UInt8.le_iff_toNat_le, ← UInt8.toNat_inj, UInt8.reduceToNat] at hb
    omega
  percent := by decide

/-- `value.replace("'", "''")` -/
def escapeQuotes (value : List Char) : List Char :=
  value.flatMap fun c => if c = '\'' then ['\'', '\''] else [c]

/-- Escape and URL-encode a value for use inside an OData string literal. Only a `str` has the
methods this uses. -/
def encodeODataStringValue : PyValue → Except PyException String
  | .str value => .ok (String.ofList (quote quoteSafe (escapeQuotes value.toList)))
  | value =>
    .error ⟨.attributeError, "'" ++ value.typeName ++ "' object has no attribute 'replace'"⟩

/-- The part of a record's URL before its key literal. -/
def urlPrefix (baseUrl entitySet alternateKeyName : String) : String :=
  baseUrl ++ "/" ++ entitySet ++ "(" ++ alternateKeyName ++ "='"

/-- Build the OData v4 alternate-key URL for a single entity resource. -/
def buildEntityUrl (baseUrl entitySet alternateKeyName : String) (keyValue : PyValue) :
    Except PyException String := do
  let encodedValue ← encodeODataStringValue keyValue
  return urlPrefix baseUrl entitySet alternateKeyName ++ encodedValue ++ "')"

/-- The value of an OData string literal, given what stands between its delimiters: a doubled quote
is one quote, and an undoubled one would end the literal. -/
def readLiteral : List Char → Option (List Char)
  | [] => some []
  | '\'' :: '\'' :: cs => (readLiteral cs).map ('\'' :: ·)
  | c :: cs => if c = '\'' then none else (readLiteral cs).map (c :: ·)

/-- The key that a URL addresses in the entity set behind a prefix. -/
def addressedKey (pre url : String) : Option String :=
  if url.toList.take pre.length = pre.toList ∧
      url.toList.drop (url.length - 2) = ['\'', ')'] then do
    let body := (url.toList.drop pre.length).take (url.length - pre.length - 2)
    let literal ← unquote body
    let value ← readLiteral literal
    return String.ofList value
  else none

/-- Reading an escaped value gives the value back. -/
theorem readLiteral_escapeQuotes (value : List Char) :
    readLiteral (escapeQuotes value) = some value := by
  induction value with
  | nil => rfl
  | cons c value ih =>
    -- a quote was doubled and is read as a pair; any other character stands for itself
    by_cases hc : c = '\''
    · have hsplit : escapeQuotes (c :: value) = '\'' :: '\'' :: escapeQuotes value := by
        simp [escapeQuotes, hc]
      rw [hsplit, readLiteral, ih, hc]
      rfl
    · have hsplit : escapeQuotes (c :: value) = c :: escapeQuotes value := by
        simp [escapeQuotes, hc]
      rw [hsplit, readLiteral.eq_3 _ _ fun _ hq _ => hc hq, if_neg hc, ih]
      rfl

variable {baseUrl entitySet alternateKeyName : String}

/-- A URL is built exactly for string keys. -/
theorem buildEntityUrl_eq_ok {keyValue : PyValue} {url : String} :
    buildEntityUrl baseUrl entitySet alternateKeyName keyValue = .ok url ↔
      ∃ value, keyValue = .str value ∧
        url = urlPrefix baseUrl entitySet alternateKeyName ++
          String.ofList (quote quoteSafe (escapeQuotes value.toList)) ++ "')" := by
  cases keyValue with
  | str value =>
    have hbuild : buildEntityUrl baseUrl entitySet alternateKeyName (.str value) =
        .ok (urlPrefix baseUrl entitySet alternateKeyName ++
          String.ofList (quote quoteSafe (escapeQuotes value.toList)) ++ "')") := rfl
    rw [hbuild]
    simp [eq_comm]
  | int _ => simp [buildEntityUrl, encodeODataStringValue, bind, Except.bind]
  | float _ => simp [buildEntityUrl, encodeODataStringValue, bind, Except.bind]
  | bool _ => simp [buildEntityUrl, encodeODataStringValue, bind, Except.bind]
  | none => simp [buildEntityUrl, encodeODataStringValue, bind, Except.bind]
  | nan => simp [buildEntityUrl, encodeODataStringValue, bind, Except.bind]
  | fieldNames _ => simp [buildEntityUrl, encodeODataStringValue, bind, Except.bind]
  | rowAttribute _ => simp [buildEntityUrl, encodeODataStringValue, bind, Except.bind]

theorem addressedKey_append (pre body : String) {literal value : List Char}
    (hbody : unquote body.toList = some literal) (hvalue : readLiteral literal = some value) :
    addressedKey pre (pre ++ body ++ "')") = some (String.ofList value) := by
  -- the URL as prefix, body and the two closing characters, with the lengths of all three
  have hlist : (pre ++ body ++ "')").toList = pre.toList ++ (body.toList ++ ['\'', ')']) := by
    simp
  have hlength : (pre ++ body ++ "')").length = pre.length + body.length + 2 := by
    rw [String.length_append, String.length_append]
    rfl
  have hpre : pre.toList.length = pre.length := String.length_toList
  have hbodylen : body.toList.length = body.length := String.length_toList
  have hsub : pre.length + body.length + 2 - pre.length - 2 = body.length := by omega
  rw [addressedKey, hlist, hlength, ← hpre, List.take_left, List.drop_left, hpre, hsub,
    ← hbodylen, List.take_left]
  have hdrop : (pre.toList ++ (body.toList ++ ['\'', ')'])).drop
      (pre.length + body.toList.length + 2 - 2) = ['\'', ')'] := by
    rw [← List.append_assoc, Nat.add_sub_cancel, ← hpre, ← List.length_append, List.drop_left]
  rw [if_pos ⟨rfl, hdrop⟩]
  simp only [Option.bind_eq_bind, hbody, hvalue, Option.bind_some, Option.pure_def]

/-- The URL built for a key addresses that key. -/
theorem addressedKey_buildEntityUrl {value url : String}
    (h : buildEntityUrl baseUrl entitySet alternateKeyName (.str value) = .ok url) :
    addressedKey (urlPrefix baseUrl entitySet alternateKeyName) url = some value := by
  -- percent-decoding undoes `quote`, and reading the literal undoes the doubling
  obtain ⟨value', hvalue, rfl⟩ := buildEntityUrl_eq_ok.1 h
  obtain rfl : value = value' := PyValue.str.inj hvalue
  have hkey := addressedKey_append (urlPrefix baseUrl entitySet alternateKeyName)
    (String.ofList (quote quoteSafe (escapeQuotes value.toList)))
    (by rw [String.toList_ofList]; exact unquote_quote _) (readLiteral_escapeQuotes value.toList)
  rwa [String.ofList_toList] at hkey

/-- Different keys have different URLs. -/
theorem buildEntityUrl_injective {v w url : String}
    (hv : buildEntityUrl baseUrl entitySet alternateKeyName (.str v) = .ok url)
    (hw : buildEntityUrl baseUrl entitySet alternateKeyName (.str w) = .ok url) : v = w :=
  Option.some.inj ((addressedKey_buildEntityUrl hv).symm.trans (addressedKey_buildEntityUrl hw))

/-! ### The characters of an encoded key -/

/-- An unreserved character of a URL. -/
def isUnreserved (c : Char) : Bool :=
  c.isAlphanum || c == '_' || c == '.' || c == '-' || c == '~'

/-- Unreserved characters and `%XX` triplets. -/
inductive EncodedText : List Char → Prop
  | nil : EncodedText []
  | unreserved {c : Char} {cs : List Char} (hc : isUnreserved c = true) (hcs : EncodedText cs) :
    EncodedText (c :: cs)
  | triplet {hi lo : Char} {cs : List Char} (hhi : hi ∈ "0123456789ABCDEF".toList)
    (hlo : lo ∈ "0123456789ABCDEF".toList) (hcs : EncodedText cs) :
    EncodedText ('%' :: hi :: lo :: cs)

/-- The characters that delimit the parts of a URL and of a key predicate. -/
def structural : List Char := ['/', '?', '#', '\'', '"', '(', ')']

theorem hexDigit_mem {n : ℕ} (h : n < 16) : hexDigit n ∈ "0123456789ABCDEF".toList := by
  have hall : ∀ m : Fin 16, hexDigit m ∈ "0123456789ABCDEF".toList := by decide
  exact hall ⟨n, h⟩

theorem isUnreserved_of_isSafe {b : UInt8} (h : quoteSafe.isSafe b = true) :
    isUnreserved (Char.ofNat b.toNat) = true := by
  -- safe bytes are ASCII, so there are few of them to check
  have hall : ∀ m : Fin 128, quoteSafe.isSafe (UInt8.ofNat m) = true →
      isUnreserved (Char.ofNat m) = true := by decide
  have hb := hall ⟨b.toNat, quoteSafe.ascii b h⟩
  rw [UInt8.ofNat_toNat] at hb
  exact hb h

theorem EncodedText.encodeByte_append (b : UInt8) {cs : List Char} (h : EncodedText cs) :
    EncodedText (encodeByte quoteSafe b ++ cs) := by
  have hb : b.toNat < 256 := b.toNat_lt
  unfold encodeByte
  split
  next hsafe => exact .unreserved (isUnreserved_of_isSafe hsafe) h
  -- a byte has two hexadecimal digits
  next => exact .triplet (hexDigit_mem (by omega)) (hexDigit_mem (by omega)) h

/-- Quoting writes unreserved characters and `%XX` triplets only. -/
theorem encodedText_quote (text : List Char) : EncodedText (quote quoteSafe text) := by
  rw [quote]
  -- byte by byte, whatever the characters they come from
  induction text.flatMap String.utf8EncodeChar with
  | nil => exact .nil
  | cons b bytes ih =>
    rw [percentEncode, List.flatMap_cons]
    exact ih.encodeByte_append b

/-- Encoded text holds no delimiter. -/
theorem EncodedText.not_mem {cs : List Char} (h : EncodedText cs) {c : Char}
    (hc : c ∈ structural) : c ∉ cs := by
  -- a delimiter is neither unreserved, nor a digit, nor the percent sign
  have hunreserved : ∀ d ∈ structural, isUnreserved d = false := by
    simp [structural, isUnreserved]
  have hdigit : ∀ d ∈ structural, d ∉ "0123456789ABCDEF".toList := by simp [structural]
  have hpercent : ∀ d ∈ structural, d ≠ '%' := by simp [structural]
  induction h with
  | nil => exact List.not_mem_nil
  | unreserved hd _ ih =>
    rw [List.mem_cons]
    rintro (rfl | hmem)
    · rw [hunreserved c hc] at hd
      cases hd
    · exact ih hmem
  | triplet hhi hlo _ ih =>
    simp only [List.mem_cons]
    rintro (hmem | rfl | rfl | hmem)
    · exact hpercent c hc hmem
    · exact hdigit c hc hhi
    · exact hdigit c hc hlo
    · exact ih hmem

/-- Encoded text is made of unreserved characters and percent signs. -/
theorem EncodedText.isUnreserved_or_eq {cs : List Char} (h : EncodedText cs) {c : Char}
    (hc : c ∈ cs) : isUnreserved c = true ∨ c = '%' := by
  have hdigit : ∀ d ∈ "0123456789ABCDEF".toList, isUnreserved d = true := by
    simp [isUnreserved]
  induction h with
  | nil => exact absurd hc List.not_mem_nil
  | unreserved hd _ ih =>
    rcases List.mem_cons.1 hc with rfl | hc
    · exact .inl hd
    · exact ih hc
  | triplet hhi hlo _ ih =>
    simp only [List.mem_cons] at hc
    rcases hc with rfl | rfl | rfl | hc
    · exact .inr rfl
    · exact .inl (hdigit _ hhi)
    · exact .inl (hdigit _ hlo)
    · exact ih hc

/-- The value of the OData string literal that a text starts with, and what follows the value: a
doubled quote is one quote, and an undoubled quote ends the literal. -/
def scanLiteral : List Char → List Char × List Char
  | [] => ([], [])
  | '\'' :: '\'' :: cs => ('\'' :: (scanLiteral cs).1, (scanLiteral cs).2)
  | c :: cs => if c = '\'' then ([], c :: cs) else (c :: (scanLiteral cs).1, (scanLiteral cs).2)

/-- An escaped value ends at the first quote behind it. -/
theorem scanLiteral_escapeQuotes (value : List Char) {rest : List Char}
    (hrest : rest.head? ≠ some '\'') :
    scanLiteral (escapeQuotes value ++ '\'' :: rest) = (value, '\'' :: rest) := by
  induction value with
  | nil =>
    -- the quote behind the value is not doubled, since no quote follows it
    change scanLiteral ('\'' :: rest) = _
    cases rest with
    | nil => rfl
    | cons c rest =>
      rw [scanLiteral.eq_3 _ _ fun cs _ hcs => hrest (by rw [hcs]; rfl), if_pos rfl]
  | cons c value ih =>
    -- a doubled quote is passed as a pair, so no quote of the value ends the literal
    by_cases hc : c = '\''
    · have hsplit : escapeQuotes (c :: value) = '\'' :: '\'' :: escapeQuotes value := by
        simp [escapeQuotes, hc]
      rw [hsplit, List.cons_append, List.cons_append, scanLiteral, ih, hc]
    · have hsplit : escapeQuotes (c :: value) = c :: escapeQuotes value := by
        simp [escapeQuotes, hc]
      rw [hsplit, List.cons_append, scanLiteral.eq_3 _ _ fun _ hq _ => hc hq, if_neg hc, ih]

/-- The URL of a key is `base/entity(name='E')` where `E` holds no delimiter, decodes to a literal
that ends at the closing quote, and reads back as the key. -/
theorem buildEntityUrl_lossless (baseUrl entitySet alternateKeyName : String) :
    (∀ value : String, ∃ (encoded : String) (literal : List Char),
      buildEntityUrl baseUrl entitySet alternateKeyName (.str value) =
        .ok (baseUrl ++ "/" ++ entitySet ++ "(" ++ alternateKeyName ++ "='" ++ encoded ++ "')") ∧
      EncodedText encoded.toList ∧ (∀ c ∈ structural, c ∉ encoded.toList) ∧
      unquote encoded.toList = some literal ∧ readLiteral literal = some value.toList ∧
      scanLiteral (literal ++ ['\'', ')']) = (value.toList, ['\'', ')'])) ∧
    ∀ v w : String, v ≠ w →
      buildEntityUrl baseUrl entitySet alternateKeyName (.str v) ≠
        buildEntityUrl baseUrl entitySet alternateKeyName (.str w) := by
  constructor
  · intro value
    have htext := encodedText_quote (escapeQuotes value.toList)
    refine ⟨String.ofList (quote quoteSafe (escapeQuotes value.toList)),
      escapeQuotes value.toList, rfl, ?_⟩
    rw [String.toList_ofList]
    exact ⟨htext, fun c hc => htext.not_mem hc, unquote_quote _, readLiteral_escapeQuotes _,
      scanLiteral_escapeQuotes _ (by decide)⟩
  · intro v w hne heq
    obtain ⟨url, hurl⟩ : ∃ url,
        buildEntityUrl baseUrl entitySet alternateKeyName (.str v) = .ok url := ⟨_, rfl⟩
    exact hne (buildEntityUrl_injective hurl (heq ▸ hurl))

end Transport
