import InventorySync.Foundations.JsonTokens

/-!
# JSON

JSON values, the text they are written as, and a reader of such texts. The writer puts a blank
behind every comma and colon and uses printable ASCII only; the reader also takes the white space
and the escapes that the format allows elsewhere.

* `decode_encode`: reading what was written gives the value back;
* `isPrintable_encode`: a value is written on one line.
-/

/-- A JSON value. -/
inductive Json
  | null
  | bool (b : Bool)
  | number (n : Json.Number)
  | str (s : String)
  | array (items : List Json)
  | object (members : List (String × Json))

namespace Json

mutual

/-- The text of a value. -/
def encodeValue : Json → List Char
  | .null => ['n', 'u', 'l', 'l']
  | .bool true => ['t', 'r', 'u', 'e']
  | .bool false => ['f', 'a', 'l', 's', 'e']
  | .number n => encodeNumber n
  | .str s => encodeString s
  | .array items => '[' :: encodeItems items
  | .object members => '{' :: encodeMembers members

/-- The items of an array, up to its bracket. -/
def encodeItems : List Json → List Char
  | [] => [']']
  | [v] => encodeValue v ++ [']']
  | v :: w :: vs => encodeValue v ++ ',' :: ' ' :: encodeItems (w :: vs)

/-- The members of an object, up to its brace. -/
def encodeMembers : List (String × Json) → List Char
  | [] => ['}']
  | [(k, v)] => encodeString k ++ ':' :: ' ' :: (encodeValue v ++ ['}'])
  | (k, v) :: m :: ms =>
    encodeString k ++ ':' :: ' ' :: (encodeValue v ++ ',' :: ' ' :: encodeMembers (m :: ms))

end

/-- White space between tokens. -/
def isSpace (c : Char) : Bool := c == ' ' || c == '\t' || c == '\n' || c == '\r'

def skipSpace (cs : List Char) : List Char := cs.dropWhile isSpace

/-- Read `null`, `true`, `false` or a number. -/
def scanScalar : List Char → Option (Json × List Char)
  | 'n' :: 'u' :: 'l' :: 'l' :: cs => some (.null, cs)
  | 't' :: 'r' :: 'u' :: 'e' :: cs => some (.bool true, cs)
  | 'f' :: 'a' :: 'l' :: 's' :: 'e' :: cs => some (.bool false, cs)
  | cs => (scanNumber cs).map fun r => (.number r.1, r.2)

/-- Read a key and its colon. -/
def scanKey (cs : List Char) : Option (String × List Char) :=
  match skipSpace cs with
  | '"' :: cs => do
    let (k, cs) ← scanString cs
    match skipSpace cs with
    | ':' :: cs => return (k, cs)
    | _ => none
  | _ => none

mutual

/-- Read a value. -/
def decodeValue : ℕ → List Char → Option (Json × List Char)
  | 0, _ => none
  | fuel + 1, cs =>
    match skipSpace cs with
    | '"' :: cs => (scanString cs).map fun r => (.str r.1, r.2)
    | '[' :: cs =>
      match skipSpace cs with
      | ']' :: cs => some (.array [], cs)
      | cs => (decodeItems fuel cs).map fun r => (.array r.1, r.2)
    | '{' :: cs =>
      match skipSpace cs with
      | '}' :: cs => some (.object [], cs)
      | cs => (decodeMembers fuel cs).map fun r => (.object r.1, r.2)
    | cs => scanScalar cs

/-- Read the items of an array that has one. -/
def decodeItems : ℕ → List Char → Option (List Json × List Char)
  | 0, _ => none
  | fuel + 1, cs => do
    let (v, cs) ← decodeValue fuel cs
    match skipSpace cs with
    | ',' :: cs => do
      let (vs, cs) ← decodeItems fuel cs
      return (v :: vs, cs)
    | ']' :: cs => return ([v], cs)
    | _ => none

/-- Read the members of an object that has one. -/
def decodeMembers : ℕ → List Char → Option (List (String × Json) × List Char)
  | 0, _ => none
  | fuel + 1, cs => do
    let (k, cs) ← scanKey cs
    let (v, cs) ← decodeValue fuel cs
    match skipSpace cs with
    | ',' :: cs => do
      let (ms, cs) ← decodeMembers fuel cs
      return ((k, v) :: ms, cs)
    | '}' :: cs => return ([(k, v)], cs)
    | _ => none

end

/-- The text of a value. -/
def encode (v : Json) : String := String.ofList (encodeValue v)

/-- The value a text is, with white space around it. -/
def decode (s : String) : Option Json :=
  match decodeValue (s.length + 1) s.toList with
  | some (v, cs) => if skipSpace cs = [] then some v else none
  | none => none

/-- What a value begins with is not white space, a comma or a closing bracket. -/
def isStart (c : Char) : Bool :=
  isNumberChar c || c == '"' || c == '[' || c == '{' || c == 'n' || c == 't' || c == 'f'

theorem encodeValue_eq_cons (v : Json) : ∃ c cs, encodeValue v = c :: cs ∧ isStart c = true := by
  cases v with
  | null => exact ⟨'n', _, rfl, rfl⟩
  | bool b =>
    cases b with
    | true => exact ⟨'t', _, rfl, rfl⟩
    | false => exact ⟨'f', _, rfl, rfl⟩
  | number n =>
    obtain ⟨c, cs, hcs⟩ := List.exists_cons_of_ne_nil (encodeNumber_ne_nil n)
    refine ⟨c, cs, by rw [encodeValue, hcs], ?_⟩
    simp [isStart, isNumberChar_of_mem_encodeNumber c (by rw [hcs]; exact List.mem_cons_self)]
  | str s => exact ⟨'"', _, by rw [encodeValue, encodeString], rfl⟩
  | array items => exact ⟨'[', _, by rw [encodeValue], rfl⟩
  | object members => exact ⟨'{', _, by rw [encodeValue], rfl⟩

theorem isSpace_of_isStart {c : Char} (h : isStart c = true) : isSpace c = false := by
  rw [Bool.eq_false_iff]
  intro hspace
  simp only [isSpace, Bool.or_eq_true, beq_iff_eq] at hspace
  rcases hspace with ((rfl | rfl) | rfl) | rfl <;> cases h

theorem skipSpace_encodeValue (v : Json) (cs : List Char) :
    skipSpace (encodeValue v ++ cs) = encodeValue v ++ cs := by
  obtain ⟨c, text, htext, hstart⟩ := encodeValue_eq_cons v
  have hc := isSpace_of_isStart hstart
  simp [htext, skipSpace, hc]

/-- A value is not taken for the end of an array. -/
theorem head?_encodeValue (v : Json) (cs : List Char) :
    (encodeValue v ++ cs).head? ≠ some ']' := by
  obtain ⟨c, text, htext, hstart⟩ := encodeValue_eq_cons v
  rw [htext, List.cons_append, List.head?_cons, ne_eq, Option.some.injEq]
  rintro rfl
  cases hstart

theorem decodeValue_space (fuel : ℕ) (cs : List Char) :
    decodeValue fuel (' ' :: cs) = decodeValue fuel cs := by
  cases fuel with
  | zero => simp [decodeValue]
  | succ fuel =>
    have hskip : skipSpace (' ' :: cs) = skipSpace cs := by simp [skipSpace, isSpace]
    simp only [decodeValue, hskip]

theorem decodeItems_space (fuel : ℕ) (cs : List Char) :
    decodeItems fuel (' ' :: cs) = decodeItems fuel cs := by
  cases fuel with
  | zero => simp [decodeItems]
  | succ fuel => simp only [decodeItems, decodeValue_space]

theorem decodeMembers_space (fuel : ℕ) (cs : List Char) :
    decodeMembers fuel (' ' :: cs) = decodeMembers fuel cs := by
  cases fuel with
  | zero => simp [decodeMembers]
  | succ fuel =>
    have hskip : skipSpace (' ' :: cs) = skipSpace cs := by simp [skipSpace, isSpace]
    simp only [decodeMembers, scanKey, hskip]

/-- Reading a number. -/
theorem decodeValue_encodeNumber (n : Number) {cs : List Char}
    (hcs : ∀ c ∈ cs.head?, isNumberChar c = false) (fuel : ℕ) :
    decodeValue (fuel + 1) (encodeNumber n ++ cs) = some (.number n, cs) := by
  have hscan := scanNumber_encodeNumber n hcs
  have hskip := skipSpace_encodeValue (.number n) cs
  rw [encodeValue] at hskip
  obtain ⟨c, text, htext⟩ := List.exists_cons_of_ne_nil (encodeNumber_ne_nil n)
  have hc : isNumberChar c = true :=
    isNumberChar_of_mem_encodeNumber c (by rw [htext]; exact List.mem_cons_self)
  -- no other token begins with a character of a number
  have hother : ∀ d rest, isNumberChar d = false → encodeNumber n ++ cs ≠ d :: rest := by
    intro d rest hd heq
    rw [htext, List.cons_append] at heq
    obtain ⟨rfl, -⟩ := List.cons.inj heq
    rw [hc] at hd
    cases hd
  rw [decodeValue, hskip]
  split
  next heq => exact absurd heq (hother _ _ rfl)
  next heq => exact absurd heq (hother _ _ rfl)
  next heq => exact absurd heq (hother _ _ rfl)
  next =>
    unfold scanScalar
    split
    next heq => exact absurd heq (hother _ _ rfl)
    next heq => exact absurd heq (hother _ _ rfl)
    next heq => exact absurd heq (hother _ _ rfl)
    next => simp [hscan]

/-- Reading a string. -/
theorem decodeValue_encodeString (s : String) (cs : List Char) (fuel : ℕ) :
    decodeValue (fuel + 1) (encodeString s ++ cs) = some (.str s, cs) := by
  have hscan := scanString_encodeString s cs
  have hquote : encodeString s ++ cs = '"' :: ((encodeString s).tail ++ cs) := rfl
  rw [hquote, decodeValue]
  simp [skipSpace, isSpace, hscan]

/-- Reading a key and its colon. -/
theorem scanKey_encodeString (k : String) (cs : List Char) :
    scanKey (encodeString k ++ ':' :: cs) = some (k, cs) := by
  have hscan := scanString_encodeString k (':' :: cs)
  have hquote : encodeString k ++ ':' :: cs = '"' :: ((encodeString k).tail ++ ':' :: cs) := rfl
  rw [hquote, scanKey]
  simp [skipSpace, isSpace, hscan]

/-- Reading an array that has an item. -/
theorem decodeValue_array {fuel : ℕ} {cs rest : List Char} {items : List Json}
    (hskip : skipSpace cs = cs) (hhead : cs.head? ≠ some ']')
    (hitems : decodeItems fuel cs = some (items, rest)) :
    decodeValue (fuel + 1) ('[' :: cs) = some (.array items, rest) := by
  have hbracket : skipSpace ('[' :: cs) = '[' :: cs := rfl
  simp only [decodeValue, hbracket, hskip]
  split
  next => simp at hhead
  next => simp [hitems]

/-- Reading an object that has a member, whose key begins with a quote. -/
theorem decodeValue_object {fuel : ℕ} {cs rest : List Char} {members : List (String × Json)}
    (hmembers : decodeMembers fuel ('"' :: cs) = some (members, rest)) :
    decodeValue (fuel + 1) ('{' :: '"' :: cs) = some (.object members, rest) := by
  have hbrace : skipSpace ('{' :: '"' :: cs) = '{' :: '"' :: cs := rfl
  have hquote : skipSpace ('"' :: cs) = '"' :: cs := rfl
  simp [decodeValue, hbrace, hquote, hmembers]

/-- With this much fuel, what was written is read back if it is shorter. -/
structure ReadsBack (fuel : ℕ) : Prop where
  /-- A number must not be continued by what follows it. -/
  value : ∀ (v : Json) (cs : List Char), (∀ c ∈ cs.head?, isNumberChar c = false) →
    (encodeValue v).length < fuel → decodeValue fuel (encodeValue v ++ cs) = some (v, cs)
  items : ∀ (v : Json) (vs : List Json) (cs : List Char),
    (encodeItems (v :: vs)).length < fuel →
      decodeItems fuel (encodeItems (v :: vs) ++ cs) = some (v :: vs, cs)
  members : ∀ (m : String × Json) (ms : List (String × Json)) (cs : List Char),
    (encodeMembers (m :: ms)).length < fuel →
      decodeMembers fuel (encodeMembers (m :: ms) ++ cs) = some (m :: ms, cs)

namespace ReadsBack

variable {fuel : ℕ}

theorem value_succ (h : ReadsBack fuel) (v : Json) (cs : List Char)
    (hcs : ∀ c ∈ cs.head?, isNumberChar c = false) (hfuel : (encodeValue v).length < fuel + 1) :
    decodeValue (fuel + 1) (encodeValue v ++ cs) = some (v, cs) := by
  cases v with
  | null => simp [encodeValue, decodeValue, skipSpace, isSpace, scanScalar]
  | bool b =>
    cases b <;> simp [encodeValue, decodeValue, skipSpace, isSpace, scanScalar]
  | number n =>
    rw [encodeValue]
    exact decodeValue_encodeNumber n hcs fuel
  | str s =>
    rw [encodeValue]
    exact decodeValue_encodeString s cs fuel
  | array items =>
    cases items with
    | nil => simp [encodeValue, encodeItems, decodeValue, skipSpace, isSpace]
    | cons v vs =>
      have hitems := h.items v vs cs (by simpa [encodeValue] using hfuel)
      -- the first item begins neither with white space nor with the bracket
      obtain ⟨text, htext⟩ : ∃ text, encodeItems (v :: vs) ++ cs = encodeValue v ++ text := by
        cases vs <;> simp [encodeItems]
      have hskip := skipSpace_encodeValue v text
      have hhead := head?_encodeValue v text
      rw [← htext] at hskip hhead
      rw [encodeValue, List.cons_append]
      exact decodeValue_array hskip hhead hitems
  | object members =>
    cases members with
    | nil => simp [encodeValue, encodeMembers, decodeValue, skipSpace, isSpace]
    | cons m ms =>
      have hmembers := h.members m ms cs (by simpa [encodeValue] using hfuel)
      obtain ⟨text, htext⟩ : ∃ text, encodeMembers (m :: ms) ++ cs = '"' :: text := by
        obtain ⟨k, v⟩ := m
        cases ms <;> simp [encodeMembers, encodeString]
      rw [encodeValue, List.cons_append]
      rw [htext] at hmembers ⊢
      exact decodeValue_object hmembers

theorem items_succ (h : ReadsBack fuel) (v : Json) (vs : List Json) (cs : List Char)
    (hfuel : (encodeItems (v :: vs)).length < fuel + 1) :
    decodeItems (fuel + 1) (encodeItems (v :: vs) ++ cs) = some (v :: vs, cs) := by
  cases vs with
  | nil =>
    have hv := h.value v (']' :: cs) (by simp [isNumberChar]) (by simpa [encodeItems] using hfuel)
    simp [encodeItems, decodeItems, hv, skipSpace, isSpace]
  | cons w vs =>
    simp only [encodeItems, List.length_append, List.length_cons] at hfuel
    have hv := h.value v (',' :: ' ' :: (encodeItems (w :: vs) ++ cs)) (by simp [isNumberChar])
      (by omega)
    have hrest := h.items w vs cs (by omega)
    simp [encodeItems, decodeItems, hv, skipSpace, isSpace, decodeItems_space, hrest]

theorem members_succ (h : ReadsBack fuel) (m : String × Json) (ms : List (String × Json))
    (cs : List Char) (hfuel : (encodeMembers (m :: ms)).length < fuel + 1) :
    decodeMembers (fuel + 1) (encodeMembers (m :: ms) ++ cs) = some (m :: ms, cs) := by
  obtain ⟨k, v⟩ := m
  -- behind the value stands the brace or a comma, which continues no number
  cases ms with
  | nil =>
    simp only [encodeMembers, List.length_append, List.length_cons] at hfuel
    have hv := h.value v ('}' :: cs) (by simp [isNumberChar]) (by omega)
    simp [encodeMembers, decodeMembers, scanKey_encodeString, decodeValue_space, hv, skipSpace,
      isSpace]
  | cons m ms =>
    simp only [encodeMembers, List.length_append, List.length_cons] at hfuel
    have hv := h.value v (',' :: ' ' :: (encodeMembers (m :: ms) ++ cs)) (by simp [isNumberChar])
      (by omega)
    have hrest := h.members m ms cs (by omega)
    simp [encodeMembers, decodeMembers, scanKey_encodeString, decodeValue_space, hv, skipSpace,
      isSpace, decodeMembers_space, hrest]

end ReadsBack

theorem readsBack (fuel : ℕ) : ReadsBack fuel := by
  induction fuel with
  | zero => exact ⟨fun _ _ _ h => absurd h (by omega), fun _ _ _ h => absurd h (by omega),
      fun _ _ _ h => absurd h (by omega)⟩
  | succ fuel ih => exact ⟨ih.value_succ, ih.items_succ, ih.members_succ⟩

/-- Reading what was written gives the value back. -/
theorem decode_encode (v : Json) : decode (encode v) = some v := by
  have hread := (readsBack ((encodeValue v).length + 1)).value v [] (by simp) (by omega)
  rw [List.append_nil] at hread
  simp [decode, encode, hread, skipSpace]

mutual

/-- A value is written in printable ASCII, and so on one line. -/
theorem isPrintable_encodeValue : ∀ v : Json, ∀ c ∈ encodeValue v, IsPrintable c
  | .null => by simp [encodeValue, IsPrintable]
  | .bool true => by simp [encodeValue, IsPrintable]
  | .bool false => by simp [encodeValue, IsPrintable]
  | .number n => by
    rw [encodeValue]
    exact fun c hc => isPrintable_of_isNumberChar (isNumberChar_of_mem_encodeNumber c hc)
  | .str s => by
    rw [encodeValue]
    exact isPrintable_encodeString s
  | .array items => by
    rw [encodeValue, List.forall_mem_cons]
    exact ⟨by decide, isPrintable_encodeItems items⟩
  | .object members => by
    rw [encodeValue, List.forall_mem_cons]
    exact ⟨by decide, isPrintable_encodeMembers members⟩

theorem isPrintable_encodeItems : ∀ vs : List Json, ∀ c ∈ encodeItems vs, IsPrintable c
  | [] => by simp [encodeItems, IsPrintable]
  | [v] => by
    rw [encodeItems, List.forall_mem_append]
    exact ⟨isPrintable_encodeValue v, List.forall_mem_singleton.2 (by decide)⟩
  | v :: w :: vs => by
    rw [encodeItems, List.forall_mem_append, List.forall_mem_cons, List.forall_mem_cons]
    exact ⟨isPrintable_encodeValue v, by decide, by decide, isPrintable_encodeItems (w :: vs)⟩

theorem isPrintable_encodeMembers :
    ∀ ms : List (String × Json), ∀ c ∈ encodeMembers ms, IsPrintable c
  | [] => by simp [encodeMembers, IsPrintable]
  | [(k, v)] => by
    simp only [encodeMembers, List.forall_mem_append, List.forall_mem_cons]
    exact ⟨isPrintable_encodeString k, by decide, by decide, isPrintable_encodeValue v, by decide,
      by simp⟩
  | (k, v) :: m :: ms => by
    simp only [encodeMembers, List.forall_mem_append, List.forall_mem_cons]
    exact ⟨isPrintable_encodeString k, by decide, by decide, isPrintable_encodeValue v, by decide,
      by decide, isPrintable_encodeMembers (m :: ms)⟩

end

/-- A value is written on one line. -/
theorem isPrintable_encode (v : Json) : ∀ c ∈ (encode v).toList, IsPrintable c := by
  rw [encode, String.toList_ofList]
  exact isPrintable_encodeValue v

end Json
