import InventorySync.Foundations.Cut
import InventorySync.Foundations.Hexadecimal

/-!
# The tokens of a JSON text

Strings and numbers as a JSON text writes them. A string is written in printable ASCII: every
other character is escaped, one outside the basic plane as a pair of surrogates. A number is read
as the longest run of characters that numbers consist of; with a fraction or an exponent it is
kept as the text it is.

* `scanString_encodeString`: reading a string that was written gives it back;
* `scanNumber_encodeNumber`: so does reading a number.
-/

namespace Json

open Hexadecimal PercentEncoding

/-- The characters from the space to the tilde. -/
def IsPrintable (c : Char) : Prop := 32 ≤ c.toNat ∧ c.toNat ≤ 126

instance : DecidablePred IsPrintable := fun c =>
  inferInstanceAs (Decidable (32 ≤ c.toNat ∧ c.toNat ≤ 126))

/-! ### Strings -/

/-- The lower-case hexadecimal digit of a number below 16. -/
def lowerHexDigit (n : ℕ) : Char := Char.ofNat (if n < 10 then 48 + n else 87 + n)

theorem hexValue?_lowerHexDigit {n : ℕ} (h : n < 16) : hexValue? (lowerHexDigit n) = some n := by
  have hall : ∀ m : Fin 16, hexValue? (lowerHexDigit m) = some m.val := by decide
  exact hall ⟨n, h⟩

/-- A code unit as `\uXXXX`. -/
def unicodeEscape (n : ℕ) : List Char :=
  ['\\', 'u', lowerHexDigit (n / 4096), lowerHexDigit (n / 256 % 16), lowerHexDigit (n / 16 % 16),
    lowerHexDigit (n % 16)]

/-- The letter of the short escape of a character. -/
def escape? (c : Char) : Option Char :=
  if c = '"' ∨ c = '\\' then some c
  else if c = '\n' then some 'n'
  else if c = '\r' then some 'r'
  else if c = '\t' then some 't'
  else if c = '\x0c' then some 'f'
  else if c = '\x08' then some 'b'
  else none

/-- One character of a string. -/
def encodeChar (c : Char) : List Char :=
  match escape? c with
  | some d => ['\\', d]
  | none =>
    if IsPrintable c then [c]
    else if c.toNat < 0x10000 then unicodeEscape c.toNat
    else unicodeEscape (0xD800 + (c.toNat - 0x10000) / 1024) ++
      unicodeEscape (0xDC00 + (c.toNat - 0x10000) % 1024)

/-- A string with its quotes. -/
def encodeString (s : String) : List Char := '"' :: (s.toList.flatMap encodeChar ++ ['"'])

/-- The character that a one-letter escape stands for. -/
def unescape? (c : Char) : Option Char :=
  if c = '"' ∨ c = '\\' ∨ c = '/' then some c
  else if c = 'n' then some '\n'
  else if c = 'r' then some '\r'
  else if c = 't' then some '\t'
  else if c = 'f' then some '\x0c'
  else if c = 'b' then some '\x08'
  else none

/-- Read four hexadecimal digits. -/
def scanUnit : List Char → Option (ℕ × List Char)
  | c₁ :: c₂ :: c₃ :: c₄ :: cs => (hexNumber? [c₁, c₂, c₃, c₄]).map (·, cs)
  | _ => none

/-- Read the second of a pair of surrogates. -/
def scanLowSurrogate (high : ℕ) : List Char → Option (Char × List Char)
  | '\\' :: 'u' :: cs => do
    let (low, cs) ← scanUnit cs
    if 0xDC00 ≤ low ∧ low < 0xE000 then
      return (Char.ofNat (0x10000 + (high - 0xD800) * 1024 + (low - 0xDC00)), cs)
    else none
  | _ => none

/-- Read what follows `\u`: a character of the basic plane, or a pair of surrogates. -/
def scanUnicode (cs : List Char) : Option (Char × List Char) := do
  let (n, cs) ← scanUnit cs
  if 0xD800 ≤ n ∧ n < 0xDC00 then scanLowSurrogate n cs
  else if 0xDC00 ≤ n ∧ n < 0xE000 then none
  else return (Char.ofNat n, cs)

/-- Read one character of a string, escaped or not. -/
def scanChar : List Char → Option (Char × List Char)
  | '\\' :: 'u' :: cs => scanUnicode cs
  | '\\' :: c :: cs => (unescape? c).map (·, cs)
  | c :: cs => if 32 ≤ c.toNat ∧ c ≠ '\\' then some (c, cs) else none
  | [] => none

/-- Read the characters of a string up to the closing quote. -/
def scanChars : ℕ → List Char → Option (List Char × List Char)
  | 0, _ => none
  | fuel + 1, cs =>
    if cs.head? = some '"' then some ([], cs.tail)
    else do
      let (c, cs) ← scanChar cs
      let (chars, cs) ← scanChars fuel cs
      return (c :: chars, cs)

/-- Read what follows the opening quote of a string. -/
def scanString (cs : List Char) : Option (String × List Char) :=
  (scanChars cs.length cs).map fun r => (String.ofList r.1, r.2)

theorem scanUnit_append {n : ℕ} (h : n < 0x10000) (cs : List Char) :
    scanUnit ((unicodeEscape n).drop 2 ++ cs) = some (n, cs) := by
  have h₁ : n / 4096 < 16 := by omega
  have h₂ : n / 256 % 16 < 16 := by omega
  have h₃ : n / 16 % 16 < 16 := by omega
  have h₄ : n % 16 < 16 := by omega
  have hsum : 16 * (16 * (16 * (n / 4096) + n / 256 % 16) + n / 16 % 16) + n % 16 = n := by omega
  simp [unicodeEscape, scanUnit, hexNumber?, shiftIn, hexValue?_lowerHexDigit, h₁, h₂, h₃, h₄, hsum]

theorem toNat_not_surrogate (c : Char) : c.toNat < 0xD800 ∨ 0xE000 ≤ c.toNat := by
  rcases c.valid with h | ⟨h, -⟩
  · exact .inl h
  · exact .inr h

theorem toNat_lt (c : Char) : c.toNat < 0x110000 := by
  rcases c.valid with h | ⟨-, h⟩
  · exact lt_trans h (by decide)
  · exact h

/-- Reading a character of the basic plane. -/
theorem scanChar_unicodeEscape {c : Char} (h : c.toNat < 0x10000) (cs : List Char) :
    scanChar (unicodeEscape c.toNat ++ cs) = some (c, cs) := by
  have hunit := scanUnit_append h cs
  have hno := toNat_not_surrogate c
  have hhigh : ¬ (0xD800 ≤ c.toNat ∧ c.toNat < 0xDC00) := by omega
  have hlow : ¬ (0xDC00 ≤ c.toNat ∧ c.toNat < 0xE000) := by omega
  change scanUnicode ((unicodeEscape c.toNat).drop 2 ++ cs) = some (c, cs)
  simp [scanUnicode, hunit, hhigh, hlow, Char.ofNat_toNat]

/-- Reading a character outside the basic plane, from its two surrogates. -/
theorem scanChar_surrogates {c : Char} (h : 0x10000 ≤ c.toNat) (cs : List Char) :
    scanChar (unicodeEscape (0xD800 + (c.toNat - 0x10000) / 1024) ++
      (unicodeEscape (0xDC00 + (c.toNat - 0x10000) % 1024) ++ cs)) = some (c, cs) := by
  have hlt := toNat_lt c
  obtain ⟨n, hn⟩ : ∃ n, c.toNat - 0x10000 = n := ⟨_, rfl⟩
  rw [hn]
  have hlow : scanLowSurrogate (0xD800 + n / 1024) (unicodeEscape (0xDC00 + n % 1024) ++ cs) =
      some (c, cs) := by
    have hunit : scanUnit ((unicodeEscape (0xDC00 + n % 1024)).drop 2 ++ cs) =
        some (0xDC00 + n % 1024, cs) := scanUnit_append (by omega) cs
    have hrange : 0xDC00 ≤ 0xDC00 + n % 1024 ∧ 0xDC00 + n % 1024 < 0xE000 := by omega
    -- the two parts of the number are put together again
    have hchar : 0x10000 + n / 1024 * 1024 + n % 1024 = c.toNat := by omega
    change (scanUnit ((unicodeEscape (0xDC00 + n % 1024)).drop 2 ++ cs) >>= _) = _
    rw [hunit]
    simp [hrange, hchar, Char.ofNat_toNat]
  have hunit : scanUnit ((unicodeEscape (0xD800 + n / 1024)).drop 2 ++
      (unicodeEscape (0xDC00 + n % 1024) ++ cs)) =
      some (0xD800 + n / 1024, unicodeEscape (0xDC00 + n % 1024) ++ cs) :=
    scanUnit_append (by omega) _
  have hhigh : 0xD800 ≤ 0xD800 + n / 1024 ∧ 0xD800 + n / 1024 < 0xDC00 := by omega
  change scanUnicode ((unicodeEscape (0xD800 + n / 1024)).drop 2 ++
    (unicodeEscape (0xDC00 + n % 1024) ++ cs)) = some (c, cs)
  simp [scanUnicode, hunit, hhigh, hlow]

/-- A short escape is read back as its character, and not as the start of a code unit. -/
theorem unescape?_of_escape? {c d : Char} (h : escape? c = some d) :
    unescape? d = some c ∧ d ≠ 'u' ∧ IsPrintable d := by
  unfold escape? at h
  split at h
  next hc =>
    obtain rfl := Option.some.inj h
    rcases hc with rfl | rfl
    · exact ⟨rfl, by decide, by decide⟩
    · exact ⟨rfl, by decide, by decide⟩
  -- one letter after the other
  iterate 5
    split at h
    next hc =>
      obtain rfl := Option.some.inj h
      exact ⟨hc ▸ rfl, by decide, by decide⟩
  cases h

theorem ne_of_escape?_eq_none {c : Char} (h : escape? c = none) : c ≠ '"' ∧ c ≠ '\\' := by
  rw [← not_or]
  intro hc
  rw [escape?, if_pos hc] at h
  cases h

/-- How a character is written: as a short escape, as itself, as one code unit or as two. -/
theorem encodeChar_cases (c : Char) :
    (∃ d, encodeChar c = ['\\', d] ∧ d ≠ 'u' ∧ IsPrintable d ∧ unescape? d = some c) ∨
      (encodeChar c = [c] ∧ c ≠ '"' ∧ c ≠ '\\' ∧ IsPrintable c) ∨
      (encodeChar c = unicodeEscape c.toNat ∧ c.toNat < 0x10000) ∨
      (encodeChar c = unicodeEscape (0xD800 + (c.toNat - 0x10000) / 1024) ++
        unicodeEscape (0xDC00 + (c.toNat - 0x10000) % 1024) ∧ 0x10000 ≤ c.toNat) := by
  unfold encodeChar
  cases hescape : escape? c with
  | some d =>
    obtain ⟨hunescape, hd, hprintable⟩ := unescape?_of_escape? hescape
    exact .inl ⟨d, rfl, hd, hprintable, hunescape⟩
  | none =>
    obtain ⟨hquote, hbackslash⟩ := ne_of_escape?_eq_none hescape
    -- without a short escape, the code point decides
    by_cases hprintable : IsPrintable c
    · exact .inr (.inl ⟨if_pos hprintable, hquote, hbackslash, hprintable⟩)
    · by_cases hplane : c.toNat < 0x10000
      · exact .inr (.inr (.inl ⟨by simp only [hprintable, hplane, if_true, if_false], hplane⟩))
      · exact .inr (.inr (.inr ⟨by simp only [hprintable, hplane, if_false], by omega⟩))

/-- Reading a character that was written. -/
theorem scanChar_encodeChar (c : Char) (cs : List Char) :
    scanChar (encodeChar c ++ cs) = some (c, cs) := by
  rcases encodeChar_cases c with ⟨d, hc, hd, -, hescape⟩ | ⟨hc, -, hbackslash, hprintable⟩ |
    ⟨hc, hplane⟩ | ⟨hc, hplane⟩
  · have hscan : scanChar ('\\' :: d :: cs) = (unescape? d).map (·, cs) := by
      rw [scanChar]
      exact fun heq => absurd heq hd
    rw [hc, List.cons_append, List.singleton_append, hscan, hescape, Option.map_some]
  · have hscan : scanChar (c :: cs) = if 32 ≤ c.toNat ∧ c ≠ '\\' then some (c, cs) else none := by
      rw [scanChar]
      · exact fun _ heq => absurd heq hbackslash
      · exact fun _ _ heq => absurd heq hbackslash
    rw [hc, List.singleton_append, hscan, if_pos ⟨hprintable.1, hbackslash⟩]
  · rw [hc]
    exact scanChar_unicodeEscape hplane cs
  · rw [hc, List.append_assoc]
    exact scanChar_surrogates hplane cs

/-- No character begins like the end of the string. -/
theorem head?_encodeChar_append (c : Char) (cs : List Char) :
    (encodeChar c ++ cs).head? ≠ some '"' := by
  rcases encodeChar_cases c with ⟨d, hc, -⟩ | ⟨hc, hquote, -⟩ | ⟨hc, -⟩ | ⟨hc, -⟩
  · simp [hc]
  · simpa [hc] using hquote
  · simp [hc, unicodeEscape]
  · simp [hc, unicodeEscape]

/-- Reading the characters of a string that was written. -/
theorem scanChars_flatMap_append (chars : List Char) (cs : List Char) {fuel : ℕ}
    (hfuel : chars.length < fuel) :
    scanChars fuel (chars.flatMap encodeChar ++ '"' :: cs) = some (chars, cs) := by
  induction chars generalizing fuel with
  | nil =>
    obtain ⟨fuel, rfl⟩ := Nat.exists_eq_add_one_of_ne_zero (Nat.ne_of_gt hfuel)
    rfl
  | cons c chars ih =>
    obtain ⟨fuel, rfl⟩ := Nat.exists_eq_add_one_of_ne_zero (Nat.ne_of_gt (by omega : 0 < fuel))
    have hrest : scanChars fuel (chars.flatMap encodeChar ++ '"' :: cs) = some (chars, cs) :=
      ih (by simpa using hfuel)
    rw [List.flatMap_cons, List.append_assoc, scanChars, if_neg (head?_encodeChar_append c _),
      scanChar_encodeChar]
    simp [hrest]

theorem encodeChar_ne_nil (c : Char) : encodeChar c ≠ [] := by
  rcases encodeChar_cases c with ⟨d, hc, -⟩ | ⟨hc, -⟩ | ⟨hc, -⟩ | ⟨hc, -⟩
  · simp [hc]
  · simp [hc]
  · simp [hc, unicodeEscape]
  · simp [hc, unicodeEscape]

theorem length_le_length_flatMap_encodeChar (chars : List Char) :
    chars.length ≤ (chars.flatMap encodeChar).length := by
  induction chars with
  | nil => exact le_rfl
  | cons c chars ih =>
    have hc : 0 < (encodeChar c).length := List.length_pos_iff.2 (encodeChar_ne_nil c)
    rw [List.flatMap_cons, List.length_append, List.length_cons]
    omega

/-- Reading a string that was written. -/
theorem scanString_encodeString (s : String) (cs : List Char) :
    scanString ((encodeString s).tail ++ cs) = some (s, cs) := by
  have htail : (encodeString s).tail ++ cs = s.toList.flatMap encodeChar ++ '"' :: cs := by
    simp [encodeString]
  have hlength := length_le_length_flatMap_encodeChar s.toList
  have hfuel : s.toList.length < (s.toList.flatMap encodeChar ++ '"' :: cs).length := by
    rw [List.length_append, List.length_cons]
    omega
  rw [htail, scanString, scanChars_flatMap_append _ _ hfuel]
  simp [String.ofList_toList]

/-! ### Numbers -/

/-- The characters that a number can have. -/
def isNumberChar (c : Char) : Bool :=
  c.isDigit || c == '-' || c == '+' || c == '.' || c == 'e' || c == 'E'

def isDigits (cs : List Char) : Bool := !cs.isEmpty && cs.all Char.isDigit

/-- Digits without a leading zero. -/
def isNatText (cs : List Char) : Bool := isDigits cs && (cs.length == 1 || cs.head? != some '0')

def isIntText : List Char → Bool
  | '-' :: cs => isNatText cs
  | cs => isNatText cs

/-- What follows the `e` of an exponent. -/
def isExponentText : List Char → Bool
  | '+' :: cs => isDigits cs
  | '-' :: cs => isDigits cs
  | cs => isDigits cs

def isExponentMark (c : Char) : Bool := c == 'e' || c == 'E'

/-- A fraction, an exponent or both. -/
def isFractionText : List Char → Bool
  | '.' :: cs =>
    let (digits, exponent) := cs.cut isExponentMark
    isDigits digits && (exponent.isEmpty || isExponentText (exponent.drop 1))
  | cs => !cs.isEmpty && isExponentText (cs.drop 1)

/-- A number with a fraction or an exponent. -/
def isFloatText (cs : List Char) : Bool :=
  let (whole, fraction) := cs.cut fun c => c == '.' || isExponentMark c
  isIntText whole && isFractionText fraction

/-- A number with a fraction or an exponent, as it is written. -/
structure FloatLiteral where
  text : List Char
  isFloat : isFloatText text = true

inductive Number
  | int (n : ℤ)
  | float (f : FloatLiteral)

def encodeInt (n : ℤ) : List Char :=
  if n < 0 then '-' :: Nat.toDigits 10 n.natAbs else Nat.toDigits 10 n.natAbs

def encodeNumber : Number → List Char
  | .int n => encodeInt n
  | .float f => f.text

def natValue? (cs : List Char) : Option ℕ :=
  if isNatText cs then some (Nat.ofDigitChars 10 cs 0) else none

def intValue? : List Char → Option ℤ
  | '-' :: cs => (natValue? cs).map fun n : ℕ => -(n : ℤ)
  | cs => (natValue? cs).map fun n : ℕ => (n : ℤ)

/-- The number that a text is. -/
def numberValue? (cs : List Char) : Option Number :=
  if h : isFloatText cs = true then some (.float ⟨cs, h⟩) else (intValue? cs).map .int

/-- Read a number. -/
def scanNumber (cs : List Char) : Option (Number × List Char) :=
  let (text, rest) := cs.cut fun c => !isNumberChar c
  (numberValue? text).map (·, rest)

theorem isNumberChar_of_isDigit {c : Char} (h : c.isDigit = true) : isNumberChar c = true := by
  simp [isNumberChar, h]

theorem isNumberChar_of_isDigits {cs : List Char} (h : isDigits cs = true) :
    ∀ c ∈ cs, isNumberChar c = true := by
  intro c hc
  rw [isDigits, Bool.and_eq_true, List.all_eq_true] at h
  exact isNumberChar_of_isDigit (h.2 c hc)

theorem isNumberChar_of_isIntText {cs : List Char} (h : isIntText cs = true) :
    ∀ c ∈ cs, isNumberChar c = true := by
  have hnat : ∀ {cs}, isNatText cs = true → ∀ c ∈ cs, isNumberChar c = true := by
    intro cs h
    rw [isNatText, Bool.and_eq_true] at h
    exact isNumberChar_of_isDigits h.1
  unfold isIntText at h
  split at h
  next cs =>
    intro c hc
    rcases List.mem_cons.1 hc with rfl | hc
    · rfl
    · exact hnat h c hc
  next => exact hnat h

theorem isNumberChar_of_isExponentText {cs : List Char} (h : isExponentText cs = true) :
    ∀ c ∈ cs, isNumberChar c = true := by
  unfold isExponentText at h
  split at h
  next cs =>
    intro c hc
    rcases List.mem_cons.1 hc with rfl | hc
    · rfl
    · exact isNumberChar_of_isDigits h c hc
  next cs =>
    intro c hc
    rcases List.mem_cons.1 hc with rfl | hc
    · rfl
    · exact isNumberChar_of_isDigits h c hc
  next => exact isNumberChar_of_isDigits h

theorem isNumberChar_of_isExponentMark {c : Char} (h : isExponentMark c = true) :
    isNumberChar c = true := by
  rw [isExponentMark, Bool.or_eq_true, beq_iff_eq, beq_iff_eq] at h
  rcases h with rfl | rfl <;> rfl

theorem isNumberChar_of_isFractionText {cs : List Char} (h : isFractionText cs = true)
    (hhead : ∀ c ∈ cs.head?, isNumberChar c = true) : ∀ c ∈ cs, isNumberChar c = true := by
  unfold isFractionText at h
  split at h
  next cs =>
    simp only [Bool.and_eq_true, Bool.or_eq_true] at h
    intro c hc
    rcases List.mem_cons.1 hc with rfl | hc
    · rfl
    rw [← List.fst_cut_append_snd isExponentMark cs, List.mem_append] at hc
    rcases hc with hc | hc
    · exact isNumberChar_of_isDigits h.1 c hc
    -- the exponent: its mark, or what follows it
    by_cases hmark : isExponentMark c = true
    · exact isNumberChar_of_isExponentMark hmark
    have hdrop := List.mem_drop_snd_cut hc (Bool.eq_false_iff.2 hmark)
    rcases h.2 with hnil | hexponent
    · simp [List.isEmpty_iff.1 hnil] at hc
    · exact isNumberChar_of_isExponentText hexponent c hdrop
  next =>
    cases cs with
    | nil => cases h
    | cons d cs =>
      simp only [List.isEmpty_cons, Bool.not_false, Bool.true_and, List.drop_succ_cons,
        List.drop_zero] at h
      intro c hc
      rcases List.mem_cons.1 hc with rfl | hc
      · exact hhead c rfl
      · exact isNumberChar_of_isExponentText h c hc

/-- A float has no other characters than numbers have. -/
theorem FloatLiteral.isNumberChar (f : FloatLiteral) :
    ∀ c ∈ f.text, Json.isNumberChar c = true := by
  have hfloat := f.isFloat
  simp only [isFloatText, Bool.and_eq_true] at hfloat
  intro c hc
  rw [← List.fst_cut_append_snd (fun c => c == '.' || isExponentMark c) f.text,
    List.mem_append] at hc
  rcases hc with hc | hc
  · exact isNumberChar_of_isIntText hfloat.1 c hc
  · refine isNumberChar_of_isFractionText hfloat.2 ?_ c hc
    -- the fraction begins with the point or the mark it was cut at
    intro d hd
    have hdelimiter := List.head?_dropWhile_not
      (fun c => !(c == '.' || isExponentMark c)) f.text
    rw [List.cut, Option.mem_def] at hd
    rw [hd] at hdelimiter
    have hd' : d = '.' ∨ isExponentMark d = true := by
      simpa [or_iff_not_imp_left] using hdelimiter
    rcases hd' with rfl | hmark
    · rfl
    · exact isNumberChar_of_isExponentMark hmark

theorem head?_toDigits {n : ℕ} (h : 0 < n) : (Nat.toDigits 10 n).head? ≠ some '0' := by
  induction n using Nat.strong_induction_on with
  | _ n ih =>
    by_cases hn : n < 10
    · rw [Nat.toDigits_of_lt_base hn, List.head?_cons, ne_eq, Option.some.injEq,
        Nat.digitChar_eq_zero]
      omega
    · have hdiv := ih (n / 10) (by omega) (by omega)
      rw [Nat.toDigits_of_base_le (by decide) (by omega), List.head?_append]
      cases hhead : (Nat.toDigits 10 (n / 10)).head? with
      | none => exact absurd (List.head?_eq_none_iff.1 hhead) Nat.toDigits_ne_nil
      | some c => simpa [hhead] using hdiv

theorem isDigits_toDigits (n : ℕ) : isDigits (Nat.toDigits 10 n) = true := by
  have hdigit : ∀ c ∈ Nat.toDigits 10 n, c.isDigit = true := fun c hc =>
    Nat.isDigit_of_mem_toDigits (by decide) (by decide) hc
  simpa [isDigits] using hdigit

theorem isNatText_toDigits (n : ℕ) : isNatText (Nat.toDigits 10 n) = true := by
  rw [isNatText, isDigits_toDigits, Bool.true_and, Bool.or_eq_true]
  rcases Nat.eq_zero_or_pos n with rfl | hn
  · exact .inl rfl
  · exact .inr (bne_iff_ne.2 (head?_toDigits hn))

theorem natValue?_toDigits (n : ℕ) : natValue? (Nat.toDigits 10 n) = some n := by
  rw [natValue?, if_pos (isNatText_toDigits n), Nat.ofDigitChars_ten_toDigits]

/-- The digits of a number are not taken for a sign. -/
theorem head?_ne_of_isDigits {cs : List Char} (h : isDigits cs = true) {c : Char}
    (hc : c.isDigit = false) : cs.head? ≠ some c := by
  intro hhead
  rw [isDigits, Bool.and_eq_true, List.all_eq_true] at h
  rw [h.2 c (List.mem_of_head? hhead)] at hc
  cases hc

theorem intValue?_encodeInt (n : ℤ) : intValue? (encodeInt n) = some n := by
  have hvalue := natValue?_toDigits n.natAbs
  unfold encodeInt
  split
  next hneg =>
    have habs : -(n.natAbs : ℤ) = n := by omega
    simp only [intValue?, hvalue, Option.map_some, habs]
  next hneg =>
    have habs : (n.natAbs : ℤ) = n := by omega
    have hhead := head?_ne_of_isDigits (isDigits_toDigits n.natAbs) (c := '-') rfl
    unfold intValue?
    split
    next heq => simp [heq] at hhead
    next => simp only [hvalue, Option.map_some, habs]

theorem isIntText_encodeInt (n : ℤ) : isIntText (encodeInt n) = true := by
  unfold encodeInt
  split
  · exact isNatText_toDigits n.natAbs
  · have hhead := head?_ne_of_isDigits (isDigits_toDigits n.natAbs) (c := '-') rfl
    unfold isIntText
    split
    next heq => simp [heq] at hhead
    next => exact isNatText_toDigits n.natAbs

/-- An integer has no fraction to be cut off. -/
theorem isFloatText_encodeInt (n : ℤ) : isFloatText (encodeInt n) = false := by
  -- neither a digit nor the sign begins a fraction or an exponent
  have hnone : ∀ c ∈ encodeInt n, (c == '.' || isExponentMark c) = false := by
    have hdigits : ∀ c ∈ Nat.toDigits 10 n.natAbs, (c == '.' || isExponentMark c) = false := by
      intro c hc
      have hdigit := Nat.isDigit_of_mem_toDigits (by decide) (by decide) hc
      rw [Bool.eq_false_iff]
      intro hmark
      simp only [isExponentMark, Bool.or_eq_true, beq_iff_eq] at hmark
      rcases hmark with rfl | rfl | rfl <;> cases hdigit
    unfold encodeInt
    split
    · intro c hc
      rcases List.mem_cons.1 hc with rfl | hc
      · rfl
      · exact hdigits c hc
    · exact hdigits
  simp only [isFloatText, List.cut_of_notMem hnone]
  simp [isFractionText]

theorem numberValue?_encodeNumber (n : Number) : numberValue? (encodeNumber n) = some n := by
  cases n with
  | int n => simp [numberValue?, encodeNumber, isFloatText_encodeInt, intValue?_encodeInt]
  | float f => simp [numberValue?, encodeNumber, f.isFloat]

theorem isNumberChar_of_mem_encodeNumber {n : Number} :
    ∀ c ∈ encodeNumber n, isNumberChar c = true := by
  cases n with
  | int n => exact isNumberChar_of_isIntText (isIntText_encodeInt n)
  | float f => exact f.isNumberChar

/-- Reading a number that was written, where it is not continued. -/
theorem scanNumber_encodeNumber (n : Number) {cs : List Char}
    (hcs : ∀ c ∈ cs.head?, isNumberChar c = false) :
    scanNumber (encodeNumber n ++ cs) = some (n, cs) := by
  have hrest : cs.cut (fun c => !isNumberChar c) = ([], cs) := by
    cases cs with
    | nil => rfl
    | cons c cs =>
      have hc : isNumberChar c = false := hcs c rfl
      simp [List.cut, hc]
  have hnumber : ∀ c ∈ encodeNumber n, (!isNumberChar c) = false := by
    intro c hc
    rw [isNumberChar_of_mem_encodeNumber c hc, Bool.not_true]
  simp [scanNumber, List.cut_append_of_notMem hnumber, hrest, numberValue?_encodeNumber]

theorem encodeNumber_ne_nil (n : Number) : encodeNumber n ≠ [] := by
  intro hnil
  have hvalue := numberValue?_encodeNumber n
  rw [hnil] at hvalue
  simp [numberValue?, isFloatText, isIntText, isNatText, isDigits, List.cut, intValue?,
    natValue?] at hvalue

/-! ### Printable ASCII -/

theorem isPrintable_of_isNumberChar {c : Char} (h : isNumberChar c = true) : IsPrintable c := by
  simp only [isNumberChar, Bool.or_eq_true, beq_iff_eq] at h
  rcases h with ((((hdigit | rfl) | rfl) | rfl) | rfl) | rfl
  · simp only [Char.isDigit, Bool.and_eq_true, decide_eq_true_eq] at hdigit
    obtain ⟨hle, hge⟩ := hdigit
    have hle' : 48 ≤ c.toNat := hle
    have hge' : c.toNat ≤ 57 := hge
    exact ⟨by omega, by omega⟩
  all_goals decide

theorem isPrintable_lowerHexDigit {n : ℕ} (h : n < 16) : IsPrintable (lowerHexDigit n) := by
  have hall : ∀ m : Fin 16, IsPrintable (lowerHexDigit m) := by decide
  exact hall ⟨n, h⟩

theorem isPrintable_unicodeEscape {n : ℕ} (h : n < 0x10000) :
    ∀ c ∈ unicodeEscape n, IsPrintable c := by
  intro c hc
  simp only [unicodeEscape, List.mem_cons, List.not_mem_nil, or_false] at hc
  rcases hc with rfl | rfl | rfl | rfl | rfl | rfl
  · decide
  · decide
  all_goals exact isPrintable_lowerHexDigit (by omega)

theorem isPrintable_encodeChar (c : Char) : ∀ d ∈ encodeChar c, IsPrintable d := by
  have hlt := toNat_lt c
  rcases encodeChar_cases c with ⟨e, hc, -, he, -⟩ | ⟨hc, -, -, hprintable⟩ | ⟨hc, hplane⟩ | ⟨hc, -⟩
  · rw [hc, List.forall_mem_cons, List.forall_mem_singleton]
    exact ⟨by decide, he⟩
  · rw [hc, List.forall_mem_singleton]
    exact hprintable
  · rw [hc]
    exact isPrintable_unicodeEscape hplane
  · rw [hc, List.forall_mem_append]
    exact ⟨isPrintable_unicodeEscape (by omega), isPrintable_unicodeEscape (by omega)⟩

/-- A string is written in printable ASCII. -/
theorem isPrintable_encodeString (s : String) : ∀ c ∈ encodeString s, IsPrintable c := by
  have hquote : IsPrintable '"' := by decide
  intro c hc
  simp only [encodeString, List.mem_cons, List.mem_append, List.mem_flatMap, List.not_mem_nil,
    or_false] at hc
  rcases hc with rfl | ⟨d, -, hd⟩ | rfl
  · exact hquote
  · exact isPrintable_encodeChar d c hd
  · exact hquote

end Json
