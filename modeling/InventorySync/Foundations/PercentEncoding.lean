import Mathlib.Tactic.Common
import Mathlib.Data.Option.Basic

/-!
# Percent-encoding of text

Text is encoded as UTF-8, and every byte outside a set of safe ASCII bytes is written as `%XX`.

* `percentDecode_percentEncode`: decoding gives the bytes back;
* `unquote_quote`: and so the text.
-/

namespace PercentEncoding

/-- The bytes that are written as the ASCII character they stand for. -/
structure SafeBytes where
  isSafe : UInt8 → Bool
  ascii : ∀ b, isSafe b = true → b.toNat < 128
  /-- The escape character `%` is not safe. -/
  percent : isSafe 37 = false

/-- The upper-case hexadecimal digit of a number below 16. -/
def hexDigit (n : ℕ) : Char := Char.ofNat (if n < 10 then 48 + n else 55 + n)

/-- The number a hexadecimal digit denotes. -/
def hexValue? (c : Char) : Option ℕ :=
  let n := c.toNat
  if 48 ≤ n ∧ n ≤ 57 then some (n - 48)
  else if 65 ≤ n ∧ n ≤ 70 then some (n - 55)
  else if 97 ≤ n ∧ n ≤ 102 then some (n - 87)
  else none

theorem hexValue?_hexDigit {n : ℕ} (h : n < 16) : hexValue? (hexDigit n) = some n := by
  have hall : ∀ m : Fin 16, hexValue? (hexDigit m) = some m.val := by decide
  exact hall ⟨n, h⟩

variable (safe : SafeBytes)

/-- One byte as one or three characters. -/
def encodeByte (b : UInt8) : List Char :=
  if safe.isSafe b then [Char.ofNat b.toNat]
  else ['%', hexDigit (b.toNat / 16), hexDigit (b.toNat % 16)]

/-- The characters that stand for a sequence of bytes. -/
def percentEncode (bytes : List UInt8) : List Char := bytes.flatMap (encodeByte safe)

/-- The bytes that a sequence of characters stands for. -/
def percentDecode : List Char → Option (List UInt8)
  | [] => some []
  | '%' :: hi :: lo :: cs => do
    let h ← hexValue? hi
    let l ← hexValue? lo
    let bytes ← percentDecode cs
    return UInt8.ofNat (16 * h + l) :: bytes
  | c :: cs =>
    if c ≠ '%' ∧ c.toNat < 128 then (percentDecode cs).map (UInt8.ofNat c.toNat :: ·) else none

theorem toNat_ofNat {n : ℕ} (h : n < 128) : (Char.ofNat n).toNat = n := by
  have hall : ∀ m : Fin 128, (Char.ofNat m).toNat = m.val := by decide
  exact hall ⟨n, h⟩

theorem percentDecode_cons {c : Char} (hpercent : c ≠ '%') (hascii : c.toNat < 128)
    (cs : List Char) :
    percentDecode (c :: cs) = (percentDecode cs).map (UInt8.ofNat c.toNat :: ·) := by
  rw [percentDecode.eq_3 _ _ (by rintro hi lo cs' rfl; exact fun _ => hpercent rfl)]
  exact if_pos ⟨hpercent, hascii⟩

variable {safe}

/-- Decoding an encoded byte gives the byte back. -/
theorem percentDecode_encodeByte_append (b : UInt8) (cs : List Char) :
    percentDecode (encodeByte safe b ++ cs) = (percentDecode cs).map (b :: ·) := by
  have hb : b.toNat < 256 := b.toNat_lt
  unfold encodeByte
  split
  next hsafe =>
    have hascii := safe.ascii b hsafe
    -- a safe byte is not read as the start of an escape
    have hpercent : Char.ofNat b.toNat ≠ '%' := by
      intro heq
      have htoNat : b.toNat = 37 := by
        rw [← toNat_ofNat hascii, heq]
        rfl
      have hb37 : b = 37 := UInt8.toNat_inj.1 htoNat
      rw [hb37, safe.percent] at hsafe
      cases hsafe
    rw [List.singleton_append, percentDecode_cons hpercent (by rwa [toNat_ofNat hascii]),
      toNat_ofNat hascii, UInt8.ofNat_toNat]
  next =>
    -- the two digits give the byte's high and low half back
    have hdigits : 16 * (b.toNat / 16) + b.toNat % 16 = b.toNat := Nat.div_add_mod _ _
    simp only [List.cons_append, List.nil_append, percentDecode,
      hexValue?_hexDigit (show b.toNat / 16 < 16 by omega),
      hexValue?_hexDigit (show b.toNat % 16 < 16 by omega), Option.bind_eq_bind, Option.bind_some,
      hdigits, UInt8.ofNat_toNat]
    cases percentDecode cs <;> rfl

/-- Decoding gives the encoded bytes back. -/
theorem percentDecode_percentEncode (bytes : List UInt8) :
    percentDecode (percentEncode safe bytes) = some bytes := by
  induction bytes with
  | nil => rfl
  | cons b bytes ih =>
    rw [percentEncode, List.flatMap_cons, percentDecode_encodeByte_append, ← percentEncode, ih]
    rfl

variable (safe)

/-- A text as the characters that stand for its UTF-8 bytes. -/
def quote (text : List Char) : List Char :=
  percentEncode safe (text.flatMap String.utf8EncodeChar)

/-- The text whose UTF-8 bytes a sequence of characters stands for. -/
def unquote (cs : List Char) : Option (List Char) := do
  let bytes ← percentDecode cs
  let text ← bytes.toByteArray.utf8Decode?
  return text.toList

variable {safe}

/-- Decoding gives the encoded text back. -/
theorem unquote_quote (text : List Char) : unquote (quote safe text) = some text := by
  have hutf8 : (text.flatMap String.utf8EncodeChar).toByteArray.utf8Decode? = some text.toArray :=
    List.utf8Decode?_utf8Encode
  rw [unquote, quote, percentDecode_percentEncode]
  simp only [Option.bind_eq_bind, Option.bind_some, hutf8, Option.pure_def]

end PercentEncoding
