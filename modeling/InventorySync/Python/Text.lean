import InventorySync.Foundations.Cut
import InventorySync.Python.Values

/-!
# Text

The methods of `str` that the settings validators use besides `strip`, and the tables of the
standard library that text is looked up in.
-/

namespace Python

/-- What `str`, `unicodedata` and `ipaddress` look up. -/
class TextTables where
  isPrintable : Char → Bool
  /-- A character in upper case, which may be several. -/
  upper : Char → List Char
  /-- The value of a decimal digit of any script, `unicodedata.decimal`. -/
  decimal? : Char → Option ℕ
  /-- `unicodedata.normalize("NFKC", _)` -/
  nfkc : List Char → List Char
  /-- `ipaddress.ip_address` reads the text as an IPv6 address. -/
  isIpv6 : List Char → Bool

/-- The tables restricted to ASCII, without addresses. -/
@[reducible]
def asciiText : TextTables where
  isPrintable c := 32 ≤ c.toNat && c.toNat < 127
  upper c := [c.toUpper]
  decimal? c := if c.isDigit then some (c.toNat - 48) else none
  nfkc := id
  isIpv6 _ := false

/-- `c.isascii()` -/
def isAscii (c : Char) : Bool := c.toNat < 128

/-- `value.rstrip(chars)` -/
def rstrip (value : String) (chars : List Char) : String :=
  String.ofList (value.toList.rdropWhile chars.contains)

/-- `text.replace(old, "")`; the first characters of `text` may be passed over already. -/
def deleteAll (old : List Char) : ℕ → List Char → List Char
  | _, [] => []
  | n + 1, _ :: text => deleteAll old n text
  | 0, c :: text =>
    if old.isPrefixOf (c :: text) then deleteAll old (old.length - 1) text
    else c :: deleteAll old 0 text

/-- `f"{n:0{width}x}"` -/
def hexText (width n : ℕ) : List Char :=
  let digits := Nat.toDigits 16 n
  List.replicate (width - digits.length) '0' ++ digits

/-- One character of `repr(text)`. -/
def reprChar [TextTables] (quote c : Char) : List Char :=
  let n := c.toNat
  if c = quote ∨ c = '\\' then ['\\', c]
  else if c = '\t' then ['\\', 't']
  else if c = '\n' then ['\\', 'n']
  else if c = '\r' then ['\\', 'r']
  else if n < 32 ∨ n = 127 then '\\' :: 'x' :: hexText 2 n
  else if n < 127 ∨ TextTables.isPrintable c then [c]
  else if n ≤ 0xFF then '\\' :: 'x' :: hexText 2 n
  else if n ≤ 0xFFFF then '\\' :: 'u' :: hexText 4 n
  else '\\' :: 'U' :: hexText 8 n

/-- `repr(text)` -/
def reprText [TextTables] (text : String) : String :=
  -- double quotes only where they save escaping
  let quote := if text.toList.contains '\'' && !text.toList.contains '"' then '"' else '\''
  String.ofList (quote :: text.toList.flatMap (reprChar quote) ++ [quote])

theorem toList_strip (value : String) : (strip value).toList = value.toList.trim isSpace :=
  String.toList_ofList

theorem toList_rstrip (value : String) (chars : List Char) :
    (rstrip value chars).toList = value.toList.rdropWhile chars.contains :=
  String.toList_ofList

end Python
