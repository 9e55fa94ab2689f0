import Mathlib.Data.Nat.Notation
import Mathlib.Data.List.Basic

/-!
# Encodings in URLs

Percent-encoding, the UTF-8 decoder with replacement, `application/x-www-form-urlencoded` as
`URLSearchParams` reads and writes it, `encodeURIComponent`, the legacy function `escape`, and the
function of this name in the module `querystring`.
A byte is a number below 256.
-/

namespace UrlEncoding

/-! ## Percent-encoding -/

/-- A hexadecimal digit in upper case. -/
def hexDigit (n : ℕ) : Char := if n < 10 then Char.ofNat (48 + n) else Char.ofNat (55 + n)

def hexValue (c : Char) : Option ℕ :=
  if 48 ≤ c.toNat ∧ c.toNat ≤ 57 then some (c.toNat - 48)
  else if 65 ≤ c.toNat ∧ c.toNat ≤ 70 then some (c.toNat - 55)
  else if 97 ≤ c.toNat ∧ c.toNat ≤ 102 then some (c.toNat - 87)
  else none

/-- The UTF-8 encoding of a character. -/
def utf8 (c : Char) : List ℕ := (String.utf8EncodeChar c).map UInt8.toNat

/-- A byte as `%XX`. -/
def percentByte (b : ℕ) : List Char := ['%', hexDigit (b / 16), hexDigit (b % 16)]

/-- The characters of the set are replaced by their UTF-8 bytes in percent-encoding. -/
def percentEncode (inSet : Char → Bool) (s : List Char) : List Char :=
  s.flatMap fun c => if inSet c then (utf8 c).flatMap percentByte else [c]

/-- The bytes of a text in which `%XX` stands for a byte. -/
def percentDecode : List Char → List ℕ
  | [] => []
  | c :: h :: l :: rest =>
    match (if c = '%' then hexValue h else none), hexValue l with
    | some high, some low => (16 * high + low) :: percentDecode rest
    | _, _ => utf8 c ++ percentDecode (h :: l :: rest)
  | c :: rest => utf8 c ++ percentDecode rest

/-! ## UTF-8 -/

/-- A sequence of bytes that is not complete: how many are missing, the bounds of the next one, and
the bits so far. -/
structure Pending where
  needed : ℕ
  lower : ℕ := 0x80
  upper : ℕ := 0xBF
  bits : ℕ

def replacementCharacter : Char := Char.ofNat 0xFFFD

/-- A byte that starts a sequence. -/
def startByte (b : ℕ) : List Char × Option Pending :=
  if b ≤ 0x7F then ([Char.ofNat b], none)
  else if 0xC2 ≤ b ∧ b ≤ 0xDF then ([], some { needed := 1, bits := b % 0x20 })
  else if 0xE0 ≤ b ∧ b ≤ 0xEF then
    ([], some { needed := 2, bits := b % 0x10,
                lower := if b = 0xE0 then 0xA0 else 0x80,
                upper := if b = 0xED then 0x9F else 0xBF })
  else if 0xF0 ≤ b ∧ b ≤ 0xF4 then
    ([], some { needed := 3, bits := b % 0x8,
                lower := if b = 0xF0 then 0x90 else 0x80,
                upper := if b = 0xF4 then 0x8F else 0xBF })
  else ([replacementCharacter], none)

/-- A byte that does not continue the sequence ends it with a replacement character and starts the
next one. -/
def decodeByte : Option Pending → ℕ → List Char × Option Pending
  | none, b => startByte b
  | some pending, b =>
    if pending.lower ≤ b ∧ b ≤ pending.upper then
      let bits := pending.bits * 0x40 + b % 0x40
      if pending.needed = 1 then ([Char.ofNat bits], none)
      else ([], some { needed := pending.needed - 1, bits })
    else
      let (out, next) := startByte b
      (replacementCharacter :: out, next)

/-- The UTF-8 decoder. -/
def utf8DecodeFrom : Option Pending → List ℕ → List Char
  | none, [] => []
  | some _, [] => [replacementCharacter]
  | pending, b :: bytes =>
    (decodeByte pending b).1 ++ utf8DecodeFrom (decodeByte pending b).2 bytes

def utf8Decode (bytes : List ℕ) : List Char := utf8DecodeFrom none bytes

/-! ## Forms -/

/-- A name or a value of `application/x-www-form-urlencoded`. -/
def formDecode (s : List Char) : List Char :=
  utf8Decode (percentDecode (s.map fun c => if c = '+' then ' ' else c))

/-- A name and a value, which are separated by the first `=`. -/
def formPair (s : List Char) : String × String :=
  (String.ofList (formDecode (s.takeWhile (· ≠ '='))),
    String.ofList (formDecode ((s.dropWhile (· ≠ '=')).drop 1)))

/-- The parameters of a query, as `URLSearchParams` finds them after the question mark. -/
def formParse (s : List Char) : List (String × String) :=
  ((s.splitOn '&').filter (· ≠ [])).map formPair

/-- Letters and digits are ASCII. -/
theorem toNat_of_isAlphanum {c : Char} (h : c.isAlphanum = true) :
    (65 ≤ c.toNat ∧ c.toNat ≤ 90) ∨ (97 ≤ c.toNat ∧ c.toNat ≤ 122) ∨
      (48 ≤ c.toNat ∧ c.toNat ≤ 57) := by
  have hcases : ((decide (65 ≤ c.val ∧ c.val ≤ 90) ||
      decide (97 ≤ c.val) && decide (c.val ≤ 122)) ||
      decide (48 ≤ c.val) && decide (c.val ≤ 57)) = true := h
  simp only [Bool.or_eq_true, Bool.and_eq_true, decide_eq_true_eq, UInt32.le_iff_toNat_le] at hcases
  rcases hcases with (h | h) | h
  · exact Or.inl h
  · exact Or.inr (Or.inl h)
  · exact Or.inr (Or.inr h)

theorem isAlphanum_lt {c : Char} (h : c.isAlphanum = true) : c.toNat < 128 := by
  have hbounds := toNat_of_isAlphanum h
  omega

def isFormSafe (c : Char) : Bool := c.isAlphanum || c = '*' || c = '-' || c = '.' || c = '_'

def formEncode (s : String) : List Char :=
  (percentEncode (fun c => !isFormSafe c && c ≠ ' ') s.toList).map fun c => if c = ' ' then '+' else c

/-- The query in the text of a URL, after the first question mark and before the hash. -/
def queryText (url : List Char) : List Char :=
  ((url.takeWhile (· ≠ '#')).dropWhile (· ≠ '?')).drop 1

/-- `URLSearchParams.prototype.toString` -/
def formSerialize (params : List (String × String)) : List Char :=
  ['&'].intercalate (params.map fun param => formEncode param.1 ++ '=' :: formEncode param.2)

end UrlEncoding

namespace Js

open UrlEncoding

def isUriUnreserved (c : Char) : Bool :=
  c.isAlphanum || c = '-' || c = '_' || c = '.' || c = '!' || c = '~' || c = '*' || c = '\'' ||
    c = '(' || c = ')'

def encodeURIComponent (s : String) : String :=
  String.ofList (percentEncode (!isUriUnreserved ·) s.toList)

/-- `escape` of the module `querystring` of Node, which spares the same characters. -/
def querystringEscape (s : String) : String :=
  String.ofList (percentEncode (!isUriUnreserved ·) s.toList)

/-- The code units of a character in UTF-16. -/
def utf16 (c : Char) : List ℕ :=
  if c.toNat < 0x10000 then [c.toNat]
  else [0xD800 + (c.toNat - 0x10000) / 0x400, 0xDC00 + (c.toNat - 0x10000) % 0x400]

def isEscapeSafe (c : Char) : Bool :=
  c.isAlphanum || c = '@' || c = '*' || c = '_' || c = '+' || c = '-' || c = '.' || c = '/'

/-- A code unit as `%XX`, or as `%uXXXX` if it does not fit. -/
def escapeUnit (n : ℕ) : List Char :=
  if n < 256 then percentByte n
  else ['%', 'u', hexDigit (n / 4096), hexDigit (n / 256 % 16), hexDigit (n / 16 % 16),
    hexDigit (n % 16)]

/-- The legacy function `escape`. -/
def escape (s : String) : String :=
  String.ofList (s.toList.flatMap fun c => if isEscapeSafe c then [c] else (utf16 c).flatMap escapeUnit)

/-- The characters that `url.parse` of Node escapes. -/
def isAutoEscaped (c : Char) : Bool :=
  c = '{' || c = '}' || c = '|' || c = '\\' || c = '^' || c = '`' || c = '<' || c = '>' || c = '"' ||
    c = ' ' || c = '\r' || c = '\n' || c = '\t' || c = '\''

end Js
