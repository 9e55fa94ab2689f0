import SecurityDashboards.Common
import SecurityDashboards.Lib.Base64
import SecurityDashboards.Lib.JsString
import SecurityDashboards.Lib.UrlEncoding

/-!
# The runtime

The functions of the JavaScript runtime that the modelled code calls: buffers with their encodings,
the conversion of an `exp` claim, and what is known only by its laws, because it rests on the tables
of Unicode, on compression, or on the text of a whole JSON value. What the results rely on is stated
by the fields that are propositions.
-/

namespace SecurityDashboards

/-! ## Buffers -/

/-- The text of a cookie fragment, in UTF-16 code units. -/
abbrev Text := List UInt16

/-- The bytes of a `Buffer`. -/
abbrev Bytes := List UInt8

namespace Buffer

/-- `buffer.toString('base64')` -/
def toBase64 (buffer : Bytes) : Text :=
  (Base64.encode (buffer.map UInt8.toNat)).map fun c => UInt16.ofNat c.toNat

/-- `Buffer.from(text, 'base64')` -/
def fromBase64 (text : Text) : Bytes :=
  (Base64.decode (text.map fun unit => Char.ofNat unit.toNat)).map UInt8.ofNat

/-- `Buffer.from(s).toString('base64')` -/
def base64 (s : String) : String :=
  String.ofList (Base64.encode (s.toList.flatMap UrlEncoding.utf8))

/-- `Buffer.from(text, 'base64').toString()` -/
def textOfBase64 (text : String) : String :=
  String.ofList (UrlEncoding.utf8Decode (Base64.decode text.toList))

theorem fromBase64_toBase64 (buffer : Bytes) : fromBase64 (toBase64 buffer) = buffer := by
  have hbytes : ∀ b ∈ buffer.map UInt8.toNat, b < 256 := by
    intro b hb
    obtain ⟨u, -, rfl⟩ := List.mem_map.mp hb
    exact u.toNat_lt
  have hunits : ∀ c ∈ Base64.encode (buffer.map UInt8.toNat),
      ((fun unit : UInt16 => Char.ofNat unit.toNat) ∘ fun c : Char => UInt16.ofNat c.toNat) c = c := by
    intro c hc
    have hlt := Base64.encode_lt hbytes c hc
    have hunit : (UInt16.ofNat c.toNat).toNat = c.toNat := by
      rw [UInt16.toNat_ofNat']
      omega
    simp only [Function.comp_apply, hunit, Char.ofNat_toNat]
  rw [fromBase64, toBase64, List.map_map, List.map_congr_left hunits, List.map_id',
    Base64.decode_encode hbytes, List.map_map]
  simp [Function.comp_def]

end Buffer

/-! ## Numbers -/

/-- The `exp` claim of a token payload, as far as the code looks at it. -/
inductive ExpClaim where
  | absent
  | num (q : ℚ)
  /-- Any other JSON value: its truthiness and what it gives when converted to a number
  (`none` for `NaN`) and to a string. -/
  | other (truthy : Bool) (number : Option ℚ) (text : String)
deriving DecidableEq

namespace ExpClaim

def truthy : ExpClaim → Bool
  | absent => false
  | num q => q != 0
  | other t _ _ => t

/-- Conversion to a number; `none` is `NaN`. -/
def toNumber : ExpClaim → Option ℚ
  | absent => none
  | num q => some q
  | other _ n _ => n

/-- The number is written out in decimals, without an exponent. -/
def WrittenOut (q : ℚ) : Prop :=
  q = 0 ∨ (q.num.natAbs < 10 ^ 21 * q.den ∧ q.den ≤ 10 ^ 6 * q.num.natAbs)

instance (q : ℚ) : Decidable (WrittenOut q) := inferInstanceAs (Decidable (_ ∨ _))

/-- `parseInt(exp, 10)`; `none` is `NaN`. Of a number with an exponent only the first digit is read. -/
def parseInt (firstDigit : ℚ → ℤ) : ExpClaim → Option ℚ
  | absent => none
  | num q => some (if WrittenOut q then (q.num.tdiv q.den : ℤ) else firstDigit q)
  | other _ _ text => (Js.parseInt text).map fun n => (n : ℚ)

theorem isSome_parseInt_num (firstDigit : ℚ → ℤ) (q : ℚ) :
    ((num q).parseInt firstDigit).isSome = true := rfl

/-- A whole number that is written out is read as it is. -/
theorem parseInt_whole (firstDigit : ℚ → ℤ) {n : ℤ} (h : n.natAbs < 10 ^ 21) :
    (num n).parseInt firstDigit = some (n : ℚ) := by
  have hwritten : WrittenOut (n : ℚ) := by
    rcases eq_or_ne n 0 with rfl | hne
    · exact Or.inl rfl
    · have hpos : 0 < n.natAbs := Int.natAbs_pos.mpr hne
      refine Or.inr ⟨?_, ?_⟩
      · rw [Rat.num_intCast, Rat.den_intCast, Nat.mul_one]
        exact h
      · rw [Rat.num_intCast, Rat.den_intCast]
        omega
  rw [parseInt, if_pos hwritten, Rat.num_intCast, Rat.den_intCast, Nat.cast_one, Int.tdiv_one]

end ExpClaim

/-! ## What is known by its laws -/

/-- `A` to `Z` in lower case, every other character as it is. -/
def asciiToLowerCase (s : String) : String := String.ofList (s.toList.map Char.toLower)

structure Runtime where
  /-- `String.prototype.toLowerCase` -/
  toLowerCase : String → String
  /-- On ASCII text `toLowerCase` maps `A` to `Z` and nothing else. -/
  toLowerCase_ascii : ∀ s : String, (∀ c ∈ s.toList, c.toNat < 128) →
    toLowerCase s = asciiToLowerCase s
  /-- `zlib.deflateSync` on a string. -/
  deflateSync : String → Bytes
  /-- The message of the error that `deflateSync` throws on any other value of a header. -/
  notDeflatable : String
  /-- `zlib.inflateSync(..).toString()`, or the message of the error it throws. -/
  inflateSync : Bytes → Except String String
  inflate_deflate : ∀ s, inflateSync (deflateSync s) = .ok s
  /-- The empty buffer is not a deflated stream. -/
  inflate_empty : (inflateSync []).toOption = none
  /-- The `exp` field of `JSON.parse(text)`, or the message of the error that this throws. -/
  parseExp : String → Except String ExpClaim
  /-- The first digit of a number as it is written with an exponent, with its sign. -/
  firstDigit : ℚ → ℤ

/-- The `exp` field of `JSON.parse(Buffer.from(payload, 'base64').toString())`. -/
def Runtime.payloadExp (runtime : Runtime) (payload : String) : Except String ExpClaim :=
  runtime.parseExp (Buffer.textOfBase64 payload)

end SecurityDashboards
