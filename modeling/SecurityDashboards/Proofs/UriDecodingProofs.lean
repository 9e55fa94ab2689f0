import SecurityDashboards.Lib.UriDecoding
import SecurityDashboards.Proofs.UrlEncodingProofs

/-!
# Proofs: percent-encoding is undone

`decode_percentEncode`: what `decode` leaves of a percent-encoded text is the encoding of the
characters that it preserves.
-/

namespace Js

open UrlEncoding

/-! ## The parts of an encoded text -/

theorem uriParts_cons {c : Char} (hc : c ≠ '%') (l : List Char) :
    uriParts (c :: l) = (uriParts l).map (UriPart.char c :: ·) := by
  cases l with
  | nil => simp only [uriParts, if_neg hc]
  | cons h l =>
    cases l with
    | nil => simp only [uriParts, if_neg hc]
    | cons low l => rw [uriParts, if_neg hc]

theorem uriParts_percentByte {b : ℕ} (hb : b < 256) (l : List Char) :
    uriParts (percentByte b ++ l) = (uriParts l).map (UriPart.byte b (percentByte b) :: ·) := by
  have hhigh := hexValue_hexDigit (b / 16) (by omega)
  have hlow := hexValue_hexDigit (b % 16) (by omega)
  have hbyte : 16 * (b / 16) + b % 16 = b := by omega
  rw [percentByte, List.cons_append, List.cons_append, List.cons_append, List.nil_append, uriParts,
    if_pos rfl, hhigh, hlow]
  dsimp only
  rw [hbyte]

/-- The bytes of a character with their texts. -/
def byteParts (c : Char) : List UriPart := (utf8 c).map fun b => UriPart.byte b (percentByte b)

theorem uriParts_percentBytes {bytes : List ℕ} (h : ∀ b ∈ bytes, b < 256) (l : List Char) :
    uriParts (bytes.flatMap percentByte ++ l) =
      (uriParts l).map ((bytes.map fun b => UriPart.byte b (percentByte b)) ++ ·) := by
  induction bytes with
  | nil => simp
  | cons b bytes ih =>
    rw [List.flatMap_cons, List.append_assoc, uriParts_percentByte (h b List.mem_cons_self),
      ih fun b' hb' => h b' (List.mem_cons_of_mem _ hb'), Option.map_map]
    rfl

/-! ## Bytes of a character -/

section Decode

variable {preserve : Char → Bool}

theorem decodeParts_start {b : ℕ} {text : List Char} (h : 0xC2 ≤ b ∧ b ≤ 0xF4)
    (parts : List UriPart) : decodeParts preserve none (.byte b text :: parts) =
      decodeParts preserve (startByte b).2 parts := by
  rw [decodeParts, if_neg (by omega), if_pos h]

theorem decodeParts_continue {pending : Pending} {b : ℕ} {text : List Char}
    (hb : pending.lower ≤ b ∧ b ≤ pending.upper) (hneeded : pending.needed ≠ 1)
    (parts : List UriPart) : decodeParts preserve (some pending) (.byte b text :: parts) =
      decodeParts preserve (some { needed := pending.needed - 1,
                                   bits := pending.bits * 0x40 + b % 0x40 }) parts := by
  rw [decodeParts, if_pos hb, decodeByte_continue hb hneeded]
  exact Option.map_id'

theorem decodeParts_last {pending : Pending} {b : ℕ} {text : List Char}
    (hb : pending.lower ≤ b ∧ b ≤ pending.upper) (hneeded : pending.needed = 1)
    (parts : List UriPart) : decodeParts preserve (some pending) (.byte b text :: parts) =
      (decodeParts preserve none parts).map (Char.ofNat (pending.bits * 0x40 + b % 0x40) :: ·) := by
  rw [decodeParts, if_pos hb, decodeByte_last hb hneeded]
  rfl

/-- What `decode` makes of a character in percent-encoding. -/
def decodedChar (preserve : Char → Bool) (c : Char) : List Char :=
  if preserve c then (utf8 c).flatMap percentByte else [c]

theorem decodeParts_byteParts (hascii : ∀ c, preserve c = true → c.toNat ≤ 0x7F) (c : Char)
    (parts : List UriPart) : decodeParts preserve none (byteParts c ++ parts) =
      (decodeParts preserve none parts).map (decodedChar preserve c ++ ·) := by
  have hbounds := toNat_bounds c
  have hchar : ∀ n, n = c.toNat → Char.ofNat n = c := by
    rintro n rfl
    exact Char.ofNat_toNat c
  have hdecoded : ¬ c.toNat ≤ 0x7F → decodedChar preserve c = [c] := fun hlong =>
    if_neg fun hpreserve => hlong (hascii c hpreserve)
  rw [byteParts, utf8_eq]
  split_ifs with h1 h2 h3
  · have hsingle : utf8 c = [c.toNat] := by rw [utf8_eq, if_pos h1]
    rw [List.map_singleton, List.singleton_append, decodeParts, if_pos h1, hchar _ rfl,
      decodedChar, hsingle, List.flatMap_singleton]
  · rw [hdecoded h1]
    simp only [List.map_cons, List.map_nil, List.cons_append, List.nil_append]
    rw [decodeParts_start (by omega), startByte_two (by omega),
      decodeParts_last (by dsimp only; omega) rfl, hchar _ (by dsimp only; omega)]
  · rw [hdecoded h1]
    simp only [List.map_cons, List.map_nil, List.cons_append, List.nil_append]
    rw [decodeParts_start (by omega), startByte_three (by omega),
      decodeParts_continue (by dsimp only; split_ifs <;> omega) (by simp),
      decodeParts_last (by dsimp only; omega) rfl, hchar _ (by dsimp only; omega)]
  · rw [hdecoded h1]
    simp only [List.map_cons, List.map_nil, List.cons_append, List.nil_append]
    rw [decodeParts_start (by omega), startByte_four (by omega),
      decodeParts_continue (by dsimp only; split_ifs <;> omega) (by simp),
      decodeParts_continue (by dsimp only; omega) (by simp),
      decodeParts_last (by dsimp only; omega) rfl, hchar _ (by dsimp only; omega)]

end Decode

/-! ## Encoded texts -/

/-- The parts of an encoded text. -/
def encodedParts (inSet : Char → Bool) (l : List Char) : List UriPart :=
  l.flatMap fun c => if inSet c then byteParts c else [.char c]

theorem uriParts_percentEncode {inSet : Char → Bool} {l : List Char}
    (hpercent : ∀ c ∈ l, inSet c = false → c ≠ '%') :
    uriParts (percentEncode inSet l) = some (encodedParts inSet l) := by
  induction l with
  | nil => rfl
  | cons c l ih =>
    have ih' := ih fun d hd => hpercent d (List.mem_cons_of_mem _ hd)
    rw [percentEncode] at ih'
    rw [percentEncode, List.flatMap_cons, encodedParts, List.flatMap_cons]
    by_cases hc : inSet c = true
    · rw [if_pos hc, if_pos hc, uriParts_percentBytes (utf8_lt c), ih']
      rfl
    · have hne : c ≠ '%' := hpercent c List.mem_cons_self (by simpa using hc)
      rw [if_neg hc, if_neg hc, List.singleton_append, uriParts_cons hne, ih']
      rfl

/-- What is left of an encoded text is the encoding of what is preserved. -/
theorem decode_percentEncode {inSet preserve : Char → Bool} {l : List Char}
    (hpercent : ∀ c ∈ l, inSet c = false → c ≠ '%')
    (hascii : ∀ c, preserve c = true → c.toNat ≤ 0x7F) :
    decode preserve (String.ofList (percentEncode inSet l)) =
      some (String.ofList (percentEncode (fun c => inSet c && preserve c) l)) := by
  have hparts : decodeParts preserve none (encodedParts inSet l) =
      some (percentEncode (fun c => inSet c && preserve c) l) := by
    clear hpercent
    induction l with
    | nil => rfl
    | cons c l ih =>
      rw [encodedParts] at ih
      rw [encodedParts, List.flatMap_cons, percentEncode, List.flatMap_cons]
      rw [percentEncode] at ih
      by_cases hc : inSet c = true
      · rw [if_pos hc, decodeParts_byteParts hascii, ih, hc, Bool.true_and, decodedChar]
        rfl
      · rw [if_neg hc, List.singleton_append, decodeParts, ih, Bool.eq_false_iff.mpr hc,
          Bool.false_and]
        rfl
  rw [decode, String.toList_ofList, uriParts_percentEncode hpercent, Option.bind_some, hparts]
  rfl

theorem percentEncode_false (l : List Char) : percentEncode (fun _ => false) l = l := by
  induction l with
  | nil => rfl
  | cons c l ih =>
    rw [percentEncode] at ih
    rw [percentEncode, List.flatMap_cons, ih]
    rfl

/-- `decodeURIComponent` undoes any percent-encoding that spares no percent sign. -/
theorem decodeURIComponent_percentEncode {inSet : Char → Bool} {l : List Char}
    (hpercent : ∀ c ∈ l, inSet c = false → c ≠ '%') :
    decodeURIComponent (String.ofList (percentEncode inSet l)) = some (String.ofList l) := by
  have hnothing : ∀ c : Char, (fun _ => false : Char → Bool) c = true → c.toNat ≤ 0x7F := by
    intro c h
    cases h
  rw [decodeURIComponent, decode_percentEncode hpercent hnothing]
  simp only [Bool.and_false, percentEncode_false]

theorem isUriReserved_ascii {c : Char} (h : isUriReserved c = true) : c.toNat ≤ 0x7F := by
  have hall : ∀ c ∈ ";/?:@&=+$,#".toList, c.toNat ≤ 0x7F := by decide
  exact hall c (List.contains_iff_mem.mp h)

theorem decodeURI_percentEncode {inSet : Char → Bool} {l : List Char}
    (hpercent : ∀ c ∈ l, inSet c = false → c ≠ '%') :
    decodeURI (String.ofList (percentEncode inSet l)) =
      some (String.ofList (percentEncode (fun c => inSet c && isUriReserved c) l)) :=
  decode_percentEncode hpercent fun _ h => isUriReserved_ascii h

end Js
