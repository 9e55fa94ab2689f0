import SecurityDashboards.Lib.UrlEncoding
import Mathlib.Algebra.Ring.Nat
import Mathlib.Tactic.Common

/-!
# Proofs: what a form decoder reads back

What `URLSearchParams` finds in text that one of the encoders wrote: `encodeURIComponent` comes back
as it was, and `escape` of ASCII text with a space for each plus sign.
-/

namespace UrlEncoding

/-! ## UTF-8 -/

theorem utf8DecodeFrom_cons (pending : Option Pending) (b : ℕ) (bytes : List ℕ) :
    utf8DecodeFrom pending (b :: bytes) =
      (decodeByte pending b).1 ++ utf8DecodeFrom (decodeByte pending b).2 bytes := by
  cases pending <;> rfl

/-- A byte that continues a sequence and does not complete it. -/
theorem decodeByte_continue {pending : Pending} {b : ℕ} (hb : pending.lower ≤ b ∧ b ≤ pending.upper)
    (hneeded : pending.needed ≠ 1) : decodeByte (some pending) b =
      ([], some { needed := pending.needed - 1, bits := pending.bits * 0x40 + b % 0x40 }) := by
  rw [decodeByte, if_pos hb, if_neg hneeded]

/-- The byte that completes a sequence. -/
theorem decodeByte_last {pending : Pending} {b : ℕ} (hb : pending.lower ≤ b ∧ b ≤ pending.upper)
    (hneeded : pending.needed = 1) : decodeByte (some pending) b =
      ([Char.ofNat (pending.bits * 0x40 + b % 0x40)], none) := by
  rw [decodeByte, if_pos hb, if_pos hneeded]

theorem startByte_two {b : ℕ} (h : 0xC2 ≤ b ∧ b ≤ 0xDF) :
    startByte b = ([], some { needed := 1, bits := b % 0x20 }) := by
  rw [startByte, if_neg (by omega), if_pos h]

theorem startByte_three {b : ℕ} (h : 0xE0 ≤ b ∧ b ≤ 0xEF) :
    startByte b = ([], some
      { needed := 2
        bits := b % 0x10
        lower := if b = 0xE0 then 0xA0 else 0x80
        upper := if b = 0xED then 0x9F else 0xBF }) := by
  rw [startByte, if_neg (by omega), if_neg (by omega), if_pos h]

theorem startByte_four {b : ℕ} (h : 0xF0 ≤ b ∧ b ≤ 0xF4) :
    startByte b = ([], some
      { needed := 3
        bits := b % 0x8
        lower := if b = 0xF0 then 0x90 else 0x80
        upper := if b = 0xF4 then 0x8F else 0xBF }) := by
  rw [startByte, if_neg (by omega), if_neg (by omega), if_neg (by omega), if_pos h]

/-- The bytes of a character. -/
theorem utf8_eq (c : Char) : utf8 c =
    if c.toNat ≤ 0x7F then [c.toNat]
    else if c.toNat ≤ 0x7FF then [c.toNat / 64 % 32 + 0xC0, c.toNat % 64 + 0x80]
    else if c.toNat ≤ 0xFFFF then
      [c.toNat / 4096 % 16 + 0xE0, c.toNat / 64 % 64 + 0x80, c.toNat % 64 + 0x80]
    else [c.toNat / 262144 % 8 + 0xF0, c.toNat / 4096 % 64 + 0x80, c.toNat / 64 % 64 + 0x80,
      c.toNat % 64 + 0x80] := by
  have hval : c.val.toNat = c.toNat := rfl
  have hmod : ∀ n, n < 256 → n % 2 ^ 8 = n := fun n hn => Nat.mod_eq_of_lt hn
  simp only [utf8, String.utf8EncodeChar, hval]
  split_ifs <;> simp only [List.map_cons, List.map_nil, UInt8.toNat_ofNat'] <;>
    simp (disch := omega) only [hmod]

theorem toNat_bounds (c : Char) :
    c.toNat < 0xD800 ∨ 0xDFFF < c.toNat ∧ c.toNat < 0x110000 := c.valid

/-- A character is decoded from the bytes that encode it. -/
theorem utf8DecodeFrom_utf8 (c : Char) (bytes : List ℕ) :
    utf8DecodeFrom none (utf8 c ++ bytes) = c :: utf8DecodeFrom none bytes := by
  have hbounds := toNat_bounds c
  have hchar : ∀ n, n = c.toNat → Char.ofNat n = c := by
    rintro n rfl
    exact Char.ofNat_toNat c
  rw [utf8_eq]
  split_ifs with h1 h2 h3
  · rw [List.singleton_append, utf8DecodeFrom_cons, decodeByte, startByte, if_pos h1, hchar _ rfl]
    rfl
  · simp only [List.cons_append, List.nil_append]
    rw [utf8DecodeFrom_cons, decodeByte, startByte_two (by omega), utf8DecodeFrom_cons,
      decodeByte_last (by dsimp only; omega) rfl, hchar _ (by dsimp only; omega)]
    rfl
  · simp only [List.cons_append, List.nil_append]
    rw [utf8DecodeFrom_cons, decodeByte, startByte_three (by omega), utf8DecodeFrom_cons,
      decodeByte_continue (by dsimp only; split_ifs <;> omega) (by simp), utf8DecodeFrom_cons,
      decodeByte_last (by dsimp only; omega) rfl, hchar _ (by dsimp only; omega)]
    rfl
  · simp only [List.cons_append, List.nil_append]
    rw [utf8DecodeFrom_cons, decodeByte, startByte_four (by omega), utf8DecodeFrom_cons,
      decodeByte_continue (by dsimp only; split_ifs <;> omega) (by simp), utf8DecodeFrom_cons,
      decodeByte_continue (by dsimp only; omega) (by simp), utf8DecodeFrom_cons,
      decodeByte_last (by dsimp only; omega) rfl, hchar _ (by dsimp only; omega)]
    rfl

theorem utf8_lt (c : Char) : ∀ b ∈ utf8 c, b < 256 := by
  intro b hb
  obtain ⟨u, -, rfl⟩ := List.mem_map.mp hb
  exact u.toNat_lt

theorem utf8_ne_nil (c : Char) : utf8 c ≠ [] := by
  rw [utf8_eq]
  split_ifs <;> simp

theorem startByte_waits {b : ℕ} (h : (startByte b).1 = []) : (startByte b).2 ≠ none := by
  revert h
  unfold startByte
  split_ifs <;> simp

/-- A byte that gives no character yet waits for another one. -/
theorem decodeByte_waits {pending : Option Pending} {b : ℕ} (h : (decodeByte pending b).1 = []) :
    (decodeByte pending b).2 ≠ none := by
  cases pending with
  | none => exact startByte_waits h
  | some p =>
    by_cases hb : p.lower ≤ b ∧ b ≤ p.upper
    · by_cases hneeded : p.needed = 1
      · rw [decodeByte_last hb hneeded] at h
        cases h
      · rw [decodeByte_continue hb hneeded]
        simp
    · rw [decodeByte, if_neg hb] at h
      cases h

/-- Something is read from every text. -/
theorem utf8DecodeFrom_eq_nil {pending : Option Pending} {bytes : List ℕ}
    (h : utf8DecodeFrom pending bytes = []) : pending = none ∧ bytes = [] := by
  induction bytes generalizing pending with
  | nil =>
    cases pending with
    | none => exact ⟨rfl, rfl⟩
    | some p => cases h
  | cons b bytes ih =>
    rw [utf8DecodeFrom_cons] at h
    obtain ⟨hout, hrest⟩ := List.append_eq_nil_iff.mp h
    exact absurd (ih hrest).1 (decodeByte_waits hout)

/-! ## Percent-encoding -/

theorem hexValue_hexDigit : ∀ n < 16, hexValue (hexDigit n) = some n := by decide

theorem hexDigit_ne_plus : ∀ n < 16, hexDigit n ≠ '+' := by decide

theorem percentDecode_percent {h l : Char} {high low : ℕ} (hh : hexValue h = some high)
    (hl : hexValue l = some low) (rest : List Char) :
    percentDecode ('%' :: h :: l :: rest) = (16 * high + low) :: percentDecode rest := by
  simp only [percentDecode, if_true, hh, hl]

theorem percentDecode_percentByte {b : ℕ} (hb : b < 256) (l : List Char) :
    percentDecode (percentByte b ++ l) = b :: percentDecode l := by
  have hhigh := hexValue_hexDigit (b / 16) (by omega)
  have hlow := hexValue_hexDigit (b % 16) (by omega)
  rw [percentByte, List.cons_append, List.cons_append, List.cons_append, List.nil_append,
    percentDecode_percent hhigh hlow]
  congr 1
  omega

theorem percentDecode_percentBytes {bytes : List ℕ} (h : ∀ b ∈ bytes, b < 256) (l : List Char) :
    percentDecode (bytes.flatMap percentByte ++ l) = bytes ++ percentDecode l := by
  induction bytes with
  | nil => rfl
  | cons b bytes ih =>
    rw [List.flatMap_cons, List.append_assoc, percentDecode_percentByte (h b List.mem_cons_self),
      ih fun b' hb' => h b' (List.mem_cons_of_mem _ hb')]
    rfl

theorem percentDecode_cons {c : Char} (hc : c ≠ '%') (l : List Char) :
    percentDecode (c :: l) = utf8 c ++ percentDecode l := by
  cases l with
  | nil => rfl
  | cons h l =>
    cases l with
    | nil => rfl
    | cons low l => simp only [percentDecode, if_neg hc]

/-- The text starts with two hexadecimal digits. -/
def StartsHex (l : List Char) : Prop :=
  ∃ h d rest, l = h :: d :: rest ∧ hexValue h ≠ none ∧ hexValue d ≠ none

/-- A percent sign that no two digits follow stands for itself. -/
theorem percentDecode_percent_alone {l : List Char} (hl : ¬StartsHex l) :
    percentDecode ('%' :: l) = utf8 '%' ++ percentDecode l := by
  cases l with
  | nil => rfl
  | cons h l =>
    cases l with
    | nil => rfl
    | cons d rest =>
      cases hh : hexValue h with
      | none => simp only [percentDecode, if_true, hh]
      | some high =>
        cases hd : hexValue d with
        | none => simp only [percentDecode, if_true, hh, hd]
        | some low => exact absurd ⟨h, d, rest, rfl, by simp [hh], by simp [hd]⟩ hl

theorem percentDecode_eq_nil {l : List Char} (h : percentDecode l = []) : l = [] := by
  unfold percentDecode at h
  split at h
  · rfl
  · split at h
    · cases h
    · exact absurd (List.append_eq_nil_iff.mp h).1 (utf8_ne_nil _)
  · exact absurd (List.append_eq_nil_iff.mp h).1 (utf8_ne_nil _)

/-! ## Forms -/

/-- A plus sign stands for a space. -/
def plusToSpace (c : Char) : Char := if c = '+' then ' ' else c

theorem formDecode_eq (l : List Char) :
    formDecode l = utf8Decode (percentDecode (l.map plusToSpace)) := rfl

theorem formDecode_ne_nil {l : List Char} (h : l ≠ []) : formDecode l ≠ [] := by
  intro hnil
  rw [formDecode_eq] at hnil
  exact h (List.map_eq_nil_iff.mp (percentDecode_eq_nil (utf8DecodeFrom_eq_nil hnil).2))

theorem plusToSpace_ne_percent {c : Char} (hc : c ≠ '%') : plusToSpace c ≠ '%' := by
  unfold plusToSpace
  split_ifs
  · decide
  · exact hc

theorem map_plusToSpace_percentByte {b : ℕ} (hb : b < 256) :
    (percentByte b).map plusToSpace = percentByte b := by
  have hdigit : ∀ n < 16, plusToSpace (hexDigit n) = hexDigit n :=
    fun n hn => if_neg (hexDigit_ne_plus n hn)
  rw [percentByte, List.map_cons, List.map_cons, List.map_cons, List.map_nil,
    hdigit _ (by omega), hdigit _ (by omega)]
  rfl

theorem map_plusToSpace_percentBytes {bytes : List ℕ} (h : ∀ b ∈ bytes, b < 256) :
    (bytes.flatMap percentByte).map plusToSpace = bytes.flatMap percentByte := by
  induction bytes with
  | nil => rfl
  | cons b bytes ih =>
    rw [List.flatMap_cons, List.map_append, map_plusToSpace_percentByte (h b List.mem_cons_self),
      ih fun b' hb' => h b' (List.mem_cons_of_mem _ hb')]

/-- A character in percent-encoding is read back. -/
theorem formDecode_percentBytes (c : Char) (l : List Char) :
    formDecode ((utf8 c).flatMap percentByte ++ l) = c :: formDecode l := by
  rw [formDecode_eq, List.map_append, map_plusToSpace_percentBytes (utf8_lt c),
    percentDecode_percentBytes (utf8_lt c), utf8Decode, utf8DecodeFrom_utf8]
  rfl

/-- A character other than the percent sign is read as it is, or as a space. -/
theorem formDecode_cons {c : Char} (hc : c ≠ '%') (l : List Char) :
    formDecode (c :: l) = plusToSpace c :: formDecode l := by
  rw [formDecode_eq, List.map_cons, percentDecode_cons (plusToSpace_ne_percent hc), utf8Decode,
    utf8DecodeFrom_utf8]
  rfl

/-- What is read back character by character is read back as a whole. -/
theorem formDecode_flatMap {encode : Char → List Char} {f : Char → Char} {l : List Char}
    (h : ∀ c ∈ l, ∀ rest, formDecode (encode c ++ rest) = f c :: formDecode rest) :
    formDecode (l.flatMap encode) = l.map f := by
  induction l with
  | nil => rfl
  | cons c l ih =>
    rw [List.flatMap_cons, h c List.mem_cons_self,
      ih fun d hd => h d (List.mem_cons_of_mem _ hd), List.map_cons]

/-! ## Percent-encoding is transparent -/

theorem not_hex_percent : hexValue '%' = none := by decide

/-- The characters of the set mean nothing to the form decoder. -/
structure Transparent (inSet : Char → Bool) : Prop where
  percent : inSet '%' = false
  plus : inSet '+' = false
  hex : ∀ c, hexValue c ≠ none → inSet c = false

/-- Percent-encoding does not produce digits where there were none. -/
theorem startsHex_of_encoded {inSet : Char → Bool} {l : List Char}
    (h : StartsHex ((percentEncode inSet l).map plusToSpace)) : StartsHex (l.map plusToSpace) := by
  have hsame : ∀ {c : Char} {l l' : List Char} {d : Char}, hexValue d ≠ none →
      (percentEncode inSet (c :: l)).map plusToSpace = d :: l' →
      plusToSpace c = d ∧ (percentEncode inSet l).map plusToSpace = l' := by
    intro c l l' d hd heq
    rw [percentEncode, List.flatMap_cons] at heq
    by_cases hc : inSet c = true
    · rw [if_pos hc, List.map_append, map_plusToSpace_percentBytes (utf8_lt c)] at heq
      obtain ⟨b, bytes, hb⟩ := List.exists_cons_of_ne_nil (utf8_ne_nil c)
      rw [hb, List.flatMap_cons, percentByte] at heq
      injection heq with hd'
      exact absurd (hd' ▸ not_hex_percent) hd
    · rw [if_neg hc, List.singleton_append, List.map_cons] at heq
      injection heq with hhead htail
      exact ⟨hhead, htail⟩
  obtain ⟨a, b, rest, heq, ha, hb⟩ := h
  cases l with
  | nil => cases heq
  | cons c l =>
    obtain ⟨hca, heq'⟩ := hsame ha heq
    cases l with
    | nil => cases heq'
    | cons d l =>
      obtain ⟨hdb, -⟩ := hsame hb heq'
      exact ⟨a, b, l.map plusToSpace, by rw [List.map_cons, List.map_cons, hca, hdb], ha, hb⟩

/-- A hexadecimal digit is neither changed nor encoded. -/
theorem hex_of_plusToSpace {c : Char} (h : hexValue (plusToSpace c) ≠ none) :
    plusToSpace c = c ∧ hexValue c ≠ none := by
  by_cases hc : c = '+'
  · rw [hc] at h
    exact absurd (by decide) h
  · have heq : plusToSpace c = c := if_neg hc
    rw [heq] at h
    exact ⟨heq, h⟩

/-- A character that is spared. -/
theorem percentEncode_of_spared {inSet : Char → Bool} {c : Char} (hc : inSet c = false)
    (l : List Char) : (percentEncode inSet (c :: l)).map plusToSpace =
      plusToSpace c :: (percentEncode inSet l).map plusToSpace := by
  rw [percentEncode, List.flatMap_cons, if_neg (by simp [hc]), List.singleton_append,
    List.map_cons]
  rfl

/-- A character that is encoded is read as it was. -/
theorem percentDecode_of_encoded {inSet : Char → Bool} (hset : Transparent inSet) {c : Char}
    (hc : inSet c = true) {l : List Char}
    (hrest : percentDecode ((percentEncode inSet l).map plusToSpace) =
      percentDecode (l.map plusToSpace)) :
    percentDecode ((percentEncode inSet (c :: l)).map plusToSpace) =
      percentDecode ((c :: l).map plusToSpace) := by
  have hpercent : c ≠ '%' := by
    rintro rfl
    rw [hset.percent] at hc
    cases hc
  have hplus : plusToSpace c = c := by
    refine if_neg ?_
    rintro rfl
    rw [hset.plus] at hc
    cases hc
  rw [percentEncode, List.flatMap_cons, if_pos hc, List.map_append,
    map_plusToSpace_percentBytes (utf8_lt c), percentDecode_percentBytes (utf8_lt c),
    List.map_cons, hplus, percentDecode_cons hpercent]
  rw [percentEncode] at hrest
  rw [hrest]

/-- Two digits are spared. -/
theorem exists_digits {inSet : Char → Bool} (hset : Transparent inSet) {l : List Char}
    (h : StartsHex (l.map plusToSpace)) :
    ∃ d e l' high low, l = d :: e :: l' ∧ hexValue (plusToSpace d) = some high ∧
      hexValue (plusToSpace e) = some low ∧ inSet d = false ∧ inSet e = false := by
  obtain ⟨a, b, rest, heq, ha, hb⟩ := h
  cases l with
  | nil => cases heq
  | cons d l =>
    cases l with
    | nil => cases heq
    | cons e l =>
      injection heq with hda heq
      injection heq with heb _
      rw [← hda] at ha
      rw [← heb] at hb
      obtain ⟨high, hhigh⟩ := Option.ne_none_iff_exists'.mp ha
      obtain ⟨low, hlow⟩ := Option.ne_none_iff_exists'.mp hb
      exact ⟨d, e, l, high, low, rfl, hhigh, hlow, hset.hex d (hex_of_plusToSpace ha).2,
        hset.hex e (hex_of_plusToSpace hb).2⟩

theorem percentDecode_percentEncode {inSet : Char → Bool} (hset : Transparent inSet)
    (l : List Char) : percentDecode ((percentEncode inSet l).map plusToSpace) =
      percentDecode (l.map plusToSpace) := by
  induction hn : l.length using Nat.strongRecOn generalizing l with
  | _ n ih =>
    cases l with
    | nil => rfl
    | cons c l =>
      have hrest : percentDecode ((percentEncode inSet l).map plusToSpace) =
          percentDecode (l.map plusToSpace) :=
        ih l.length (by rw [← hn]; simp) l rfl
      by_cases hc : inSet c = true
      · exact percentDecode_of_encoded hset hc hrest
      · rw [Bool.not_eq_true] at hc
        rw [percentEncode_of_spared hc l, List.map_cons]
        by_cases hpercent : c = '%'
        · subst hpercent
          have hsame : plusToSpace '%' = '%' := by decide
          rw [hsame]
          by_cases hhex : StartsHex (l.map plusToSpace)
          · -- Both digits are spared, and the rest is shorter.
            obtain ⟨d, e, l', high, low, rfl, hhigh, hlow, hd, he⟩ := exists_digits hset hhex
            have hshorter := ih l'.length (by rw [← hn]; simp only [List.length_cons]; omega) l' rfl
            rw [percentEncode_of_spared hd, percentEncode_of_spared he, List.map_cons,
              List.map_cons, percentDecode_percent hhigh hlow, percentDecode_percent hhigh hlow,
              hshorter]
          · rw [percentDecode_percent_alone hhex,
              percentDecode_percent_alone fun h => hhex (startsHex_of_encoded h), hrest]
        · rw [percentDecode_cons (plusToSpace_ne_percent hpercent),
            percentDecode_cons (plusToSpace_ne_percent hpercent), hrest]

/-- What a browser encodes in a query is read as if it had not. -/
theorem formDecode_percentEncode {inSet : Char → Bool} (hset : Transparent inSet)
    (l : List Char) : formDecode (percentEncode inSet l) = formDecode l := by
  rw [formDecode_eq, formDecode_eq, percentDecode_percentEncode hset]

/-! ## Pairs -/

theorem formPair_eq {name value : List Char} (hname : '=' ∉ name) :
    formPair (name ++ '=' :: value) =
      (String.ofList (formDecode name), String.ofList (formDecode value)) := by
  have hne : ∀ c ∈ name, decide (c ≠ '=') = true := by
    intro c hc
    simpa using fun heq : c = '=' => hname (heq ▸ hc)
  have htake : (name ++ '=' :: value).takeWhile (· ≠ '=') = name := by
    rw [List.takeWhile_append_of_pos hne, List.takeWhile_cons_of_neg (by simp), List.append_nil]
  have hdrop : (name ++ '=' :: value).dropWhile (· ≠ '=') = '=' :: value := by
    rw [List.dropWhile_append_of_pos hne, List.dropWhile_cons_of_neg (by simp)]
  rw [formPair, htake, hdrop]
  rfl

theorem formParse_single {l : List Char} (hne : l ≠ []) (hl : '&' ∉ l) :
    formParse l = [formPair l] := by
  rw [formParse, List.splitOn_eq_singleton hl, List.filter_cons_of_pos (by simpa using hne)]
  rfl

theorem formParse_append {l rest : List Char} (hne : l ≠ []) (hl : '&' ∉ l) :
    formParse (l ++ '&' :: rest) = formPair l :: formParse rest := by
  rw [formParse, List.splitOn_append_cons_self_of_not_mem hl,
    List.filter_cons_of_pos (by simpa using hne)]
  rfl

end UrlEncoding

/-! ## The encoders of JavaScript -/

namespace Js

open UrlEncoding

theorem isAlphanum_hexDigit : ∀ n < 16, (hexDigit n).isAlphanum = true := by decide

theorem mem_percentByte {b : ℕ} (hb : b < 256) {c : Char} (hc : c ∈ percentByte b) :
    c = '%' ∨ c.isAlphanum = true := by
  rcases List.mem_cons.mp hc with rfl | hc
  · exact Or.inl rfl
  · rcases List.mem_cons.mp hc with rfl | hc
    · exact Or.inr (isAlphanum_hexDigit _ (by omega))
    · rw [List.mem_singleton.mp hc]
      exact Or.inr (isAlphanum_hexDigit _ (by omega))

/-- `encodeURIComponent` is undone by the form decoder. -/
theorem formDecode_encodeURIComponent (s : String) :
    formDecode (encodeURIComponent s).toList = s.toList := by
  have hspared : ∀ c, isUriUnreserved c = true → c ≠ '%' ∧ plusToSpace c = c := by
    intro c hc
    refine ⟨?_, if_neg ?_⟩
    · rintro rfl
      revert hc
      decide
    · rintro rfl
      revert hc
      decide
  rw [encodeURIComponent, String.toList_ofList, percentEncode,
    formDecode_flatMap (f := id) fun c _ rest => ?_, List.map_id]
  by_cases hc : isUriUnreserved c = true
  · obtain ⟨hpercent, hplus⟩ := hspared c hc
    rw [if_neg (by simp [hc]), List.singleton_append, formDecode_cons hpercent, hplus]
    rfl
  · rw [if_pos (by simpa using hc), formDecode_percentBytes]
    rfl

/-- `escape` leaves plus signs, which the form decoder reads as spaces. -/
theorem formDecode_escape {s : String} (hascii : ∀ c ∈ s.toList, c.toNat < 128) :
    formDecode (escape s).toList = s.toList.map plusToSpace := by
  rw [escape, String.toList_ofList, formDecode_flatMap fun c hc rest => ?_]
  have hlt := hascii c hc
  by_cases hsafe : isEscapeSafe c = true
  · have hpercent : c ≠ '%' := by
      rintro rfl
      revert hsafe
      decide
    rw [if_pos hsafe, List.singleton_append, formDecode_cons hpercent]
  · have hplus : plusToSpace c = c := by
      refine if_neg ?_
      rintro rfl
      exact hsafe (by decide)
    have hbytes : (utf16 c).flatMap escapeUnit = (utf8 c).flatMap percentByte := by
      rw [utf16, if_pos (by omega), utf8_eq, if_pos (by omega), List.flatMap_cons,
        List.flatMap_cons, escapeUnit, if_pos (by omega)]
      rfl
    rw [if_neg hsafe, hbytes, formDecode_percentBytes, hplus]

/-! ### What `escape` loses

A byte above `0x7F` that `escape` writes stands for a character of Latin-1. The decoder makes a
replacement character of one such byte, or another character of two. So what it reads has less than
what was written, and a text that starts like it has none of them.
-/

/-- How many bytes above `0x7F` the decoder has read for a character, at least. -/
def weight (c : Char) : ℕ := if c.toNat < 128 then 0 else if c = replacementCharacter then 1 else 2

def weights (l : List Char) : ℕ := (l.map weight).sum

theorem weights_append (l l' : List Char) : weights (l ++ l') = weights l + weights l' := by
  rw [weights, List.map_append, List.sum_append]
  rfl

theorem weight_le (c : Char) : weight c ≤ 2 := by
  unfold weight
  split_ifs <;> omega

def highBytes (bytes : List ℕ) : ℕ := bytes.countP (128 ≤ ·)

/-- A sequence that is not complete has had its first byte, and continues with a byte above `0x7F`. -/
def credit (pending : Option Pending) : ℕ := if pending.isSome then 1 else 0

def Continues (pending : Option Pending) : Prop := ∀ p ∈ pending, 0x80 ≤ p.lower

theorem startByte_weight (b : ℕ) : Continues (startByte b).2 ∧
    weights (startByte b).1 + credit (startByte b).2 ≤ highBytes [b] := by
  have hhigh : ∀ {n : ℕ}, 0x80 ≤ n → highBytes [n] = 1 := fun h => by simp [highBytes, h]
  have hascii : ∀ n < 128, weight (Char.ofNat n) = 0 := by decide
  by_cases h1 : b ≤ 0x7F
  · rw [startByte, if_pos h1]
    refine ⟨nofun, ?_⟩
    simp [weights, credit, hascii b (by omega)]
  rw [hhigh (by omega)]
  by_cases h2 : 0xC2 ≤ b ∧ b ≤ 0xDF
  · rw [startByte_two h2]
    refine ⟨fun p hp => ?_, Nat.le_refl _⟩
    obtain rfl := Option.some.inj hp
    exact Nat.le_refl _
  by_cases h3 : 0xE0 ≤ b ∧ b ≤ 0xEF
  · rw [startByte_three h3]
    refine ⟨fun p hp => ?_, Nat.le_refl _⟩
    obtain rfl := Option.some.inj hp
    dsimp only
    split_ifs <;> omega
  by_cases h4 : 0xF0 ≤ b ∧ b ≤ 0xF4
  · rw [startByte_four h4]
    refine ⟨fun p hp => ?_, Nat.le_refl _⟩
    obtain rfl := Option.some.inj hp
    dsimp only
    split_ifs <;> omega
  rw [startByte, if_neg h1, if_neg h2, if_neg h3, if_neg h4]
  exact ⟨nofun, by decide⟩

theorem decodeByte_weight {pending : Option Pending} (h : Continues pending) (b : ℕ) :
    Continues (decodeByte pending b).2 ∧
      weights (decodeByte pending b).1 + credit (decodeByte pending b).2 ≤
        highBytes [b] + credit pending := by
  obtain ⟨hstart, hweight⟩ := startByte_weight b
  cases pending with
  | none => exact ⟨hstart, hweight⟩
  | some p =>
    have hlower := h p rfl
    by_cases hb : p.lower ≤ b ∧ b ≤ p.upper
    · have hhigh : highBytes [b] = 1 := by
        simp [highBytes, show 128 ≤ b by omega]
      by_cases hneeded : p.needed = 1
      · rw [decodeByte_last hb hneeded, hhigh]
        refine ⟨nofun, ?_⟩
        have hle := weight_le (Char.ofNat (p.bits * 0x40 + b % 0x40))
        simpa [weights, credit] using hle
      · rw [decodeByte_continue hb hneeded, hhigh]
        refine ⟨fun p' hp' => ?_, ?_⟩
        · obtain rfl := Option.some.inj hp'
          exact Nat.le_refl _
        · simp [weights, credit]
    · rw [decodeByte, if_neg hb]
      refine ⟨hstart, ?_⟩
      have hreplaced : weights (replacementCharacter :: (startByte b).1) =
          1 + weights (startByte b).1 := weights_append [replacementCharacter] _
      dsimp only
      rw [hreplaced]
      simp only [credit, Option.isSome_some, if_true] at hweight ⊢
      omega

theorem weights_utf8DecodeFrom {pending : Option Pending} (h : Continues pending)
    (bytes : List ℕ) :
    weights (utf8DecodeFrom pending bytes) ≤ highBytes bytes + credit pending := by
  induction bytes generalizing pending with
  | nil =>
    cases pending with
    | none => exact Nat.zero_le _
    | some p => exact Nat.le_of_eq (by decide : weights [replacementCharacter] = 1)
  | cons b bytes ih =>
    obtain ⟨hnext, hweight⟩ := decodeByte_weight h b
    have hsplit : highBytes (b :: bytes) = highBytes [b] + highBytes bytes :=
      @List.countP_append ℕ (128 ≤ ·) [b] bytes
    rw [utf8DecodeFrom_cons, weights_append, hsplit]
    have hrest := ih hnext
    omega

/-- Characters that stand for themselves and are ASCII. -/
theorem highBytes_of_plain {l : List Char} (h : ∀ c ∈ l, c.toNat < 128 ∧ c ≠ '%')
    (rest : List Char) : highBytes (percentDecode (l ++ rest)) = highBytes (percentDecode rest) := by
  induction l with
  | nil => rfl
  | cons c l ih =>
    obtain ⟨hlt, hpercent⟩ := h c List.mem_cons_self
    rw [List.cons_append, percentDecode_cons hpercent, utf8_eq, if_pos (by omega), highBytes,
      List.countP_append, List.countP_cons_of_neg (by simpa using hlt), List.countP_nil, Nat.zero_add]
    exact ih fun d hd => h d (List.mem_cons_of_mem _ hd)

/-- What `escape` writes for a character. -/
def escapeChar (c : Char) : List Char :=
  if isEscapeSafe c then [c] else (utf16 c).flatMap escapeUnit

def isLatin1High (c : Char) : Bool := decide (128 ≤ c.toNat) && decide (c.toNat < 256)

/-- A code unit that does not fit in a byte becomes ASCII text. -/
theorem highBytes_wideUnit {n : ℕ} (hwide : 256 ≤ n) (hn : n < 65536) (rest : List Char) :
    highBytes (percentDecode ((escapeUnit n).map plusToSpace ++ rest)) =
      highBytes (percentDecode rest) := by
  have hdigit : ∀ n < 16, (hexDigit n).toNat < 128 ∧ hexDigit n ≠ '%' ∧
      plusToSpace (hexDigit n) = hexDigit n := by decide
  have hplain : ∀ c ∈ ['u', hexDigit (n / 4096), hexDigit (n / 256 % 16), hexDigit (n / 16 % 16),
      hexDigit (n % 16)], c.toNat < 128 ∧ c ≠ '%' ∧ plusToSpace c = c := by
    simp only [List.forall_mem_cons, List.not_mem_nil, false_implies, implies_true, and_true]
    exact ⟨by decide, hdigit _ (by omega), hdigit _ (by omega), hdigit _ (by omega),
      hdigit _ (by omega)⟩
  have hmap : (escapeUnit n).map plusToSpace = '%' :: ['u', hexDigit (n / 4096),
      hexDigit (n / 256 % 16), hexDigit (n / 16 % 16), hexDigit (n % 16)] := by
    rw [escapeUnit, if_neg (by omega), List.map_cons]
    exact congrArg ('%' :: ·)
      ((List.map_congr_left fun c hc => (hplain c hc).2.2).trans (List.map_id _))
  have hnotHex : ¬StartsHex (['u', hexDigit (n / 4096), hexDigit (n / 256 % 16),
      hexDigit (n / 16 % 16), hexDigit (n % 16)] ++ rest) := by
    rintro ⟨h, d, l, heq, hh, -⟩
    injection heq with hu
    rw [← hu] at hh
    exact hh (by decide)
  have hpercent : highBytes (utf8 '%') = 0 := by decide
  rw [hmap, List.cons_append, percentDecode_percent_alone hnotHex, highBytes, List.countP_append,
    ← highBytes, ← highBytes, hpercent, Nat.zero_add]
  exact highBytes_of_plain (fun c hc => ⟨(hplain c hc).1, (hplain c hc).2.1⟩) rest

theorem highBytes_escapeChar (c : Char) (rest : List Char) :
    highBytes (percentDecode ((escapeChar c).map plusToSpace ++ rest)) =
      (if isLatin1High c then 1 else 0) + highBytes (percentDecode rest) := by
  have hbounds := toNat_bounds c
  unfold escapeChar
  by_cases hsafe : isEscapeSafe c = true
  · have hascii : (plusToSpace c).toNat < 128 ∧ plusToSpace c ≠ '%' ∧ isLatin1High c = false := by
      have hlt : c.toNat < 128 := by
        simp only [isEscapeSafe, Bool.or_eq_true, decide_eq_true_eq] at hsafe
        rcases hsafe with ((((((h | rfl) | rfl) | rfl) | rfl) | rfl) | rfl) | rfl
        · exact isAlphanum_lt h
        all_goals decide
      have hall : ∀ n < 128, isEscapeSafe (Char.ofNat n) = true →
          (plusToSpace (Char.ofNat n)).toNat < 128 ∧ plusToSpace (Char.ofNat n) ≠ '%' ∧
            isLatin1High (Char.ofNat n) = false := by decide
      have hself := hall c.toNat hlt
      rw [Char.ofNat_toNat] at hself
      exact hself hsafe
    rw [if_pos hsafe, List.map_singleton, hascii.2.2, if_neg Bool.false_ne_true, Nat.zero_add]
    exact highBytes_of_plain (by simpa using ⟨hascii.1, hascii.2.1⟩) rest
  · rw [if_neg hsafe]
    by_cases hnarrow : c.toNat < 256
    · have hunit : (utf16 c).flatMap escapeUnit = percentByte c.toNat := by
        rw [utf16, if_pos (by omega), List.flatMap_cons, escapeUnit, if_pos hnarrow]
        exact List.append_nil _
      rw [hunit, map_plusToSpace_percentByte hnarrow, percentDecode_percentByte hnarrow, highBytes,
        List.countP_cons, ← highBytes, Nat.add_comm]
      by_cases hhigh : 128 ≤ c.toNat
      · simp [isLatin1High, hhigh, hnarrow]
      · simp [isLatin1High, hhigh]
    · have hwide : isLatin1High c = false := by simp [isLatin1High, hnarrow]
      rw [hwide, if_neg Bool.false_ne_true, Nat.zero_add, utf16]
      split_ifs with hsmall
      · rw [List.flatMap_cons, List.flatMap_nil, List.append_nil]
        exact highBytes_wideUnit (by omega) (by omega) rest
      · rw [List.flatMap_cons, List.flatMap_cons, List.flatMap_nil, List.append_nil, List.map_append,
          List.append_assoc, highBytes_wideUnit (by omega) (by omega)]
        exact highBytes_wideUnit (by omega) (by omega) rest

theorem highBytes_escape (l : List Char) :
    highBytes (percentDecode ((l.flatMap escapeChar).map plusToSpace)) = l.countP isLatin1High := by
  induction l with
  | nil => rfl
  | cons c l ih =>
    rw [List.flatMap_cons, List.map_append, highBytes_escapeChar, ih, List.countP_cons, Nat.add_comm]

theorem two_mul_countP_le_weights (l : List Char) : 2 * l.countP isLatin1High ≤ weights l := by
  induction l with
  | nil => exact Nat.le_refl _
  | cons c l ih =>
    have hsplit : weights (c :: l) = weight c + weights l := rfl
    rw [List.countP_cons, hsplit]
    by_cases hc : isLatin1High c = true
    · have hweight : weight c = 2 := by
        simp only [isLatin1High, Bool.and_eq_true, decide_eq_true_eq] at hc
        have hne : c ≠ replacementCharacter := by
          rintro rfl
          exact absurd hc.2 (by decide)
        rw [weight, if_neg (by omega), if_neg hne]
      rw [if_pos hc, hweight]
      omega
    · rw [if_neg hc]
      omega

theorem ascii_of_weights {l : List Char} (h : weights l = 0) : ∀ c ∈ l, c.toNat < 128 := by
  induction l with
  | nil => exact List.forall_mem_nil _
  | cons c l ih =>
    have hsplit : weights (c :: l) = weight c + weights l := rfl
    have hweight : weight c = 0 := by omega
    refine List.forall_mem_cons.mpr ⟨?_, ih (by omega)⟩
    unfold weight at hweight
    split_ifs at hweight with hlt
    exact hlt

theorem escape_ne_nil {s : String} (h : s ≠ "") : (escape s).toList ≠ [] := by
  have hwritten : (escape s).toList = s.toList.flatMap escapeChar := String.toList_ofList
  obtain ⟨c, l, hs⟩ := List.exists_cons_of_ne_nil fun hnil => h (String.toList_inj.mp hnil)
  rw [hwritten, hs, List.flatMap_cons]
  have hunit : ∀ n, escapeUnit n ≠ [] := by
    intro n
    unfold escapeUnit percentByte
    split_ifs <;> simp
  refine List.append_ne_nil_of_left_ne_nil ?_ _
  unfold escapeChar utf16
  split_ifs
  · simp
  · exact List.append_ne_nil_of_left_ne_nil (hunit _) _
  · exact List.append_ne_nil_of_left_ne_nil (hunit _) _

/-- What starts a text, and also what is read back of the text, is ASCII without plus signs, if the
rest of the text is ASCII. -/
theorem plain_of_prefix_escape {start rest : List Char} (hrest : ∀ c ∈ rest, c.toNat < 128)
    (h : start <+: formDecode (escape (String.ofList (start ++ rest))).toList) :
    ∀ c ∈ start, c.toNat < 128 ∧ c ≠ '+' := by
  have hwritten : (escape (String.ofList (start ++ rest))).toList =
      (start ++ rest).flatMap escapeChar := by
    rw [escape, String.toList_ofList, String.toList_ofList]
    rfl
  have hlatin : rest.countP isLatin1High = 0 := by
    rw [List.countP_eq_zero]
    intro c hc
    have hlt := hrest c hc
    simp only [isLatin1High, Bool.and_eq_true, decide_eq_true_eq, not_and]
    omega
  have hread : weights (formDecode (escape (String.ofList (start ++ rest))).toList) ≤
      start.countP isLatin1High := by
    have hle := @weights_utf8DecodeFrom none nofun
      (percentDecode (((start ++ rest).flatMap escapeChar).map plusToSpace))
    rw [highBytes_escape, List.countP_append, hlatin] at hle
    rw [hwritten, formDecode_eq]
    exact hle
  have hstart : weights start ≤ start.countP isLatin1High := by
    obtain ⟨tail, htail⟩ := h
    rw [← htail, weights_append] at hread
    omega
  have hascii := ascii_of_weights (l := start) (by
    have htwice := two_mul_countP_le_weights start
    omega)
  intro c hc
  refine ⟨hascii c hc, ?_⟩
  rintro rfl
  have hchars : ∀ c ∈ (String.ofList (start ++ rest)).toList, c.toNat < 128 := by
    rw [String.toList_ofList]
    exact fun c hc => (List.mem_append.mp hc).elim (hascii c) (hrest c)
  rw [formDecode_escape hchars, String.toList_ofList] at h
  obtain ⟨d, -, hd⟩ := List.mem_map.mp (h.subset hc)
  unfold plusToSpace at hd
  split_ifs at hd with heq
  · exact absurd hd (by decide)
  · exact heq hd

/-! ### Their alphabets -/

theorem mem_encodeURIComponent {s : String} :
    ∀ c ∈ (encodeURIComponent s).toList, c = '%' ∨ isUriUnreserved c = true := by
  intro c hc
  rw [encodeURIComponent, String.toList_ofList, percentEncode] at hc
  obtain ⟨d, -, hd⟩ := List.mem_flatMap.mp hc
  by_cases hset : isUriUnreserved d = true
  · rw [if_neg (by simp [hset]), List.mem_singleton] at hd
    exact Or.inr (hd ▸ hset)
  · rw [if_pos (by simpa using hset)] at hd
    obtain ⟨b, hb, hcb⟩ := List.mem_flatMap.mp hd
    rcases mem_percentByte (utf8_lt d b hb) hcb with hpercent | hdigit
    · exact Or.inl hpercent
    · exact Or.inr (by simp [isUriUnreserved, hdigit])

theorem utf16_lt (c : Char) : ∀ n ∈ utf16 c, n < 65536 := by
  have hbounds := toNat_bounds c
  intro n hn
  unfold utf16 at hn
  split_ifs at hn with hsmall
  · rw [List.mem_singleton.mp hn]
    omega
  · rcases List.mem_cons.mp hn with rfl | hn
    · omega
    · rw [List.mem_singleton.mp hn]
      omega

theorem mem_escapeUnit {n : ℕ} (hn : n < 65536) :
    ∀ c ∈ escapeUnit n, c = '%' ∨ c.isAlphanum = true := by
  intro c hc
  unfold escapeUnit at hc
  split_ifs at hc with hsmall
  · exact mem_percentByte hsmall hc
  · simp only [List.mem_cons, List.not_mem_nil, or_false] at hc
    rcases hc with rfl | rfl | rfl | rfl | rfl | rfl
    · exact Or.inl rfl
    · exact Or.inr (by decide)
    · exact Or.inr (isAlphanum_hexDigit _ (by omega))
    · exact Or.inr (isAlphanum_hexDigit _ (by omega))
    · exact Or.inr (isAlphanum_hexDigit _ (by omega))
    · exact Or.inr (isAlphanum_hexDigit _ (by omega))

theorem mem_escape {s : String} :
    ∀ c ∈ (escape s).toList, c = '%' ∨ isEscapeSafe c = true := by
  intro c hc
  rw [escape, String.toList_ofList] at hc
  obtain ⟨d, -, hd⟩ := List.mem_flatMap.mp hc
  by_cases hsafe : isEscapeSafe d = true
  · rw [if_pos hsafe, List.mem_singleton] at hd
    exact Or.inr (hd ▸ hsafe)
  · rw [if_neg hsafe] at hd
    obtain ⟨n, hn, hcn⟩ := List.mem_flatMap.mp hd
    rcases mem_escapeUnit (utf16_lt d n hn) c hcn with hpercent | hdigit
    · exact Or.inl hpercent
    · exact Or.inr (by simp [isEscapeSafe, hdigit])

end Js

/-! ## Forms are read as they were written -/

namespace UrlEncoding

/-- What the serializer of forms writes for a character. -/
def formEncodeChar (c : Char) : List Char :=
  if c = ' ' then ['+'] else if isFormSafe c then [c] else (utf8 c).flatMap percentByte

theorem mem_percentBytes {c d : Char} (hd : d ∈ (utf8 c).flatMap percentByte) :
    d = '%' ∨ d.isAlphanum = true := by
  obtain ⟨b, hb, hdb⟩ := List.mem_flatMap.mp hd
  exact Js.mem_percentByte (utf8_lt c b hb) hdb

theorem formEncode_eq (s : String) : formEncode s = s.toList.flatMap formEncodeChar := by
  rw [formEncode, percentEncode, List.map_flatMap]
  refine List.flatMap_congr fun c _ => ?_
  unfold formEncodeChar
  by_cases hspace : c = ' '
  · rw [hspace]
    rfl
  by_cases hsafe : isFormSafe c = true
  · rw [if_neg (by simp [hsafe]), if_neg hspace, if_pos hsafe, List.map_singleton, if_neg hspace]
  · rw [if_pos (by simp [hsafe, hspace]), if_neg hspace, if_neg hsafe]
    refine (List.map_congr_left fun d hd => ?_).trans (List.map_id _)
    refine if_neg ?_
    rintro rfl
    rcases mem_percentBytes hd with h | h
    · exact absurd h (by decide)
    · exact absurd h (by decide)

theorem mem_formEncode {s : String} {c : Char} (hc : c ∈ formEncode s) :
    c = '%' ∨ c = '+' ∨ isFormSafe c = true := by
  rw [formEncode_eq] at hc
  obtain ⟨d, -, hd⟩ := List.mem_flatMap.mp hc
  unfold formEncodeChar at hd
  split_ifs at hd with hspace hsafe
  · exact Or.inr (Or.inl (List.mem_singleton.mp hd))
  · rw [List.mem_singleton.mp hd]
    exact Or.inr (Or.inr hsafe)
  · rcases mem_percentBytes hd with h | h
    · exact Or.inl h
    · exact Or.inr (Or.inr (by simp [isFormSafe, h]))

theorem not_mem_formEncode {s : String} {c : Char} (hpercent : c ≠ '%') (hplus : c ≠ '+')
    (hcoded : isFormSafe c = false) : c ∉ formEncode s := by
  intro hc
  rcases mem_formEncode hc with h | h | h
  · exact hpercent h
  · exact hplus h
  · rw [hcoded] at h
    cases h

theorem formDecode_formEncode (s : String) : formDecode (formEncode s) = s.toList := by
  rw [formEncode_eq, formDecode_flatMap (f := id) fun c _ rest => ?_, List.map_id]
  unfold formEncodeChar
  by_cases hspace : c = ' '
  · rw [if_pos hspace, hspace, List.singleton_append, formDecode_cons (by decide)]
    rfl
  by_cases hsafe : isFormSafe c = true
  · have hpercent : c ≠ '%' := by
      rintro rfl
      revert hsafe
      decide
    have hplus : c ≠ '+' := by
      rintro rfl
      revert hsafe
      decide
    rw [if_neg hspace, if_pos hsafe, List.singleton_append, formDecode_cons hpercent, plusToSpace,
      if_neg hplus]
    rfl
  · rw [if_neg hspace, if_neg hsafe, formDecode_percentBytes]
    rfl

/-- A name and a value as the serializer writes them. -/
def formEntry (param : String × String) : List Char :=
  formEncode param.1 ++ '=' :: formEncode param.2

theorem formEntry_ne_nil (param : String × String) : formEntry param ≠ [] := by
  simp [formEntry]

theorem not_mem_formEntry {param : String × String} {c : Char} (hpercent : c ≠ '%') (hplus : c ≠ '+')
    (hequals : c ≠ '=') (hcoded : isFormSafe c = false) : c ∉ formEntry param := by
  intro hc
  rcases List.mem_append.mp hc with h | h
  · exact not_mem_formEncode hpercent hplus hcoded h
  · rcases List.mem_cons.mp h with h | h
    · exact hequals h
    · exact not_mem_formEncode hpercent hplus hcoded h

theorem formPair_formEntry (param : String × String) : formPair (formEntry param) = param := by
  have hname : '=' ∉ formEncode param.1 := not_mem_formEncode (by decide) (by decide) (by decide)
  rw [formEntry, formPair_eq hname, formDecode_formEncode, formDecode_formEncode,
    String.ofList_toList, String.ofList_toList]

theorem formSerialize_singleton (param : String × String) :
    formSerialize [param] = formEntry param := by
  simp [formSerialize, formEntry, List.intercalate]

theorem formSerialize_cons (param : String × String) {params : List (String × String)}
    (hne : params ≠ []) : formSerialize (param :: params) =
      formEntry param ++ '&' :: formSerialize params := by
  obtain ⟨second, rest, rfl⟩ := List.exists_cons_of_ne_nil hne
  rfl

theorem formParse_formSerialize (params : List (String × String)) :
    formParse (formSerialize params) = params := by
  have hand : ∀ param : String × String, '&' ∉ formEntry param := fun param =>
    not_mem_formEntry (by decide) (by decide) (by decide) (by decide)
  induction params with
  | nil => rfl
  | cons param params ih =>
    by_cases hne : params = []
    · rw [hne]
      rw [formSerialize_singleton, formParse_single (formEntry_ne_nil param) (hand param),
        formPair_formEntry]
    · rw [formSerialize_cons param hne, formParse_append (formEntry_ne_nil param) (hand param),
        formPair_formEntry, ih]

/-- No character of a serialized form ends the query of a URL. -/
theorem not_mem_formSerialize {params : List (String × String)} {c : Char} (hpercent : c ≠ '%')
    (hplus : c ≠ '+') (hequals : c ≠ '=') (hand : c ≠ '&') (hcoded : isFormSafe c = false) :
    c ∉ formSerialize params := by
  induction params with
  | nil => exact List.not_mem_nil
  | cons param params ih =>
    have hentry : c ∉ formEntry param := not_mem_formEntry hpercent hplus hequals hcoded
    by_cases hne : params = []
    · rw [hne, formSerialize_singleton]
      exact hentry
    · rw [formSerialize_cons param hne]
      intro hc
      rcases List.mem_append.mp hc with h | h
      · exact hentry h
      · rcases List.mem_cons.mp h with h | h
        · exact hand h
        · exact ih h

/-- The query in the text of a URL that is put together from its parts. -/
theorem queryText_eq {path query fragment : List Char} (hpath : ∀ c ∈ path, c ≠ '?' ∧ c ≠ '#')
    (hquery : '#' ∉ query) (hfragment : fragment = [] ∨ ∃ text, fragment = '#' :: text) :
    queryText (path ++ '?' :: query ++ fragment) = query := by
  have hbefore : ∀ c ∈ path ++ '?' :: query, decide (c ≠ '#') = true := by
    intro c hc
    refine decide_eq_true ?_
    rintro rfl
    rcases List.mem_append.mp hc with h | h
    · exact (hpath '#' h).2 rfl
    · rcases List.mem_cons.mp h with h | h
      · exact absurd h (by decide)
      · exact hquery h
  have htake : (path ++ '?' :: query ++ fragment).takeWhile (· ≠ '#') = path ++ '?' :: query := by
    rw [List.takeWhile_append_of_pos hbefore]
    rcases hfragment with rfl | ⟨text, rfl⟩
    · rw [List.takeWhile_nil, List.append_nil]
    · rw [List.takeWhile_cons_of_neg (by simp), List.append_nil]
  have hstart : ∀ c ∈ path, decide (c ≠ '?') = true := fun c hc => decide_eq_true (hpath c hc).1
  rw [queryText, htake, List.dropWhile_append_of_pos hstart, List.dropWhile_cons_of_neg (by simp)]
  rfl

end UrlEncoding
