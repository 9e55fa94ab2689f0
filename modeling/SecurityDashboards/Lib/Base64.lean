import Mathlib.Data.List.Basic
import Mathlib.Data.Nat.Notation

/-!
# Base64

The encoding of bytes with padding, and a decoder that takes the alphabet of URLs too and skips every
other character. A byte is a number below 256.
-/

namespace Base64

/-- The digit for a number below 64. -/
def digit (n : ℕ) : Char :=
  Char.ofNat (if n < 26 then 65 + n else if n < 52 then 71 + n else if n < 62 then n - 4
    else if n = 62 then 43 else 47)

def value (c : Char) : Option ℕ :=
  if 65 ≤ c.toNat ∧ c.toNat ≤ 90 then some (c.toNat - 65)
  else if 97 ≤ c.toNat ∧ c.toNat ≤ 122 then some (c.toNat - 71)
  else if 48 ≤ c.toNat ∧ c.toNat ≤ 57 then some (c.toNat + 4)
  else if c = '+' ∨ c = '-' then some 62
  else if c = '/' ∨ c = '_' then some 63
  else none

/-- Six bits for each digit, the last ones filled up with zeros. -/
def sextets : List ℕ → List ℕ
  | a :: b :: c :: rest =>
    a / 4 :: (a % 4 * 16 + b / 16) :: (b % 16 * 4 + c / 64) :: c % 64 :: sextets rest
  | [a, b] => [a / 4, a % 4 * 16 + b / 16, b % 16 * 4]
  | [a] => [a / 4, a % 4 * 16]
  | [] => []

/-- The bytes that are complete. -/
def bytesOf : List ℕ → List ℕ
  | a :: b :: c :: d :: rest =>
    (a * 4 + b / 16) :: (b % 16 * 16 + c / 4) :: (c % 4 * 64 + d) :: bytesOf rest
  | [a, b, c] => [a * 4 + b / 16, b % 16 * 16 + c / 4]
  | [a, b] => [a * 4 + b / 16]
  | _ => []

def encode (bytes : List ℕ) : List Char :=
  (sextets bytes).map digit ++ List.replicate ((3 - bytes.length % 3) % 3) '='

def decode (text : List Char) : List ℕ := bytesOf (text.filterMap value)

/-! ## Round trip -/

theorem value_digit : ∀ n < 64, value (digit n) = some n := by decide

theorem digit_lt : ∀ n < 64, (digit n).toNat < 128 := by decide

theorem sextets_lt {bytes : List ℕ} (h : ∀ b ∈ bytes, b < 256) : ∀ n ∈ sextets bytes, n < 64 := by
  induction bytes using sextets.induct with
  | case1 a b c rest ih =>
    simp only [List.forall_mem_cons] at h
    simp only [sextets, List.forall_mem_cons]
    exact ⟨by omega, by omega, by omega, by omega, ih h.2.2.2⟩
  | case2 a b =>
    simp only [List.forall_mem_cons] at h
    simp only [sextets, List.forall_mem_cons]
    exact ⟨by omega, by omega, by omega, by simp⟩
  | case3 a =>
    simp only [List.forall_mem_cons] at h
    simp only [sextets, List.forall_mem_cons]
    exact ⟨by omega, by omega, by simp⟩
  | case4 => simp [sextets]

theorem bytesOf_sextets {bytes : List ℕ} (h : ∀ b ∈ bytes, b < 256) :
    bytesOf (sextets bytes) = bytes := by
  induction bytes using sextets.induct with
  | case1 a b c rest ih =>
    simp only [List.forall_mem_cons] at h
    simp only [sextets, bytesOf, ih h.2.2.2, List.cons.injEq, and_true]
    exact ⟨by omega, by omega, by omega⟩
  | case2 a b =>
    simp only [List.forall_mem_cons] at h
    simp only [sextets, bytesOf, List.cons.injEq, and_true]
    exact ⟨by omega, by omega⟩
  | case3 a =>
    simp only [sextets, bytesOf, List.cons.injEq, and_true]
    omega
  | case4 => rfl

/-- The padding is skipped. -/
theorem filterMap_encode {bytes : List ℕ} (h : ∀ b ∈ bytes, b < 256) :
    (encode bytes).filterMap value = sextets bytes := by
  have hpadding : value '=' = none := by decide
  have hdigits : ∀ n ∈ sextets bytes, (value ∘ digit) n = some n :=
    fun n hn => value_digit n (sextets_lt h n hn)
  rw [encode, List.filterMap_append, List.filterMap_map, List.filterMap_congr hdigits,
    List.filterMap_some, List.filterMap_replicate_of_none hpadding, List.append_nil]

theorem decode_encode {bytes : List ℕ} (h : ∀ b ∈ bytes, b < 256) : decode (encode bytes) = bytes := by
  rw [decode, filterMap_encode h, bytesOf_sextets h]

/-- The text is ASCII. -/
theorem encode_lt {bytes : List ℕ} (h : ∀ b ∈ bytes, b < 256) : ∀ c ∈ encode bytes, c.toNat < 128 := by
  intro c hc
  rcases List.mem_append.mp hc with hdigit | hpadding
  · obtain ⟨n, hn, rfl⟩ := List.mem_map.mp hdigit
    exact digit_lt n (sextets_lt h n hn)
  · rw [List.eq_of_mem_replicate hpadding]
    decide

end Base64
