import Mathlib.Data.List.Basic

/-!
# Cutting a list into chunks

A list is cut into pieces of a fixed length. Pieces beyond its end are empty.
-/

namespace Chunks

variable {α : Type*}

/-- `l.substring(start, stop)` for `start ≤ stop`. -/
def substring (l : List α) (start stop : ℕ) : List α := (l.drop start).take (stop - start)

/-- The piece number `i` of length `size`. -/
def chunk (size : ℕ) (l : List α) (i : ℕ) : List α := substring l (i * size) ((i + 1) * size)

theorem chunk_eq (size : ℕ) (l : List α) (i : ℕ) :
    chunk size l i = (l.drop (i * size)).take size := by
  have h : (i + 1) * size - i * size = size := by rw [Nat.succ_mul]; omega
  rw [chunk, substring, h]

/-- The first `n` pieces make up the first `n * size` elements. -/
theorem flatMap_chunk (size n : ℕ) (l : List α) :
    (List.range n).flatMap (chunk size l) = l.take (n * size) := by
  induction n with
  | zero => simp
  | succ n ih =>
    have hstep : (n + 1) * size = n * size + size := Nat.succ_mul n size
    rw [List.range_succ, List.flatMap_append, ih, hstep, List.take_add]
    simp [chunk_eq]

/-- Enough pieces make up the whole list. -/
theorem flatMap_chunk_of_le {size n : ℕ} {l : List α} (h : l.length ≤ n * size) :
    (List.range n).flatMap (chunk size l) = l := by
  rw [flatMap_chunk, List.take_of_length_le h]

end Chunks
