import Mathlib.Data.List.Basic
import Mathlib.Data.Int.Order.Basic

/-!
# JavaScript arrays

`slice` and `splice`, whose positions count from the end where they are negative.
-/

namespace Js

variable {α : Type}

/-- The position that a relative index stands for. -/
def relativeIndex (length : ℕ) (index : ℤ) : ℕ :=
  if index < 0 then (length + index).toNat else min index.toNat length

/-- `array.slice(start, stop)` -/
def slice (array : List α) (start stop : ℤ) : List α :=
  (array.take (relativeIndex array.length stop)).drop (relativeIndex array.length start)

/-- What `array.splice(start, deleteCount, ...items)` makes of the array. -/
def splice (array : List α) (start : ℤ) (deleteCount : ℕ) (items : List α) : List α :=
  let actualStart := relativeIndex array.length start
  array.take actualStart ++ items ++ array.drop (actualStart + deleteCount)

theorem relativeIndex_natCast {length index : ℕ} (h : index ≤ length) :
    relativeIndex length index = index := by
  unfold relativeIndex
  rw [if_neg (by omega), Int.toNat_natCast, Nat.min_eq_left h]

/-- The items between two parts of an array. -/
theorem slice_append {before items after : List α} {start stop : ℤ}
    (hstart : start = before.length) (hstop : stop = before.length + items.length) :
    slice (before ++ items ++ after) start stop = items := by
  have hlength : (before ++ items ++ after).length =
      before.length + items.length + after.length := by
    rw [List.length_append, List.length_append]
  have hcast : stop = ((before.length + items.length : ℕ) : ℤ) := by rw [hstop]; rfl
  unfold slice
  rw [hstart, hcast, relativeIndex_natCast (by omega), relativeIndex_natCast (by omega)]
  rw [← List.length_append, List.take_left', List.drop_left']
  · rfl
  · rfl

/-- The items between two parts of an array are replaced. -/
theorem splice_append {before deleted after items : List α} {start : ℤ}
    (hstart : start = before.length) :
    splice (before ++ deleted ++ after) start deleted.length items =
      before ++ items ++ after := by
  have hlength : (before ++ deleted ++ after).length =
      before.length + deleted.length + after.length := by
    rw [List.length_append, List.length_append]
  unfold splice
  rw [hstart, relativeIndex_natCast (by omega)]
  dsimp only
  rw [← List.length_append, List.drop_left', List.append_assoc before deleted after,
    List.take_left']
  · rfl
  · rfl

end Js
