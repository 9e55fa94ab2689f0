import Mathlib.Data.Set.Lattice
import Mathlib.Order.CompletePartialOrder

/-!
# Differences of sets

A delta leads from one set to another by adding some elements and then removing others. It is minimal
if nothing is added that is there already, and nothing removed that was not there.
-/

namespace SetDelta

variable {α : Type*} {prev next add revoke : Set α}

/-- `add` and `revoke` lead from `prev` to `next`, and say nothing superfluous. -/
structure IsDelta (prev next add revoke : Set α) : Prop where
  applied : (prev ∪ add) \ revoke = next
  fresh : Disjoint add prev
  owned : revoke ⊆ prev

namespace IsDelta

/-- Nothing is added and removed again. -/
theorem disjoint (h : IsDelta prev next add revoke) : Disjoint add revoke :=
  h.fresh.mono_right h.owned

theorem add_eq (h : IsDelta prev next add revoke) : add = next \ prev := by
  ext x
  have hfresh : x ∈ add → x ∉ prev := fun hadd => Set.disjoint_left.mp h.fresh hadd
  have howned : x ∈ revoke → x ∈ prev := fun hrevoke => h.owned hrevoke
  rw [← h.applied, Set.mem_sdiff, Set.mem_sdiff, Set.mem_union]
  tauto

theorem revoke_eq (h : IsDelta prev next add revoke) : revoke = prev \ next := by
  ext x
  have howned : x ∈ revoke → x ∈ prev := fun hrevoke => h.owned hrevoke
  rw [← h.applied, Set.mem_sdiff, Set.mem_sdiff, Set.mem_union]
  tauto

/-- Nothing is added exactly if there is nothing new. -/
theorem add_eq_empty_iff (h : IsDelta prev next add revoke) : add = ∅ ↔ next ⊆ prev := by
  rw [h.add_eq, Set.sdiff_eq_empty]

theorem revoke_eq_empty_iff (h : IsDelta prev next add revoke) : revoke = ∅ ↔ prev ⊆ next := by
  rw [h.revoke_eq, Set.sdiff_eq_empty]

end IsDelta

/-- The two differences are a delta, and by `add_eq` and `revoke_eq` the only one. -/
theorem isDelta_diff (prev next : Set α) : IsDelta prev next (next \ prev) (prev \ next) where
  applied := by
    ext x
    rw [Set.mem_sdiff, Set.mem_union, Set.mem_sdiff, Set.mem_sdiff]
    tauto
  fresh := Set.disjoint_sdiff_left
  owned := Set.sdiff_subset

end SetDelta
