import Mathlib.Data.List.Chain
import Mathlib.Data.List.Nodup
import Mathlib.Data.List.Perm.Subperm

/-!
# Walks

Walks of a relation are chains that are given by their start and the nodes after it. What can be
reached at all can be reached by a walk that visits no node twice. If only some nodes have successors,
such a walk is no longer than their number.
-/

namespace Walks

open List

variable {α : Type*} {r : α → α → Prop}

/-- The part of a walk that starts at one of its nodes. -/
theorem exists_suffix {a b : α} {l : List α} (hchain : IsChain r (b :: l)) (ha : a ∈ b :: l) :
    ∃ l', a :: l' <:+ b :: l ∧ IsChain r (a :: l') ∧
      getLast (a :: l') (cons_ne_nil _ _) = getLast (b :: l) (cons_ne_nil _ _) := by
  obtain ⟨before, l', heq⟩ := append_of_mem ha
  have hsuffix : a :: l' <:+ b :: l := ⟨before, heq.symm⟩
  refine ⟨l', hsuffix, hchain.suffix hsuffix, ?_⟩
  rw [getLast_congr (cons_ne_nil _ _) (heq ▸ cons_ne_nil b l) heq, getLast_append_of_ne_nil]

/-- A node that is reached at all is reached without a repetition. -/
theorem exists_nodup {a b : α} (h : Relation.ReflTransGen r a b) :
    ∃ l, IsChain r (a :: l) ∧ getLast (a :: l) (cons_ne_nil _ _) = b ∧ (a :: l).Nodup := by
  induction h using Relation.ReflTransGen.head_induction_on with
  | refl => exact ⟨[], .singleton b, rfl, nodup_singleton b⟩
  | @head a c hstep _ ih =>
    obtain ⟨l, hchain, hlast, hnodup⟩ := ih
    by_cases ha : a ∈ c :: l
    · obtain ⟨l', hsuffix, hchain', hlast'⟩ := exists_suffix hchain ha
      exact ⟨l', hchain', hlast'.trans hlast, hnodup.sublist hsuffix.sublist⟩
    · refine ⟨c :: l, .cons_cons hstep hchain, ?_, nodup_cons.mpr ⟨ha, hnodup⟩⟩
      rw [getLast_cons_cons, hlast]

/-- All nodes of a walk but the last one have a successor. -/
theorem dropLast_subset {sources : List α} (hsources : ∀ x y, r x y → x ∈ sources) {l : List α}
    (hchain : IsChain r l) : l.dropLast ⊆ sources := by
  induction l with
  | nil => exact nil_subset _
  | cons a l ih =>
    cases l with
    | nil => exact nil_subset _
    | cons b l =>
      rw [isChain_cons_cons] at hchain
      rw [dropLast_cons_cons]
      exact cons_subset.mpr ⟨hsources a b hchain.1, ih hchain.2⟩

/-- A walk without a repetition makes at most as many steps as there are nodes with a successor. -/
theorem length_le {sources : List α} (hsources : ∀ x y, r x y → x ∈ sources) {a : α} {l : List α}
    (hchain : IsChain r (a :: l)) (hnodup : (a :: l).Nodup) : l.length ≤ sources.length := by
  have hsubperm : (a :: l).dropLast <+~ sources :=
    (hnodup.sublist (dropLast_sublist _)).subperm (dropLast_subset hsources hchain)
  have hlength := hsubperm.length_le
  rwa [length_dropLast, length_cons, Nat.add_sub_cancel] at hlength

end Walks
