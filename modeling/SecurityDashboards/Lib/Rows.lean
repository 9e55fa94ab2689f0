import Mathlib.Data.List.Basic

/-!
# Rows

Edits of a list of rows, and what they do to the rows that satisfy a predicate.
-/

namespace Rows

variable {α : Type*}

inductive Edit (α : Type*) where
  | append (row : α)
  | update (index : ℕ) (change : α → α)
  | remove (index : ℕ)

namespace Edit

def apply : Edit α → List α → List α
  | append row, rows => rows ++ [row]
  | update index change, rows => rows.modify index change
  | remove index, rows => rows.eraseIdx index

/-- The edit adds, changes or removes a row that satisfies the predicate, or makes one satisfy it. -/
def Touches (p : α → Bool) (rows : List α) : Edit α → Prop
  | append row => p row = true
  | update index change => ∃ row, rows[index]? = some row ∧ (p row = true ∨ p (change row) = true)
  | remove index => ∃ row, rows[index]? = some row ∧ p row = true

instance (p : α → Bool) (rows : List α) (edit : Edit α) : Decidable (edit.Touches p rows) :=
  match edit with
  | append row => inferInstanceAs (Decidable (p row = true))
  | update index change =>
    decidable_of_iff (∃ row ∈ rows[index]?, p row = true ∨ p (change row) = true) Iff.rfl
  | remove index => decidable_of_iff (∃ row ∈ rows[index]?, p row = true) Iff.rfl

end Edit

variable {p : α → Bool}

theorem filter_modify {change : α → α} {rows : List α} :
    ∀ {index : ℕ}, (∀ row, rows[index]? = some row → p row = false ∧ p (change row) = false) →
      (rows.modify index change).filter p = rows.filter p := by
  induction rows with
  | nil =>
    intro index _
    rw [List.modify_nil]
  | cons row rows ih =>
    intro index h
    cases index with
    | zero =>
      obtain ⟨hrow, hchanged⟩ := h row rfl
      rw [List.modify_zero_cons, List.filter_cons_of_neg (by simp [hchanged]),
        List.filter_cons_of_neg (by simp [hrow])]
    | succ index =>
      have hrest := @ih index fun other hother => h other hother
      rw [List.modify_succ_cons, List.filter_cons, List.filter_cons, hrest]

theorem filter_eraseIdx {rows : List α} :
    ∀ {index : ℕ}, (∀ row, rows[index]? = some row → p row = false) →
      (rows.eraseIdx index).filter p = rows.filter p := by
  induction rows with
  | nil =>
    intro index _
    rfl
  | cons row rows ih =>
    intro index h
    cases index with
    | zero => rw [List.eraseIdx_cons_zero, List.filter_cons_of_neg (by simp [h row rfl])]
    | succ index =>
      have hrest := @ih index fun other hother => h other hother
      rw [List.eraseIdx_cons_succ, List.filter_cons, List.filter_cons, hrest]

/-- The rows that an edit does not touch stay. -/
theorem Edit.filter_apply {edit : Edit α} {rows : List α} (h : ¬edit.Touches p rows) :
    (edit.apply rows).filter p = rows.filter p := by
  cases edit with
  | append row =>
    have hrow : p row = false := by simpa [Touches] using h
    rw [apply, List.filter_append, List.filter_cons_of_neg (by simp [hrow]), List.filter_nil,
      List.append_nil]
  | update index change =>
    refine filter_modify fun row hrow => ?_
    have hno : ¬(p row = true ∨ p (change row) = true) := fun hp => h ⟨row, hrow, hp⟩
    simpa using hno
  | remove index =>
    refine filter_eraseIdx fun row hrow => ?_
    have hno : ¬p row = true := fun hp => h ⟨row, hrow, hp⟩
    simpa using hno

/-- An empty list of rows is shown as one empty row. -/
def orEmpty (empty : α) (rows : List α) : List α := if rows.isEmpty then [empty] else rows

theorem filter_orEmpty {empty : α} (h : p empty = false) (rows : List α) :
    (orEmpty empty rows).filter p = rows.filter p := by
  cases rows with
  | nil => simp [orEmpty, h]
  | cons row rows => rfl

end Rows
