import SecurityDashboards.Lib.JsArray

/-!
# Differences of two lists of lines

A difference says which lines of a source are replaced by which lines of a target. A hunk is one
replacement by its line numbers, as the headers of a difference without context give it. Any choice
of hunks can be applied.
-/

/-- Lines that both texts have, and lines of the source after them with the ones of the target that
replace them. -/
structure Change (α : Type) where
  common : List α
  old : List α
  new : List α

/-- Line numbers and counts on both sides. The first line has the number 1; a side without lines has
the number of the line before it. -/
structure Hunk where
  os : ℕ
  oc : ℕ
  ns : ℕ
  nc : ℕ
deriving DecidableEq

/-- What the two texts have, from the first line to the last one. -/
structure LineDiff (α : Type) where
  changes : List (Change α)
  final : List α

/-- The lines of the hunk are taken from the target. -/
def Hunk.apply {α : Type} (dst : List α) (h : Hunk) (src : List α) : List α :=
  Js.splice src (h.os - 1) h.oc (Js.slice dst (h.ns - 1) (h.ns - 1 + h.nc))

namespace LineDiff

variable {α : Type}

/-- The number of the first of `count` lines after `before` lines. -/
def startLine (before count : ℕ) : ℕ := if count = 0 then before else before + 1

/-- The hunk of a change that comes after `o` lines of the source and `n` lines of the target. -/
def hunkAt (o n : ℕ) (change : Change α) : Hunk where
  os := startLine (o + change.common.length) change.old.length
  oc := change.old.length
  ns := startLine (n + change.common.length) change.new.length
  nc := change.new.length

def hunksFrom (o n : ℕ) : List (Change α) → List Hunk
  | [] => []
  | change :: changes =>
    hunkAt o n change ::
      hunksFrom (o + change.common.length + change.old.length)
        (n + change.common.length + change.new.length) changes

def sourceOf (changes : List (Change α)) : List α :=
  changes.flatMap fun change => change.common ++ change.old

def targetOf (changes : List (Change α)) : List α :=
  changes.flatMap fun change => change.common ++ change.new

/-- The lines with the changes whose hunk is kept. -/
def appliedFrom (keep : Hunk → Bool) (o n : ℕ) : List (Change α) → List α
  | [] => []
  | change :: changes =>
    change.common ++ (if keep (hunkAt o n change) then change.new else change.old) ++
      appliedFrom keep (o + change.common.length + change.old.length)
        (n + change.common.length + change.new.length) changes

def source (d : LineDiff α) : List α := sourceOf d.changes ++ d.final

def target (d : LineDiff α) : List α := targetOf d.changes ++ d.final

def hunks (d : LineDiff α) : List Hunk := hunksFrom 0 0 d.changes

/-- The source with exactly the kept hunks applied. -/
def applied (keep : Hunk → Bool) (d : LineDiff α) : List α :=
  appliedFrom keep 0 0 d.changes ++ d.final

/-- Two changes have common lines between them. -/
def Separated (d : LineDiff α) : Prop := ∀ change ∈ d.changes.tail, change.common ≠ []

/-! ## Applying hunks from the last to the first -/

section Apply

theorem slice_self (array : List α) (i : ℤ) : Js.slice array i i = [] := by
  unfold Js.slice
  rw [List.drop_eq_nil_iff, List.length_take]
  exact Nat.min_le_left _ _

/-- The lines that a hunk takes from the target. -/
theorem slice_target (before new after : List α) :
    Js.slice (before ++ new ++ after) ((startLine before.length new.length : ℕ) - 1)
      ((startLine before.length new.length : ℕ) - 1 + new.length) = new := by
  unfold startLine
  by_cases hnew : new.length = 0
  · rw [if_pos hnew, hnew, Int.natCast_zero, Int.add_zero, slice_self]
    exact (List.length_eq_zero_iff.mp hnew).symm
  · rw [if_neg hnew]
    exact Js.slice_append (by omega) (by omega)

/-- One hunk that replaces at least one line. -/
theorem apply_hunkAt {change : Change α} (hold : change.old ≠ [])
    (before after beforeNew afterNew : List α) :
    (hunkAt before.length beforeNew.length change).apply
        (beforeNew ++ (change.common ++ change.new) ++ afterNew)
        (before ++ (change.common ++ change.old) ++ after) =
      before ++ (change.common ++ change.new) ++ after := by
  have hcount : change.old.length ≠ 0 := fun h => hold (List.length_eq_zero_iff.mp h)
  have hnew := slice_target (beforeNew ++ change.common) change.new afterNew
  rw [List.length_append] at hnew
  unfold Hunk.apply hunkAt
  dsimp only
  rw [← List.append_assoc beforeNew, ← List.append_assoc before, ← List.append_assoc before, hnew]
  refine Js.splice_append ?_
  rw [startLine, if_neg hcount, List.length_append]
  omega

/-- Replacing from the last hunk to the first one, the line numbers stay right. -/
theorem foldr_apply {keep : Hunk → Bool} (hkeep : ∀ h, keep h = true → 0 < h.oc)
    (changes : List (Change α)) (before after beforeNew afterNew : List α) :
    ((hunksFrom before.length beforeNew.length changes).filter keep).foldr
        (Hunk.apply (beforeNew ++ targetOf changes ++ afterNew))
        (before ++ sourceOf changes ++ after) =
      before ++ appliedFrom keep before.length beforeNew.length changes ++ after := by
  induction changes generalizing before beforeNew with
  | nil => rfl
  | cons change changes ih =>
    let rest := appliedFrom keep (before.length + change.common.length + change.old.length)
      (beforeNew.length + change.common.length + change.new.length) changes
    have hlater := ih (before ++ (change.common ++ change.old))
      (beforeNew ++ (change.common ++ change.new))
    rw [List.length_append, List.length_append, List.length_append, List.length_append,
      ← Nat.add_assoc, ← Nat.add_assoc] at hlater
    have hsource : before ++ sourceOf (change :: changes) ++ after =
        before ++ (change.common ++ change.old) ++ sourceOf changes ++ after := by
      rw [sourceOf, List.flatMap_cons, ← List.append_assoc before]
      rfl
    have htarget : beforeNew ++ targetOf (change :: changes) ++ afterNew =
        beforeNew ++ (change.common ++ change.new) ++ targetOf changes ++ afterNew := by
      rw [targetOf, List.flatMap_cons, ← List.append_assoc beforeNew]
      rfl
    have happlied (chosen : List α) : before ++ (change.common ++ chosen) ++ rest ++ after =
        before ++ (change.common ++ chosen ++ rest) ++ after := by
      rw [List.append_assoc before]
    rw [hunksFrom, appliedFrom, hsource, htarget]
    by_cases hkept : keep (hunkAt before.length beforeNew.length change) = true
    · rw [List.filter_cons_of_pos hkept, List.foldr_cons, hlater, if_pos hkept, ← happlied]
      have hold : change.old ≠ [] := fun h => by
        have hcount := hkeep _ hkept
        rw [hunkAt, h] at hcount
        exact absurd hcount (Nat.lt_irrefl 0)
      rw [List.append_assoc _ rest after, List.append_assoc _ (targetOf changes) afterNew,
        apply_hunkAt hold, List.append_assoc _ rest after]
    · rw [List.filter_cons_of_neg hkept, hlater, if_neg hkept, ← happlied]

end Apply

/-! ## All hunks or none -/

section All

theorem appliedFrom_false (o n : ℕ) (changes : List (Change α)) :
    appliedFrom (fun _ => false) o n changes = sourceOf changes := by
  induction changes generalizing o n with
  | nil => rfl
  | cons change changes ih =>
    rw [appliedFrom, ih, if_neg Bool.false_ne_true]
    rfl

theorem appliedFrom_true (o n : ℕ) (changes : List (Change α)) :
    appliedFrom (fun _ => true) o n changes = targetOf changes := by
  induction changes generalizing o n with
  | nil => rfl
  | cons change changes ih =>
    rw [appliedFrom, ih, if_pos rfl]
    rfl

theorem applied_false (d : LineDiff α) : d.applied (fun _ => false) = d.source := by
  rw [applied, appliedFrom_false, source]

theorem applied_true (d : LineDiff α) : d.applied (fun _ => true) = d.target := by
  rw [applied, appliedFrom_true, target]

end All

/-! ## Lines that carry more or less -/

section Map

variable {β : Type} (f : α → β)

def mapChange (change : Change α) : Change β where
  common := change.common.map f
  old := change.old.map f
  new := change.new.map f

theorem hunkAt_mapChange (o n : ℕ) (change : Change α) :
    hunkAt o n (mapChange f change) = hunkAt o n change := by
  unfold hunkAt mapChange
  simp only [List.length_map]

theorem hunksFrom_map (o n : ℕ) (changes : List (Change α)) :
    hunksFrom o n (changes.map (mapChange f)) = hunksFrom o n changes := by
  induction changes generalizing o n with
  | nil => rfl
  | cons change changes ih =>
    rw [List.map_cons, hunksFrom, hunksFrom, hunkAt_mapChange, ih]
    simp only [mapChange, List.length_map]

theorem appliedFrom_map (keep : Hunk → Bool) (o n : ℕ) (changes : List (Change α)) :
    appliedFrom keep o n (changes.map (mapChange f)) = (appliedFrom keep o n changes).map f := by
  induction changes generalizing o n with
  | nil => rfl
  | cons change changes ih =>
    rw [List.map_cons, appliedFrom, appliedFrom, hunkAt_mapChange, ih, List.map_append,
      List.map_append]
    simp only [mapChange, List.length_map]
    split
    · rfl
    · rfl

theorem sourceOf_map (changes : List (Change α)) :
    sourceOf (changes.map (mapChange f)) = (sourceOf changes).map f := by
  rw [← appliedFrom_false 0 0, appliedFrom_map, appliedFrom_false]

theorem targetOf_map (changes : List (Change α)) :
    targetOf (changes.map (mapChange f)) = (targetOf changes).map f := by
  rw [← appliedFrom_true 0 0, appliedFrom_map, appliedFrom_true]

end Map

/-- Both texts, in another form and with lines behind them: applying the kept hunks from the last to
the first gives the source with these hunks in the same form. -/
theorem foldr_apply_map {β : Type} (f : α → β) {keep : Hunk → Bool}
    (hkeep : ∀ h, keep h = true → 0 < h.oc) (d : LineDiff α) (after afterNew : List β) :
    (d.hunks.filter keep).foldr (Hunk.apply (d.target.map f ++ afterNew))
        (d.source.map f ++ after) = (d.applied keep).map f ++ after := by
  have h := foldr_apply hkeep (d.changes.map (mapChange f)) [] (d.final.map f ++ after) []
    (d.final.map f ++ afterNew)
  rw [List.nil_append, List.nil_append, List.nil_append, List.length_nil, hunksFrom_map,
    sourceOf_map, targetOf_map, appliedFrom_map, ← List.append_assoc, ← List.append_assoc,
    ← List.append_assoc, ← List.map_append, ← List.map_append, ← List.map_append] at h
  exact h

/-! ## The last line -/

section Last

variable {keep : Hunk → Bool}

theorem appliedFrom_ne_nil {changes : List (Change α)} {final : List α}
    (hbetween : ∀ change ∈ changes, change.common ≠ []) (hrest : ¬ (changes = [] ∧ final = []))
    (keep : Hunk → Bool) (o n : ℕ) : appliedFrom keep o n changes ++ final ≠ [] := by
  cases changes with
  | nil => exact fun hnil => hrest ⟨rfl, hnil⟩
  | cons change changes =>
    have hcommon := hbetween change List.mem_cons_self
    intro hnil
    rw [appliedFrom, List.append_assoc, List.append_assoc] at hnil
    exact hcommon (List.append_eq_nil_iff.mp hnil).1

theorem getLast?_appliedFrom_cons {changes : List (Change α)} {final : List α}
    (hbetween : ∀ change ∈ changes, change.common ≠ []) (hrest : ¬ (changes = [] ∧ final = []))
    (keep : Hunk → Bool) (o n : ℕ) (change : Change α) :
    (appliedFrom keep o n (change :: changes) ++ final).getLast? =
      (appliedFrom keep (o + change.common.length + change.old.length)
        (n + change.common.length + change.new.length) changes ++ final).getLast? := by
  rw [appliedFrom, List.append_assoc,
    List.getLast?_append_of_ne_nil _ (appliedFrom_ne_nil hbetween hrest _ _ _)]

theorem getLast?_appliedFrom (keep' : Hunk → Bool) {changes : List (Change α)} {final : List α}
    {o n : ℕ}
    (hbetween : ∀ change ∈ changes.tail, change.common ≠ [])
    (hkeep : ∀ h, (hunksFrom o n changes).getLast? = some h → keep h = keep' h) :
    (appliedFrom keep o n changes ++ final).getLast? =
      (appliedFrom keep' o n changes ++ final).getLast? := by
  induction changes generalizing o n with
  | nil => rfl
  | cons change changes ih =>
    have hlater : ∀ change ∈ changes, change.common ≠ [] := hbetween
    by_cases hrest : changes = [] ∧ final = []
    · obtain ⟨rfl, rfl⟩ := hrest
      rw [appliedFrom, appliedFrom, hkeep (hunkAt o n change) rfl]
      rfl
    · rw [getLast?_appliedFrom_cons hlater hrest, getLast?_appliedFrom_cons hlater hrest]
      refine ih (fun change hchange => hlater change (List.mem_of_mem_tail hchange))
        fun h hlast => hkeep h ?_
      rw [hunksFrom, List.getLast?_cons, hlast]
      rfl

/-- The last line depends on the last hunk only. -/
theorem getLast?_applied (keep' : Hunk → Bool) {d : LineDiff α} (hd : d.Separated)
    (hkeep : ∀ h, d.hunks.getLast? = some h → keep h = keep' h) :
    (d.applied keep).getLast? = (d.applied keep').getLast? :=
  getLast?_appliedFrom keep' hd hkeep

/-- If the last hunk is applied, the last line is that of the target. -/
theorem getLast?_applied_of_kept {d : LineDiff α} (hd : d.Separated)
    (hkept : ∀ h, d.hunks.getLast? = some h → keep h = true) :
    (d.applied keep).getLast? = d.target.getLast? := by
  rw [getLast?_applied (fun _ => true) hd hkept, applied_true]

/-- If it is not applied, the last line is that of the source. -/
theorem getLast?_applied_of_not_kept {d : LineDiff α} (hd : d.Separated)
    (hnot : ∀ h, d.hunks.getLast? = some h → keep h = false) :
    (d.applied keep).getLast? = d.source.getLast? := by
  rw [getLast?_applied (fun _ => false) hd hnot, applied_false]

end Last

/-! ## What only the last line may lack -/

/-- All lines but possibly the last one have the property. -/
def AllButLast (p : α → Prop) (l : List α) : Prop := ∀ a ∈ l.dropLast, p a

section AllButLast

variable {p : α → Prop} {l l' : List α}

theorem AllButLast.of_all (h : ∀ a ∈ l, p a) : AllButLast p l :=
  fun a ha => h a (List.dropLast_subset l ha)

theorem allButLast_append_iff (hne : l' ≠ []) :
    AllButLast p (l ++ l') ↔ (∀ a ∈ l, p a) ∧ AllButLast p l' := by
  unfold AllButLast
  rw [List.dropLast_append_of_ne_nil hne, List.forall_mem_append]

theorem allButLast_append (hl : ∀ a ∈ l, p a) (hl' : AllButLast p l') :
    AllButLast p (l ++ l') := by
  by_cases hne : l' = []
  · rw [hne, List.append_nil]
    exact AllButLast.of_all hl
  · exact (allButLast_append_iff hne).mpr ⟨hl, hl'⟩

theorem allButLast_appliedFrom {changes : List (Change α)} {final : List α}
    (hbetween : ∀ change ∈ changes.tail, change.common ≠ [])
    (hsource : AllButLast p (sourceOf changes ++ final))
    (htarget : AllButLast p (targetOf changes ++ final)) (keep : Hunk → Bool) (o n : ℕ) :
    AllButLast p (appliedFrom keep o n changes ++ final) := by
  induction changes generalizing o n with
  | nil => exact hsource
  | cons change changes ih =>
    have hlater : ∀ change ∈ changes, change.common ≠ [] := hbetween
    have hchange : sourceOf (change :: changes) ++ final =
        change.common ++ change.old ++ (sourceOf changes ++ final) := by
      rw [sourceOf, List.flatMap_cons, List.append_assoc]
      rfl
    have hchange' : targetOf (change :: changes) ++ final =
        change.common ++ change.new ++ (targetOf changes ++ final) := by
      rw [targetOf, List.flatMap_cons, List.append_assoc]
      rfl
    rw [hchange] at hsource
    rw [hchange'] at htarget
    by_cases hrest : changes = [] ∧ final = []
    · obtain ⟨rfl, rfl⟩ := hrest
      rw [appliedFrom, List.append_assoc]
      split
      · exact htarget
      · exact hsource
    · -- more lines follow in both texts, so that none of these is a last one
      have hne := appliedFrom_ne_nil hlater hrest (fun _ => false) o n
      have hne' := appliedFrom_ne_nil hlater hrest (fun _ => true) o n
      rw [appliedFrom_false] at hne
      rw [appliedFrom_true] at hne'
      obtain ⟨hold, hsource⟩ := (allButLast_append_iff hne).mp hsource
      obtain ⟨hnew, htarget⟩ := (allButLast_append_iff hne').mp htarget
      rw [appliedFrom, List.append_assoc]
      refine allButLast_append ?_ (ih (fun change hchange =>
        hlater change (List.mem_of_mem_tail hchange)) hsource htarget _ _)
      split
      · exact hnew
      · exact hold

/-- If no line of the two texts but the last one lacks the property, this is so whichever hunks are
applied. -/
theorem allButLast_applied {d : LineDiff α} (hd : d.Separated) (hsource : AllButLast p d.source)
    (htarget : AllButLast p d.target) (keep : Hunk → Bool) : AllButLast p (d.applied keep) :=
  allButLast_appliedFrom hd hsource htarget keep 0 0

end AllButLast

end LineDiff
