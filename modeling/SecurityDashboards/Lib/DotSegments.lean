import Mathlib.Data.List.Induction
import SecurityDashboards.Lib.WhatwgLocation

/-!
# Dot segments

Which segment of a text comes first in the path that the URL parser makes of it: one before which
nothing is left, and above which no later segment climbs.
-/

namespace Whatwg

/-- A segment after those of a path, with more to come. -/
def push (path : List (List Char)) (segment : List Char) : List (List Char) :=
  if isDoubleDot segment then path.dropLast
  else if isSingleDot segment then path
  else path ++ [segment]

/-- The last segment. -/
def pushLast (path : List (List Char)) (segment : List Char) : List (List Char) :=
  if isDoubleDot segment then path.dropLast ++ [[]]
  else if isSingleDot segment then path ++ [[]]
  else path ++ [segment]

/-- How deep a segment leads. -/
def depthAfter (depth : ℕ) (segment : List Char) : ℕ :=
  if isDoubleDot segment then depth - 1
  else if isSingleDot segment then depth
  else depth + 1

/-- How deep the segments lead. There is nothing above the root. -/
def depthOf (depth : ℕ) (segments : List (List Char)) : ℕ := segments.foldl depthAfter depth

theorem length_push (path : List (List Char)) (segment : List Char) :
    (push path segment).length = depthAfter path.length segment := by
  unfold push depthAfter
  split_ifs <;> simp

theorem length_foldl_push (segments : List (List Char)) (path : List (List Char)) :
    (segments.foldl push path).length = depthOf path.length segments := by
  induction segments generalizing path with
  | nil => rfl
  | cons segment segments ih => rw [List.foldl_cons, ih, length_push]; rfl

@[simp] theorem depthOf_append_singleton (depth : ℕ) (segments : List (List Char))
    (segment : List Char) :
    depthOf depth (segments ++ [segment]) = depthAfter (depthOf depth segments) segment := by
  simp only [depthOf, List.foldl_append, List.foldl_cons, List.foldl_nil]

theorem depthOf_append (depth : ℕ) (first second : List (List Char)) :
    depthOf depth (first ++ second) = depthOf (depthOf depth first) second :=
  List.foldl_append

/-- The path state is a run of `push`, and `pushLast` at its end. -/
theorem appendSegments_append_singleton (path init : List (List Char)) (last : List Char) :
    appendSegments path (init ++ [last]) = pushLast (init.foldl push path) last := by
  induction init generalizing path with
  | nil => rfl
  | cons first rest ih =>
    obtain ⟨second, tail, htail⟩ := List.exists_cons_of_ne_nil
      (show rest ++ [last] ≠ [] by simp)
    have hih := fun path' => ih path'
    rw [List.cons_append, htail, appendSegments_cons_cons, ← htail, hih, hih, hih, List.foldl_cons,
      push]
    split_ifs <;> rfl

/-! ## The first segment -/

/-- The segments before lead nowhere, and those after do not climb above what stands between. -/
structure Settles (before after : List (List Char)) : Prop where
  before : depthOf 0 before = 0
  after : ∀ upTo, upTo <+: after → 0 < depthOf 1 upTo

/-- The segment comes first. -/
def ComesFirst (segment : List Char) (segments : List (List Char)) : Prop :=
  ∃ before after, segments = before ++ segment :: after ∧ Settles before after

/-- The segment comes first, and is not the last one. -/
def Leads (segment : List Char) (segments : List (List Char)) : Prop :=
  ∃ before after, segments = before ++ segment :: after ∧ after ≠ [] ∧ Settles before after

theorem settles_nil_iff {before : List (List Char)} : Settles before [] ↔ depthOf 0 before = 0 := by
  refine ⟨Settles.before, fun h => ⟨h, fun upTo hupTo => ?_⟩⟩
  rw [List.prefix_nil.mp hupTo]
  exact Nat.one_pos

theorem settles_concat_iff {before after : List (List Char)} {last : List Char} :
    Settles before (after ++ [last]) ↔
      Settles before after ∧ 0 < depthAfter (depthOf 1 after) last := by
  rw [← depthOf_append_singleton]
  constructor
  · rintro ⟨hbefore, hafter⟩
    refine ⟨⟨hbefore, fun upTo hupTo => ?_⟩, hafter _ List.prefix_rfl⟩
    exact hafter upTo (hupTo.trans (List.prefix_append _ _))
  · rintro ⟨⟨hbefore, hafter⟩, hlast⟩
    refine ⟨hbefore, fun upTo hupTo => ?_⟩
    rcases List.prefix_concat_iff.mp hupTo with rfl | hupTo
    · exact hlast
    · exact hafter upTo hupTo

/-- A segment that is kept. -/
structure IsOrdinary (segment : List Char) : Prop where
  notDots : isDoubleDot segment = false
  notDot : isSingleDot segment = false

theorem IsOrdinary.depthAfter {segment : List Char} (h : IsOrdinary segment) (depth : ℕ) :
    depthAfter depth segment = depth + 1 := by
  rw [Whatwg.depthAfter, h.notDots, h.notDot, if_neg Bool.false_ne_true, if_neg Bool.false_ne_true]

theorem isOrdinary_nil : IsOrdinary [] := ⟨rfl, rfl⟩

/-- The depth counts from the segment that comes first. -/
theorem depthOf_of_settles {segment : List Char} (h : IsOrdinary segment)
    {before after : List (List Char)} (hsettles : Settles before after) :
    depthOf 0 (before ++ segment :: after) = depthOf 1 after := by
  rw [depthOf_append, hsettles.before, depthOf, List.foldl_cons, h.depthAfter, Nat.zero_add]
  rfl

/-- A first segment stays the first one unless the next one climbs above it. -/
theorem leads_concat_iff {segment last : List Char} (h : IsOrdinary segment)
    {segments : List (List Char)} : Leads segment (segments ++ [last]) ↔
      ComesFirst segment segments ∧ 0 < depthAfter (depthOf 0 segments) last := by
  constructor
  · rintro ⟨before, after, hsplit, hne, hsettles⟩
    rcases List.eq_nil_or_concat after with rfl | ⟨after, x, rfl⟩
    · exact absurd rfl hne
    · rw [List.concat_eq_append] at hsplit hsettles
      rw [← List.cons_append, ← List.append_assoc] at hsplit
      obtain ⟨rfl, rfl⟩ := List.append_singleton_inj.mp hsplit
      obtain ⟨hfirst, hlast⟩ := settles_concat_iff.mp hsettles
      exact ⟨⟨before, after, rfl, hfirst⟩, by rwa [depthOf_of_settles h hfirst]⟩
  · rintro ⟨⟨before, after, rfl, hfirst⟩, hlast⟩
    rw [depthOf_of_settles h hfirst] at hlast
    exact ⟨before, after ++ [last], by simp, by simp, settles_concat_iff.mpr ⟨hfirst, hlast⟩⟩

/-- A segment comes first as the last one, if those before it lead nowhere, or was first before. -/
theorem comesFirst_concat_iff {segment last : List Char} (h : IsOrdinary segment)
    {segments : List (List Char)} : ComesFirst segment (segments ++ [last]) ↔
      (last = segment ∧ depthOf 0 segments = 0) ∨
        (ComesFirst segment segments ∧ 0 < depthAfter (depthOf 0 segments) last) := by
  rw [← leads_concat_iff h]
  constructor
  · rintro ⟨before, after, hsplit, hsettles⟩
    by_cases hafter : after = []
    · subst hafter
      obtain ⟨rfl, rfl⟩ := List.append_singleton_inj.mp hsplit
      exact Or.inl ⟨rfl, hsettles.before⟩
    · exact Or.inr ⟨before, after, hsplit, hafter, hsettles⟩
  · rintro (⟨rfl, hdepth⟩ | ⟨before, after, hsplit, -, hsettles⟩)
    · exact ⟨segments, [], rfl, settles_nil_iff.mpr hdepth⟩
    · exact ⟨before, after, hsplit, hsettles⟩

theorem head?_push_iff {segment : List Char} (h : IsOrdinary segment) (path : List (List Char))
    (last : List Char) : (push path last).head? = some segment ↔
      (last = segment ∧ path.length = 0) ∨
        (path.head? = some segment ∧ 0 < depthAfter path.length last) := by
  unfold push depthAfter
  by_cases hdots : isDoubleDot last = true
  · have hne : last ≠ segment := by
      rintro rfl
      rw [h.notDots] at hdots
      cases hdots
    rw [if_pos hdots, if_pos hdots]
    rcases path with - | ⟨first, - | ⟨second, rest⟩⟩ <;> simp [hne]
  · rw [if_neg hdots, if_neg hdots]
    by_cases hdot : isSingleDot last = true
    · have hne : last ≠ segment := by
        rintro rfl
        rw [h.notDot] at hdot
        cases hdot
      rw [if_pos hdot, if_pos hdot]
      cases path <;> simp [hne]
    · rw [if_neg hdot, if_neg hdot]
      cases path <;> simp

/-- The first segment of the path is the one that comes first. -/
theorem head?_foldl_push_iff {segment : List Char} (h : IsOrdinary segment)
    (segments : List (List Char)) :
    (segments.foldl push []).head? = some segment ↔ ComesFirst segment segments := by
  induction segments using List.reverseRecOn with
  | nil =>
    constructor
    · intro h
      cases h
    · rintro ⟨before, after, h, -⟩
      simp at h
  | append_singleton segments last ih =>
    rw [List.foldl_append, List.foldl_cons, List.foldl_nil, head?_push_iff h, ih, length_foldl_push,
      List.length_nil, comesFirst_concat_iff h]

/-! ## Two segments and more -/

/-- The last segment leaves a path of two segments with the same first one, unless it climbs above
that. -/
theorem pushLast_eq_cons_cons_iff {segment : List Char} (path : List (List Char)) (last : List Char) :
    (∃ second rest, pushLast path last = segment :: second :: rest) ↔
      path.head? = some segment ∧ 0 < depthAfter path.length last := by
  unfold pushLast depthAfter
  by_cases hdots : isDoubleDot last = true
  · rw [if_pos hdots, if_pos hdots]
    rcases path with - | ⟨first, - | ⟨second, rest⟩⟩
    · simp
    · simp
    · have hne : (second :: rest).dropLast ++ [[]] ≠ [] := by simp
      obtain ⟨x, l, hx⟩ := List.exists_cons_of_ne_nil hne
      simp [hx]
  · rw [if_neg hdots, if_neg hdots]
    by_cases hdot : isSingleDot last = true
    · rw [if_pos hdot, if_pos hdot]
      rcases path with - | ⟨first, - | ⟨second, rest⟩⟩ <;> simp
    · rw [if_neg hdot, if_neg hdot]
      rcases path with - | ⟨first, - | ⟨second, rest⟩⟩ <;> simp

/-- A path of two segments or more starts with the segment that leads. -/
theorem appendSegments_eq_cons_cons_iff {segment : List Char} (h : IsOrdinary segment)
    {segments : List (List Char)} (hne : segments ≠ []) :
    (∃ second rest, appendSegments [] segments = segment :: second :: rest) ↔
      Leads segment segments := by
  obtain ⟨init, last, rfl⟩ := List.eq_nil_or_concat segments |>.resolve_left hne
  rw [List.concat_eq_append, appendSegments_append_singleton, pushLast_eq_cons_cons_iff,
    head?_foldl_push_iff h, length_foldl_push, leads_concat_iff h]
  rfl

end Whatwg
