import Mathlib.Data.List.Basic

/-!
# Stores with paths

A store holds values at paths. Writing at a path changes what is read there, and nothing at the paths
apart from it.
-/

/-- Reading and writing values of type `β` at paths of type `π` of a store of type `σ`. -/
structure PathStore (σ π β : Type) where
  get : σ → π → Option β
  set : σ → π → β → σ
  /-- Neither path leads through the other. -/
  Apart : π → π → Prop
  get_set (s : σ) (p : π) (v : β) : get (set s p v) p = some v
  get_set_of_apart {p q : π} (h : Apart p q) (s : σ) (v : β) : get (set s p v) q = get s q

namespace PathStore

variable {σ π β : Type}

/-! ## Entries written together -/

section WriteEach

variable (store : PathStore σ π β)

/-- The entries, each of which is written into the store as it was at first: only the last one
remains. -/
def writeEach (captured : σ) (entries : List (π × β)) : σ :=
  entries.foldl (fun _ entry => store.set captured entry.1 entry.2) captured

/-- Different paths of the entries are apart. -/
def PathsApart (entries : List (π × β)) : Prop :=
  ∀ entry ∈ entries, ∀ entry' ∈ entries, entry.1 ≠ entry'.1 → store.Apart entry.1 entry'.1

variable {store}

@[simp] theorem writeEach_nil (s : σ) : store.writeEach s [] = s := rfl

@[simp] theorem writeEach_concat (s : σ) (entries : List (π × β)) (entry : π × β) :
    store.writeEach s (entries ++ [entry]) = store.set s entry.1 entry.2 := by
  unfold writeEach
  rw [List.foldl_append]
  rfl

theorem PathsApart.subset {entries entries' : List (π × β)} (h : store.PathsApart entries)
    (hsub : entries' ⊆ entries) : store.PathsApart entries' :=
  fun entry hentry entry' hentry' => h entry (hsub hentry) entry' (hsub hentry')

theorem PathsApart.get_set {entries : List (π × β)} {entry : π × β} {p : π} {v : β}
    (h : store.PathsApart entries) (hentry : entry ∈ entries) (hp : (p, v) ∈ entries)
    (hne : p ≠ entry.1) (s : σ) : store.get (store.set s entry.1 entry.2) p = store.get s p :=
  store.get_set_of_apart (h entry hentry (p, v) hp (Ne.symm hne)) s entry.2

end WriteEach

variable [DecidableEq π]

/-! ## The last values -/

/-- The value of the last entry at a path. -/
def lastValue (entries : List (π × β)) (p : π) : Option β := entries.reverse.lookup p

section LastValue

variable {entries past : List (π × β)} {p : π} {v : β}

theorem lastValue_append :
    lastValue (past ++ entries) p = (lastValue entries p).or (lastValue past p) := by
  unfold lastValue
  rw [List.reverse_append, List.lookup_append]

theorem lastValue_concat (entries : List (π × β)) (entry : π × β) :
    lastValue (entries ++ [entry]) entry.1 = some entry.2 := by
  unfold lastValue
  rw [List.reverse_append, List.reverse_singleton, List.singleton_append, List.lookup_cons_self]

theorem lastValue_mem (h : lastValue entries p = some v) : (p, v) ∈ entries := by
  obtain ⟨later, earlier, hsplit, -⟩ := List.lookup_eq_some_iff.mp h
  rw [← List.mem_reverse, hsplit]
  exact List.mem_append_right later List.mem_cons_self

theorem lastValue_eq_none_iff : lastValue entries p = none ↔ ∀ entry ∈ entries, p ≠ entry.1 := by
  unfold lastValue
  rw [List.lookup_eq_none_iff]
  simp only [List.mem_reverse, bne_iff_ne]

end LastValue

/-! ## What a store holds -/

section Holds

variable (store : PathStore σ π β)

/-- The store has the last value of every path of the entries, and else what it had at first. -/
structure Holds (origin : σ) (entries : List (π × β)) (s : σ) : Prop where
  written (p : π) (v : β) : lastValue entries p = some v → store.get s p = some v
  unchanged (p : π) : (∀ entry ∈ entries, store.Apart entry.1 p) → store.get s p = store.get origin p

/-- The store has the last value of every path already, save that of the last entry. -/
def HoldsOthers (entries : List (π × β)) (s : σ) : Prop :=
  ∀ p v, lastValue entries p = some v → entries.getLast?.map Prod.fst ≠ some p →
    store.get s p = some v

variable {store} {origin s : σ} {past entries : List (π × β)}

theorem holds_nil (s : σ) : store.Holds s [] s where
  written p v hv := by cases hv
  unchanged p _ := rfl

/-- Entries at one path only leave nothing else to hold. -/
theorem holdsOthers_of_one (p : π) (h : ∀ entry ∈ entries, entry.1 = p) (s : σ) :
    store.HoldsOthers entries s := by
  intro q v hv hlast
  obtain rfl | ⟨earlier, last, rfl⟩ := List.eq_nil_or_concat' entries
  · cases hv
  · have hq : q = p := h (q, v) (lastValue_mem hv)
    have hp : last.1 = p := h last (by simp)
    rw [List.getLast?_concat, Option.map_some, hp, hq] at hlast
    exact absurd rfl hlast

theorem holdsOthers_of_holds (hapart : store.PathsApart (past ++ entries))
    (h : store.Holds origin (past ++ entries) (store.writeEach s entries)) :
    store.HoldsOthers entries s := by
  intro p v hv hlast
  have hwritten := h.written p v (by rw [lastValue_append, hv, Option.some_or])
  obtain rfl | ⟨earlier, last, rfl⟩ := List.eq_nil_or_concat' entries
  · cases hv
  · have hne : p ≠ last.1 := by
      rintro rfl
      exact hlast (by rw [List.getLast?_concat, Option.map_some])
    have hlastIn : last ∈ past ++ (earlier ++ [last]) := by simp
    have hp : (p, v) ∈ past ++ (earlier ++ [last]) :=
      List.mem_append_right past (lastValue_mem hv)
    rw [writeEach_concat, hapart.get_set hlastIn hp hne] at hwritten
    exact hwritten

theorem holds_of_holdsOthers (hapart : store.PathsApart (past ++ entries))
    (hpast : store.Holds origin past s) (h : store.HoldsOthers entries s) :
    store.Holds origin (past ++ entries) (store.writeEach s entries) := by
  obtain rfl | ⟨earlier, last, rfl⟩ := List.eq_nil_or_concat' entries
  · rw [List.append_nil]
    exact hpast
  · have hlastIn : last ∈ past ++ (earlier ++ [last]) := by simp
    rw [writeEach_concat]
    constructor
    · intro p v hv
      by_cases hlast : p = last.1
      · subst hlast
        rw [← List.append_assoc, lastValue_concat] at hv
        rw [store.get_set, hv]
      · rw [hapart.get_set hlastIn (lastValue_mem hv) hlast]
        rw [lastValue_append] at hv
        cases hnow : lastValue (earlier ++ [last]) p with
        | none =>
          rw [hnow, Option.none_or] at hv
          exact hpast.written p v hv
        | some w =>
          rw [hnow, Option.some_or] at hv
          refine h p v (hnow.trans hv) fun heq => ?_
          rw [List.getLast?_concat, Option.map_some] at heq
          exact hlast (Option.some.inj heq).symm
    · intro p hp
      rw [store.get_set_of_apart (hp last hlastIn)]
      exact hpast.unchanged p fun entry hentry => hp entry (List.mem_append_left _ hentry)

/-- Writing the entries into one store keeps what was written exactly if the store has the last
values of all paths but the last one already. -/
theorem holds_append_iff (hapart : store.PathsApart (past ++ entries))
    (hpast : store.Holds origin past s) :
    store.Holds origin (past ++ entries) (store.writeEach s entries) ↔
      store.HoldsOthers entries s :=
  ⟨holdsOthers_of_holds hapart, holds_of_holdsOthers hapart hpast⟩

end Holds

end PathStore
