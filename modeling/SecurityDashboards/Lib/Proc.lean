import Mathlib.Logic.Basic

/-!
# Procedures that keep their state when they throw

A function that changes shared state and may throw is a state transformer whose state survives the
exception. `Triple P x Q E` is the Hoare triple of such a procedure: from a state with
`P` it either returns a value `a` and ends in a state with `Q a`, or throws `e` and ends in a state
with `E e`.
-/

/-- A sequence returns exactly if both of its parts do. -/
theorem Except.bind_eq_ok_iff {ε α β : Type} {x : Except ε α} {f : α → Except ε β} {b : β} :
    x >>= f = .ok b ↔ ∃ a, x = .ok a ∧ f a = .ok b := by
  cases x with
  | error e => exact iff_of_false (fun h => by cases h) fun ⟨a, h, _⟩ => by cases h
  | ok a =>
    constructor
    · intro h
      exact ⟨a, rfl, h⟩
    · rintro ⟨a', h, hf⟩
      cases h
      exact hf

abbrev Proc (σ ε α : Type) := ExceptT ε (StateM σ) α

namespace Proc

variable {σ τ ε α β : Type}

/-- The outcome of the procedure from the state `s`, and the state after it. -/
def exec (x : Proc σ ε α) (s : σ) : Except ε α × σ := x.run.run s

/-- `try`: the outcome as a value. -/
def attempt (x : Proc σ ε α) : Proc σ ε (Except ε α) := ExceptT.lift x.run

/-- An outcome that is already there. -/
def ofExcept (r : Except ε α) : Proc σ ε α := ExceptT.mk (pure r)

/-- Change the state. -/
def update (f : σ → σ) : Proc σ ε Unit := modify f

/-- A procedure on a part of the state. -/
def zoom (part : σ → τ) (put : σ → τ → σ) (x : Proc τ ε α) : Proc σ ε α :=
  ExceptT.mk fun s => ((x.exec (part s)).1, put s (x.exec (part s)).2)

/-! ## Evaluation -/

@[simp] theorem exec_pure (a : α) (s : σ) : (pure a : Proc σ ε α).exec s = (.ok a, s) := rfl

@[simp] theorem exec_get (s : σ) : (get : Proc σ ε σ).exec s = (.ok s, s) := rfl

@[simp] theorem exec_update (f : σ → σ) (s : σ) :
    (update f : Proc σ ε Unit).exec s = (.ok (), f s) := rfl

@[simp] theorem exec_ofExcept (r : Except ε α) (s : σ) :
    (ofExcept r : Proc σ ε α).exec s = (r, s) := rfl

@[simp] theorem exec_attempt (x : Proc σ ε α) (s : σ) :
    (attempt x).exec s = (.ok (x.exec s).1, (x.exec s).2) := rfl

@[simp] theorem exec_zoom (part : σ → τ) (put : σ → τ → σ) (x : Proc τ ε α) (s : σ) :
    (zoom part put x).exec s = ((x.exec (part s)).1, put s (x.exec (part s)).2) := rfl

theorem exec_bind (x : Proc σ ε α) (f : α → Proc σ ε β) (s : σ) :
    (x >>= f).exec s =
      match x.exec s with
      | (.ok a, t) => (f a).exec t
      | (.error e, t) => (.error e, t) := by
  simp only [exec, ExceptT.run_bind, StateT.run_bind]
  cases h : x.run.run s with
  | mk r t => cases r <;> rfl

/-- Both parts of a sequence return if the sequence does. -/
theorem exec_bind_ok {x : Proc σ ε α} {f : α → Proc σ ε β} {s t : σ} {b : β}
    (h : (x >>= f).exec s = (.ok b, t)) :
    ∃ a u, x.exec s = (.ok a, u) ∧ (f a).exec u = (.ok b, t) := by
  rw [exec_bind] at h
  cases hx : x.exec s with
  | mk r u =>
    rw [hx] at h
    cases r with
    | ok a => exact ⟨a, u, rfl, h⟩
    | error e => cases h

theorem exec_bind_of_ok {x : Proc σ ε α} {f : α → Proc σ ε β} {s t : σ} {a : α}
    (h : x.exec s = (.ok a, t)) : (x >>= f).exec s = (f a).exec t := by
  rw [exec_bind, h]

/-! ## Frames -/

/-- The procedure does not change this part of the state. -/
def Keeps (part : σ → τ) (x : Proc σ ε α) : Prop := ∀ s, part (x.exec s).2 = part s

namespace Keeps

variable {part : σ → τ}

theorem pure (a : α) : Keeps part (Pure.pure a : Proc σ ε α) := fun _ => rfl

theorem throw (e : ε) : Keeps part (MonadExcept.throw e : Proc σ ε α) := fun _ => rfl

theorem ofExcept (r : Except ε α) : Keeps part (Proc.ofExcept r) := fun _ => rfl

theorem attempt {x : Proc σ ε α} (hx : Keeps part x) : Keeps part (Proc.attempt x) := hx

/-- After a first procedure, the rest does not change the part any more. -/
theorem exec_bind {x : Proc σ ε α} {f : α → Proc σ ε β} (hf : ∀ a, Keeps part (f a)) (s : σ) :
    part ((x >>= f).exec s).2 = part (x.exec s).2 := by
  rw [Proc.exec_bind]
  cases x.exec s with
  | mk r t =>
    cases r with
    | ok a => exact hf a t
    | error e => rfl

theorem bind {x : Proc σ ε α} {f : α → Proc σ ε β} (hx : Keeps part x)
    (hf : ∀ a, Keeps part (f a)) : Keeps part (x >>= f) :=
  fun s => (exec_bind hf s).trans (hx s)

end Keeps

/-! ## Triples -/

def Triple (P : σ → Prop) (x : Proc σ ε α) (Q : α → σ → Prop) (E : ε → σ → Prop) : Prop :=
  ∀ s, P s → match x.exec s with
    | (.ok a, t) => Q a t
    | (.error e, t) => E e t

namespace Triple

variable {P P' : σ → Prop} {Q Q' : α → σ → Prop} {R : β → σ → Prop} {E E' : ε → σ → Prop}

theorem ok {x : Proc σ ε α} (h : Triple P x Q E) {s t : σ} {a : α} (hs : P s)
    (hx : x.exec s = (.ok a, t)) : Q a t := by
  have h' := h s hs
  rw [hx] at h'
  exact h'

theorem conseq {x : Proc σ ε α} (h : Triple P x Q E) (hP : ∀ s, P' s → P s)
    (hQ : ∀ a s, Q a s → Q' a s) (hE : ∀ e s, E e s → E' e s) : Triple P' x Q' E' := by
  intro s hs
  have h' := h s (hP s hs)
  cases hx : x.exec s with
  | mk r t =>
    rw [hx] at h'
    cases r with
    | ok a => exact hQ a t h'
    | error e => exact hE e t h'

theorem any (P : σ → Prop) (x : Proc σ ε α) :
    Triple P x (fun _ _ => True) (fun _ _ => True) := by
  intro s _
  split <;> trivial

/-- A fact that does not depend on the state is a hypothesis. -/
theorem assume {p : Prop} {x : Proc σ ε α} (h : p → Triple P x Q E) :
    Triple (fun s => p ∧ P s) x Q E :=
  fun s hs => h hs.1 s hs.2

theorem pure {a : α} (h : ∀ s, P s → Q a s) : Triple P (Pure.pure a : Proc σ ε α) Q E :=
  fun s hs => h s hs

theorem throw {e : ε} (h : ∀ s, P s → E e s) :
    Triple P (MonadExcept.throw e : Proc σ ε α) Q E :=
  fun s hs => h s hs

theorem update {Q : Unit → σ → Prop} {f : σ → σ} (h : ∀ s, P s → Q () (f s)) :
    Triple P (Proc.update f : Proc σ ε Unit) Q E :=
  fun s hs => h s hs

theorem ofExcept {r : Except ε α} (hok : ∀ a, r = .ok a → ∀ s, P s → Q a s)
    (herr : ∀ e, r = .error e → ∀ s, P s → E e s) : Triple P (Proc.ofExcept r) Q E := by
  intro s hs
  cases r with
  | ok a => exact hok a rfl s hs
  | error e => exact herr e rfl s hs

theorem bind {x : Proc σ ε β} {f : β → Proc σ ε α} (hx : Triple P x R E)
    (hf : ∀ b, Triple (R b) (f b) Q E) : Triple P (x >>= f) Q E := by
  intro s hs
  have h := hx s hs
  rw [exec_bind]
  cases he : x.exec s with
  | mk r t =>
    rw [he] at h
    cases r with
    | ok b => exact hf b t h
    | error e => exact h

/-- Nothing is thrown out of `try`. -/
theorem attempt {x : Proc σ ε β} {R' : Except ε β → σ → Prop}
    (hx : Triple P x (fun b => R' (.ok b)) (fun e => R' (.error e))) :
    Triple P (Proc.attempt x) R' E := by
  intro s hs
  have h := hx s hs
  rw [exec_attempt]
  cases he : x.exec s with
  | mk r t =>
    rw [he] at h
    cases r <;> exact h

theorem zoom {part : σ → τ} {put : σ → τ → σ} {x : Proc τ ε α}
    (h : ∀ s, P s → ∀ r t, x.exec (part s) = (r, t) →
      (∀ a, r = .ok a → Q a (put s t)) ∧ ∀ e, r = .error e → E e (put s t)) :
    Triple P (Proc.zoom part put x) Q E := by
  intro s hs
  have h' := h s hs _ _ rfl
  rw [exec_zoom]
  cases hr : (x.exec (part s)).1 with
  | ok a => exact h'.1 a hr
  | error e => exact h'.2 e hr

end Triple

/-! ## Invariants -/

/-- The procedure keeps the invariant, whether it returns or throws. -/
def Preserves (I : σ → Prop) (x : Proc σ ε α) : Prop := Triple I x (fun _ => I) (fun _ => I)

namespace Preserves

variable {I : σ → Prop}

theorem pure (a : α) : Preserves I (Pure.pure a : Proc σ ε α) := Triple.pure fun _ h => h

theorem throw (e : ε) : Preserves I (MonadExcept.throw e : Proc σ ε α) := Triple.throw fun _ h => h

theorem ofExcept (r : Except ε α) : Preserves I (Proc.ofExcept r) :=
  Triple.ofExcept (fun _ _ _ h => h) fun _ _ _ h => h

theorem update {f : σ → σ} (h : ∀ s, I s → I (f s)) :
    Preserves I (Proc.update f : Proc σ ε Unit) :=
  Triple.update h

theorem bind {x : Proc σ ε α} {f : α → Proc σ ε β} (hx : Preserves I x)
    (hf : ∀ a, Preserves I (f a)) : Preserves I (x >>= f) :=
  Triple.bind hx hf

theorem attempt {x : Proc σ ε α} (hx : Preserves I x) : Preserves I (Proc.attempt x) :=
  Triple.attempt hx

theorem zoom {part : σ → τ} {put : σ → τ → σ} {x : Proc τ ε α} (h : ∀ s t, I s → I (put s t)) :
    Preserves I (Proc.zoom part put x) :=
  Triple.zoom fun s hs _ t _ => ⟨fun _ _ => h s t hs, fun _ _ => h s t hs⟩

theorem exec {x : Proc σ ε α} (h : Preserves I x) {s : σ} (hs : I s) : I (x.exec s).2 := by
  have hrun := h s hs
  cases hx : x.exec s with
  | mk r t =>
    rw [hx] at hrun
    cases r with
    | ok a => exact hrun
    | error e => exact hrun

/-- What depends on a part of the state alone is kept with it. -/
theorem of_keeps {part : σ → τ} {x : Proc σ ε α} (h : Keeps part x)
    (hI : ∀ s t, part s = part t → I s → I t) : Preserves I x := by
  intro s hs
  have hpart := h s
  cases hx : x.exec s with
  | mk r t =>
    rw [hx] at hpart
    cases r with
    | ok a => exact hI s t hpart.symm hs
    | error e => exact hI s t hpart.symm hs

end Preserves

end Proc
