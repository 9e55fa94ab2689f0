import SecurityDashboards.Lib.Machine
import SecurityDashboards.Lib.Proc

/-!
# Machines in lockstep

Two machines that read the same inputs, and two procedures that run from the same state. What relates
their steps relates their runs.
-/

namespace Machine

variable {ι σ τ ο ο' : Type*}

/-- From related states every step that meets the condition gives related outputs and leads to related
states. -/
def Lockstep (step : ι → σ → ο × σ) (step' : ι → τ → ο' × τ) (C : ι → σ → Prop)
    (R : σ → τ → Prop) (Q : ι → ο → ο' → Prop) : Prop :=
  ∀ i s t, C i s → R s t →
    Q i (step i s).1 (step' i t).1 ∧ R (step i s).2 (step' i t).2

namespace Lockstep

variable {step : ι → σ → ο × σ} {step' : ι → τ → ο' × τ} {C : ι → σ → Prop} {R : σ → τ → Prop}
  {Q : ι → ο → ο' → Prop} {inputs : List ι} {s : σ} {t : τ}

theorem exec (h : Lockstep step step' C R Q) (hC : Meets step C inputs s) (hR : R s t) :
    R (exec step inputs s) (Machine.exec step' inputs t) := by
  induction inputs generalizing s t with
  | nil => exact hR
  | cons i inputs ih => exact ih hC.2 (h i s t hC.1 hR).2

theorem trace (h : Lockstep step step' C R Q) (hC : Meets step C inputs s) (hR : R s t) :
    List.Forall₂ (fun output output' => output.1 = output'.1 ∧ Q output.1 output.2 output'.2)
      (trace step inputs s) (Machine.trace step' inputs t) := by
  induction inputs generalizing s t with
  | nil => exact .nil
  | cons i inputs ih =>
    obtain ⟨houtput, hnext⟩ := h i s t hC.1 hR
    exact .cons ⟨rfl, houtput⟩ (ih hC.2 hnext)

end Lockstep

end Machine

namespace Proc

variable {σ τ ε α β γ : Type}

/-- From every state the procedures have results related by `Q`, and end in the same state. -/
def Agree (Q : Except ε α → Except ε β → Prop) (x : Proc σ ε α) (y : Proc σ ε β) : Prop :=
  ∀ s, Q (x.exec s).1 (y.exec s).1 ∧ (x.exec s).2 = (y.exec s).2

namespace Agree

variable {Q : Except ε α → Except ε β → Prop}

theorem pure {a : α} {b : β} (h : Q (.ok a) (.ok b)) :
    Agree Q (Pure.pure a : Proc σ ε α) (Pure.pure b) :=
  fun _ => ⟨h, rfl⟩

theorem throw {e : ε} (h : Q (.error e) (.error e)) :
    Agree Q (MonadExcept.throw e : Proc σ ε α) (MonadExcept.throw e) :=
  fun _ => ⟨h, rfl⟩

/-- After the same first procedure the rest has to agree on the values that it can return. -/
theorem bind {x : Proc σ ε γ} {f : γ → Proc σ ε α} {g : γ → Proc σ ε β}
    (herror : ∀ e, Q (.error e) (.error e))
    (h : ∀ c s t, x.exec s = (.ok c, t) → Agree Q (f c) (g c)) : Agree Q (x >>= f) (x >>= g) := by
  intro s
  rw [exec_bind, exec_bind]
  cases hx : x.exec s with
  | mk r t =>
    cases r with
    | ok c => exact h c s t hx t
    | error e => exact ⟨herror e, rfl⟩

end Agree

end Proc
