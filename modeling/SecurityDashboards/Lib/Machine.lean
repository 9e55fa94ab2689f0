import Mathlib.Data.List.Basic
import Mathlib.Data.List.Induction

/-!
# Machines with outputs

A machine reads a list of inputs. Each step gives an output and the next state. `exec` is the state
after a list of inputs, `trace` lists every input together with the output it got.
-/

namespace Machine

variable {ι σ ο : Type*} (step : ι → σ → ο × σ)

/-- The state after the inputs. -/
def exec : List ι → σ → σ
  | [], s => s
  | i :: inputs, s => exec inputs (step i s).2

/-- Every input with its output. -/
def trace : List ι → σ → List (ι × ο)
  | [], _ => []
  | i :: inputs, s => (i, (step i s).1) :: trace inputs (step i s).2

/-- Every step of the run meets the condition `C`, which reads the input and the state before it. -/
def Meets (C : ι → σ → Prop) : List ι → σ → Prop
  | [], _ => True
  | i :: inputs, s => C i s ∧ Meets C inputs (step i s).2

variable {step}

@[simp] theorem exec_nil (s : σ) : exec step [] s = s := rfl

@[simp] theorem exec_cons (i : ι) (inputs : List ι) (s : σ) :
    exec step (i :: inputs) s = exec step inputs (step i s).2 := rfl

theorem exec_append (earlier later : List ι) (s : σ) :
    exec step (earlier ++ later) s = exec step later (exec step earlier s) := by
  induction earlier generalizing s with
  | nil => rfl
  | cons i earlier ih => exact ih (step i s).2

theorem meets_append {C : ι → σ → Prop} {earlier later : List ι} {s : σ} :
    Meets step C (earlier ++ later) s ↔
      Meets step C earlier s ∧ Meets step C later (exec step earlier s) := by
  induction earlier generalizing s with
  | nil => simp [Meets]
  | cons i earlier ih => rw [List.cons_append, Meets, Meets, ih, exec_cons, and_assoc]

/-- A run meets a condition if every step does, in the state that it starts from. -/
theorem meets_iff {C : ι → σ → Prop} {inputs : List ι} {s : σ} :
    Meets step C inputs s ↔
      ∀ earlier i later, inputs = earlier ++ i :: later → C i (exec step earlier s) := by
  constructor
  · rintro h earlier i later rfl
    exact (meets_append.mp h).2.1
  · intro h
    induction inputs generalizing s with
    | nil => exact trivial
    | cons i inputs ih =>
      refine ⟨h [] i inputs rfl, ih fun earlier j later heq => ?_⟩
      exact h (i :: earlier) j later (by rw [heq, List.cons_append])

/-- An output of a trace is the output of one step, taken after the inputs before it. -/
theorem mem_trace_iff {inputs : List ι} {s : σ} {i : ι} {o : ο} :
    (i, o) ∈ trace step inputs s ↔
      ∃ earlier later, inputs = earlier ++ i :: later ∧ o = (step i (exec step earlier s)).1 := by
  induction inputs generalizing s with
  | nil => simp [trace]
  | cons j inputs ih =>
    simp only [trace, List.mem_cons, Prod.mk.injEq, ih]
    constructor
    · rintro (⟨rfl, rfl⟩ | ⟨earlier, later, rfl, rfl⟩)
      · exact ⟨[], inputs, rfl, rfl⟩
      · exact ⟨j :: earlier, later, rfl, rfl⟩
    · rintro ⟨earlier, later, h, rfl⟩
      cases earlier with
      | nil =>
        simp only [List.nil_append, List.cons.injEq] at h
        obtain ⟨rfl, -⟩ := h
        exact Or.inl ⟨rfl, rfl⟩
      | cons k earlier =>
        simp only [List.cons_append, List.cons.injEq] at h
        obtain ⟨rfl, rfl⟩ := h
        exact Or.inr ⟨earlier, later, rfl, rfl⟩

/-- The output at an index of a trace is that of the input there, taken after the inputs before it. -/
theorem getElem?_trace_eq_some {inputs : List ι} {s : σ} {n : ℕ} {i : ι} {o : ο} :
    (trace step inputs s)[n]? = some (i, o) ↔
      inputs[n]? = some i ∧ o = (step i (exec step (inputs.take n) s)).1 := by
  induction inputs generalizing s n with
  | nil => simp [trace]
  | cons j inputs ih =>
    cases n with
    | zero =>
      simp only [trace, List.getElem?_cons_zero, Option.some.injEq, Prod.mk.injEq, List.take_zero,
        exec_nil]
      constructor
      · rintro ⟨rfl, rfl⟩
        exact ⟨rfl, rfl⟩
      · rintro ⟨rfl, rfl⟩
        exact ⟨rfl, rfl⟩
    | succ n => simp only [trace, List.getElem?_cons_succ, ih, List.take_succ_cons, exec_cons]

/-- The outputs of a run are as wanted exactly if every step meets the condition, when that is so for
each step from a state with the invariant. -/
theorem trace_iff_meets {C : ι → σ → Prop} {P : ι → ο → Prop} (Inv : σ → Prop)
    (hkeeps : ∀ i s, Inv s → Inv (step i s).2)
    (hstep : ∀ i s, Inv s → (P i (step i s).1 ↔ C i s)) (inputs : List ι) {s : σ} (hs : Inv s) :
    (∀ output ∈ trace step inputs s, P output.1 output.2) ↔ Meets step C inputs s := by
  induction inputs generalizing s with
  | nil => simp [trace, Meets]
  | cons i inputs ih =>
    rw [trace, List.forall_mem_cons, Meets, hstep i s hs, ih (hkeeps i s hs)]

/-- A property of the inputs so far and the state holds all along a run exactly if every step meets the
condition, when it holds at first and the condition says which steps preserve it. -/
theorem history_iff_meets {C : ι → σ → Prop} {P : List ι → σ → Prop} {inputs : List ι} {s : σ}
    (hfirst : P [] s)
    (hstep : ∀ earlier i, earlier ++ [i] <+: inputs → ∀ s, P earlier s →
      (P (earlier ++ [i]) (step i s).2 ↔ C i s)) :
    (∀ earlier, earlier <+: inputs → P earlier (exec step earlier s)) ↔ Meets step C inputs s := by
  induction inputs using List.reverseRecOn with
  | nil =>
    refine iff_of_true (fun earlier hearlier => ?_) trivial
    rw [List.prefix_nil.mp hearlier]
    exact hfirst
  | append_singleton inputs i ih =>
    have hbefore := ih fun earlier j hearlier =>
      hstep earlier j (hearlier.trans (List.prefix_append inputs [i]))
    have hlast := hstep inputs i List.prefix_rfl (exec step inputs s)
    rw [meets_append, Meets, ← hbefore]
    constructor
    · intro h
      have hinputs : ∀ earlier, earlier <+: inputs → P earlier (exec step earlier s) :=
        fun earlier hearlier => h earlier (hearlier.trans (List.prefix_append inputs [i]))
      have hwhole := h (inputs ++ [i]) List.prefix_rfl
      rw [exec_append] at hwhole
      exact ⟨hinputs, (hlast (hinputs inputs List.prefix_rfl)).mp hwhole, trivial⟩
    · rintro ⟨hinputs, hC, -⟩ earlier hearlier
      rcases List.prefix_concat_iff.mp hearlier with rfl | hearlier
      · rw [exec_append]
        exact (hlast (hinputs inputs List.prefix_rfl)).mpr hC
      · exact hinputs earlier hearlier

/-- A property holds in all states of a run exactly if it holds in the first one and every step meets
the condition, when the condition says which steps preserve the property. -/
theorem states_iff_meets {C : ι → σ → Prop} {P : σ → Prop}
    (hstep : ∀ i s, P s → (P (step i s).2 ↔ C i s)) {inputs : List ι} {s : σ} :
    (∀ earlier, earlier <+: inputs → P (exec step earlier s)) ↔ P s ∧ Meets step C inputs s := by
  by_cases hs : P s
  · rw [and_iff_right hs]
    exact history_iff_meets (P := fun _ s => P s) hs fun _ i _ s => hstep i s
  · exact iff_of_false (fun h => hs (h [] List.nil_prefix)) fun h => hs h.1

/-- What every step preserves holds after every run. -/
theorem exec_invariant (Inv : σ → Prop) (hstep : ∀ i s, Inv s → Inv (step i s).2)
    (inputs : List ι) {s : σ} (hs : Inv s) : Inv (exec step inputs s) := by
  induction inputs generalizing s with
  | nil => exact hs
  | cons i inputs ih => exact ih (hstep i s hs)

/-- What every step preserves under a condition holds after every run whose steps meet it. -/
theorem exec_of_meets {C : ι → σ → Prop} (Inv : σ → Prop)
    (hstep : ∀ i s, C i s → Inv s → Inv (step i s).2) {inputs : List ι} {s : σ}
    (hC : Meets step C inputs s) (hs : Inv s) : Inv (exec step inputs s) := by
  induction inputs generalizing s with
  | nil => exact hs
  | cons i inputs ih => exact ih hC.2 (hstep i s hC.1 hs)

/-- What the outputs of the steps of such a run have in common. -/
theorem trace_of_meets {C : ι → σ → Prop} {P : ι → ο → Prop} (Inv : σ → Prop)
    (hstep : ∀ i s, C i s → Inv s → P i (step i s).1 ∧ Inv (step i s).2) {inputs : List ι} {s : σ}
    (hC : Meets step C inputs s) (hs : Inv s) :
    ∀ output ∈ trace step inputs s, P output.1 output.2 := by
  induction inputs generalizing s with
  | nil => intro output h; cases h
  | cons i inputs ih =>
    obtain ⟨houtput, hkeeps⟩ := hstep i s hC.1 hs
    exact List.forall_mem_cons.mpr ⟨houtput, ih hC.2 hkeeps⟩

/-! ## Resets -/

/-- What the latest input that resets the machine resets it to, and the inputs after it. -/
def since {δ : Type*} (reset : ι → Option δ) (first : δ) (inputs : List ι) : δ × List ι :=
  inputs.foldl (fun latest i =>
    match reset i with
    | some d => (d, [])
    | none => (latest.1, latest.2 ++ [i])) (first, [])

theorem since_append_singleton {δ : Type*} (reset : ι → Option δ) (first : δ) (inputs : List ι)
    (i : ι) :
    since reset first (inputs ++ [i]) =
      match reset i with
      | some d => (d, [])
      | none => ((since reset first inputs).1, (since reset first inputs).2 ++ [i]) := by
  rw [since, List.foldl_append]
  rfl

/-- Only the inputs since the latest reset matter. -/
theorem exec_since {δ : Type*} {reset : ι → Option δ} {start : δ → σ}
    (hreset : ∀ i s d, reset i = some d → (step i s).2 = start d) (first : δ) (inputs : List ι) :
    exec step inputs (start first) =
      exec step (since reset first inputs).2 (start (since reset first inputs).1) := by
  induction inputs using List.reverseRecOn with
  | nil => rfl
  | append_singleton inputs i ih =>
    rw [exec_append, ih, since_append_singleton]
    cases hi : reset i with
    | none => exact (exec_append _ [i] _).symm
    | some d => exact hreset i _ d hi

end Machine
