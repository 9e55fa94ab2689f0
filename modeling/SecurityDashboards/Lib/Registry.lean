import Mathlib.Data.List.Nodup
import Mathlib.Logic.Function.Basic

/-!
# Registries

A registry keeps a value under each key that was registered, and registers no key twice. Several
keys in a row can be registered exactly if they are new and all different.
-/

/-- A registry, and how its operations show in what it has under each key. -/
structure Registry (κ ν ε : Type) [DecidableEq κ] where
  State : Type
  lookup : State → κ → Option ν
  register : State → κ → ν → Except ε State
  register_taken : ∀ s k v, (lookup s k).isSome = true → ∃ e, register s k v = .error e
  register_free : ∀ s k v, lookup s k = none →
    ∃ s', register s k v = .ok s' ∧ lookup s' = Function.update (lookup s) k (some v)

namespace Registry

variable {κ ν ε : Type} [DecidableEq κ] (r : Registry κ ν ε)

/-- The same value under each of the keys. -/
def registerAll (s : r.State) (keys : List κ) (v : ν) : Except ε r.State :=
  keys.foldlM (fun s k => r.register s k v) s

variable {r} {s s' : r.State} {k : κ} {keys : List κ} {v : ν}

theorem register_ok (h : r.register s k v = .ok s') :
    r.lookup s k = none ∧ r.lookup s' = Function.update (r.lookup s) k (some v) := by
  cases hk : r.lookup s k with
  | some w =>
    obtain ⟨e, he⟩ := r.register_taken s k v (by rw [hk]; rfl)
    rw [he] at h
    cases h
  | none =>
    obtain ⟨t, ht, hlookup⟩ := r.register_free s k v hk
    rw [ht] at h
    cases h
    exact ⟨rfl, hlookup⟩

theorem registerAll_append (keys' : List κ) :
    r.registerAll s (keys ++ keys') v =
      (r.registerAll s keys v).bind fun s => r.registerAll s keys' v :=
  List.foldlM_append

theorem registerAll_cons :
    r.registerAll s (k :: keys) v =
      (r.register s k v).bind fun s => r.registerAll s keys v :=
  List.foldlM_cons

/-- What the registry has afterwards. -/
theorem lookup_registerAll (h : r.registerAll s keys v = .ok s') (key : κ) :
    r.lookup s' key = if key ∈ keys then some v else r.lookup s key := by
  induction keys generalizing s with
  | nil =>
    cases h
    rw [if_neg List.not_mem_nil]
  | cons k keys ih =>
    rw [registerAll_cons] at h
    cases hk : r.register s k v with
    | error e => rw [hk] at h; cases h
    | ok t =>
      rw [hk] at h
      rw [ih h, (register_ok hk).2]
      by_cases hkey : key = k
      · subst hkey
        rw [Function.update_self, if_pos List.mem_cons_self, ite_self]
      · rw [Function.update_of_ne hkey]
        simp only [List.mem_cons, hkey, false_or]

/-- The keys are registered exactly if they are all different and none was registered before. -/
theorem registerAll_isOk_iff :
    (∃ s', r.registerAll s keys v = .ok s') ↔
      keys.Nodup ∧ ∀ key ∈ keys, r.lookup s key = none := by
  induction keys generalizing s with
  | nil => exact iff_of_true ⟨s, rfl⟩ ⟨List.nodup_nil, List.forall_mem_nil _⟩
  | cons k keys ih =>
    rw [registerAll_cons, List.nodup_cons, List.forall_mem_cons]
    cases hk : r.lookup s k with
    | some w =>
      obtain ⟨e, he⟩ := r.register_taken s k v (by rw [hk]; rfl)
      rw [he]
      exact iff_of_false (fun ⟨_, h⟩ => nomatch h) fun h => nomatch h.2.1
    | none =>
      obtain ⟨t, ht, hlookup⟩ := r.register_free s k v hk
      rw [ht]
      refine (ih (s := t)).trans ?_
      rw [hlookup]
      constructor
      · rintro ⟨hnodup, hfree⟩
        have hne : k ∉ keys := by
          intro hmem
          have hupdated := hfree k hmem
          rw [Function.update_self] at hupdated
          cases hupdated
        refine ⟨⟨hne, hnodup⟩, rfl, fun key hmem => ?_⟩
        have hkey : key ≠ k := fun heq => hne (heq ▸ hmem)
        rw [← Function.update_of_ne hkey (some v) (r.lookup s)]
        exact hfree key hmem
      · rintro ⟨⟨hne, hnodup⟩, -, hfree⟩
        refine ⟨hnodup, fun key hmem => ?_⟩
        have hkey : key ≠ k := fun heq => hne (heq ▸ hmem)
        rw [Function.update_of_ne hkey]
        exact hfree key hmem

end Registry
