import SecurityDashboards.Lib.PlainObject

/-!
# Proofs: own properties of plain objects

How `delete`, assignment and `Object.assign` act on the names and the values of the own properties.
-/

namespace Js

namespace PlainObject

variable {α : Type}

theorem hasOwn_iff {o : PlainObject α} {k : String} : o.hasOwn k = true ↔ k ∈ o.keys := by
  simp [hasOwn]

theorem has_iff {o : PlainObject α} {k : String} :
    o.has k = true ↔ k ∈ o.keys ∨ k ∈ objectPrototype := by
  simp [has, hasOwn_iff]

theorem lookup_isSome_iff (l : List (String × α)) (k : String) :
    (l.lookup k).isSome = true ↔ k ∈ l.map Prod.fst := by
  induction l with
  | nil => simp
  | cons p l ih =>
    obtain ⟨j, w⟩ := p
    by_cases hk : k = j
    · simp [hk]
    · have hb : (k == j) = false := by simpa using hk
      simp only [List.lookup_cons, hb, ih, List.map_cons, List.mem_cons, hk, false_or]

theorem own_isSome_iff {o : PlainObject α} {k : String} :
    (o.own k).isSome = true ↔ k ∈ o.keys :=
  lookup_isSome_iff o.props k

theorem own_eq_none_iff {o : PlainObject α} {k : String} : o.own k = none ↔ k ∉ o.keys := by
  rw [← own_isSome_iff]; simp

@[simp] theorem keys_empty : (empty : PlainObject α).keys = [] := rfl

@[simp] theorem own_empty (k : String) : (empty : PlainObject α).own k = none := rfl

/-! ## `delete` -/

theorem keys_delete (o : PlainObject α) (k : String) :
    (o.delete k).keys = o.keys.filter (· != k) := by
  simp only [keys, delete, List.filter_map]
  rfl

@[simp] theorem mem_keys_delete {o : PlainObject α} {k k' : String} :
    k' ∈ (o.delete k).keys ↔ k' ∈ o.keys ∧ k' ≠ k := by
  simp [keys_delete]

theorem lookup_eq_some_of_mem {l : List (String × α)} (hnd : (l.map Prod.fst).Nodup) {k : String}
    {v : α} (h : (k, v) ∈ l) : l.lookup k = some v := by
  induction l with
  | nil => cases h
  | cons p l ih =>
    obtain ⟨j, w⟩ := p
    simp only [List.map_cons, List.nodup_cons] at hnd
    rcases List.mem_cons.mp h with h | h
    · cases h
      exact List.lookup_cons_self
    · have hk : k ≠ j := fun hk => hnd.1 (hk ▸ List.mem_map.mpr ⟨(k, v), h, rfl⟩)
      have hb : (k == j) = false := by simpa using hk
      simp only [List.lookup_cons, hb, ih hnd.2 h]

/-- The value of an own property is listed with its name. -/
theorem own_eq_some_iff {o : PlainObject α} {k : String} {v : α} :
    o.own k = some v ↔ (k, v) ∈ o.props := by
  constructor
  · intro h
    obtain ⟨l₁, l₂, hl, -⟩ := List.lookup_eq_some_iff.mp h
    rw [hl]
    simp
  · exact lookup_eq_some_of_mem o.nodup

theorem own_delete (o : PlainObject α) (k k' : String) :
    (o.delete k).own k' = if k' = k then none else o.own k' := by
  by_cases hk : k' = k
  · rw [if_pos hk, own_eq_none_iff, mem_keys_delete]
    exact fun h => h.2 hk
  · rw [if_neg hk]
    refine Option.ext fun v => ?_
    rw [own_eq_some_iff, own_eq_some_iff]
    simp [delete, hk]

/-! ## Assignment -/

theorem lookup_replace (l : List (String × α)) (k k' : String) (v : α) (hk : k ∈ l.map Prod.fst) :
    (l.map fun p => if p.1 = k then (k, v) else p).lookup k' =
      if k' = k then some v else l.lookup k' := by
  induction l with
  | nil => simp at hk
  | cons p l ih =>
    obtain ⟨j, w⟩ := p
    by_cases hj : j = k
    · subst hj
      by_cases hk' : k' = j
      · simp [hk']
      · have hb : (k' == j) = false := by simpa using hk'
        simp only [List.map_cons, if_true, List.lookup_cons, hb, if_neg hk']
        by_cases hm : j ∈ l.map Prod.fst
        · rw [ih hm, if_neg hk']
        · have hid : (l.map fun p => if p.1 = j then (j, v) else p) = l := by
            refine (List.map_congr_left fun q hq => ?_).trans (List.map_id l)
            have hqj : q.1 ≠ j := fun h => hm (List.mem_map.mpr ⟨q, hq, h⟩)
            simp [hqj]
          rw [hid]
    · have hm : k ∈ l.map Prod.fst := by
        simp only [List.map_cons, List.mem_cons] at hk
        exact hk.resolve_left (fun h => hj h.symm)
      simp only [List.map_cons, if_neg hj, List.lookup_cons]
      by_cases hk' : k' = j
      · subst hk'
        simp [hj]
      · have hb : (k' == j) = false := by simpa using hk'
        simp only [hb, ih hm]

theorem lookup_append_single (l : List (String × α)) (k k' : String) (v : α)
    (hk : k ∉ l.map Prod.fst) :
    (l ++ [(k, v)]).lookup k' = if k' = k then some v else l.lookup k' := by
  induction l with
  | nil =>
    by_cases hk' : k' = k
    · simp [hk']
    · have hb : (k' == k) = false := by simpa using hk'
      simp [List.lookup_cons, hb, hk']
  | cons p l ih =>
    obtain ⟨j, w⟩ := p
    simp only [List.map_cons, List.mem_cons, not_or] at hk
    simp only [List.cons_append, List.lookup_cons]
    by_cases hp : k' = j
    · have hne : k' ≠ k := fun h => hk.1 (h ▸ hp)
      simp [hp, hp ▸ hne]
    · have hb : (k' == j) = false := by simpa using hp
      simp only [hb, ih hk.2]

theorem own_put (o : PlainObject α) (k k' : String) (v : α) :
    (o.put k v).own k' = if k' = k then some v else o.own k' := by
  simp only [own, put]
  split
  · rename_i hk
    exact lookup_replace o.props k k' v (hasOwn_iff.mp hk)
  · rename_i hk
    exact lookup_append_single o.props k k' v (fun h => hk (hasOwn_iff.mpr h))

end PlainObject

namespace Assigned

variable {α : Type}

theorem ext_props {o o' : Assigned α} (h : o.props = o'.props) : o = o' := by
  cases o with
  | mk p hp =>
    cases o' with
    | mk p' hp' => simp only [mk.injEq]; exact PlainObject.ext h

@[simp] theorem own_empty (k : String) : (empty : Assigned α).own k = none := rfl

theorem own_set (o : Assigned α) (k k' : String) (v : α) :
    (o.set k v).own k' = if k' = k ∧ k ≠ "__proto__" then some v else o.own k' := by
  unfold set
  split
  · rename_i hk; simp [hk]
  · rename_i hk; simp [hk, PlainObject.own_put]

@[simp] theorem own_set_self {o : Assigned α} {k : String} {v : α} (hk : k ≠ "__proto__") :
    (o.set k v).own k = some v := by simp [own_set, hk]

theorem own_set_ne {o : Assigned α} {k k' : String} {v : α} (hk : k' ≠ k) :
    (o.set k v).own k' = o.own k' := by simp [own_set, hk]

theorem own_remove (o : Assigned α) (k k' : String) :
    (o.remove k).own k' = if k' = k then none else o.own k' :=
  PlainObject.own_delete o.toPlainObject k k'

theorem own_filterValues (o : Assigned α) (f : α → Bool) (k : String) :
    (o.filterValues f).own k = (o.own k).filter f := by
  refine Option.ext fun v => ?_
  rw [PlainObject.own_eq_some_iff, Option.filter_eq_some_iff, PlainObject.own_eq_some_iff]
  simp [filterValues]

/-- An own property is never called `__proto__`. -/
theorem own_proto (o : Assigned α) : o.own "__proto__" = none :=
  PlainObject.own_eq_none_iff.mpr o.noProto

/-- Copying the properties one after the other appends those that are new. -/
theorem props_foldl_set (l : List (String × α)) (o : Assigned α)
    (hnd : (o.keys ++ l.map Prod.fst).Nodup) (hp : "__proto__" ∉ l.map Prod.fst) :
    (l.foldl (fun o p => o.set p.1 p.2) o).props = o.props ++ l := by
  induction l generalizing o with
  | nil => simp
  | cons p l ih =>
    simp only [List.map_cons, List.mem_cons, not_or] at hp
    have hpo : p.1 ∉ o.keys := by
      have h := (List.nodup_append.mp hnd).2.2
      exact fun hm => h p.1 hm p.1 (by simp) rfl
    have hset : (o.set p.1 p.2).props = o.props ++ [p] := by
      have hne : ¬ p.1 = "__proto__" := fun h => hp.1 h.symm
      have hno : o.hasOwn p.1 = false := by
        simpa [PlainObject.hasOwn] using hpo
      simp [set, hne, PlainObject.put, hno]
    have hkeys : (o.set p.1 p.2).keys = o.keys ++ [p.1] := by simp [PlainObject.keys, hset]
    rw [List.foldl_cons, ih _ (by rw [hkeys]; simpa using hnd) hp.2, hset]
    simp

/-- `Object.assign({}, source)` copies the source. -/
theorem assign_empty (source : Assigned α) : empty.assign source = source := by
  refine ext_props ?_
  have h := props_foldl_set source.props empty (by simpa [empty] using source.nodup) source.noProto
  simpa [assign, empty, PlainObject.empty] using h

theorem remove_set (o : Assigned α) (k : String) (v : α) : (o.set k v).remove k = o.remove k := by
  refine ext_props ?_
  unfold set
  split
  · rfl
  · simp only [remove, PlainObject.delete, PlainObject.put]
    split
    · rw [List.filter_map]
      have hfil : ((fun p : String × α => p.1 != k) ∘ fun p => if p.1 = k then (k, v) else p) =
          fun p => p.1 != k := by
        funext p
        by_cases hp : p.1 = k <;> simp [hp]
      rw [hfil]
      refine (List.map_congr_left fun p hp => ?_).trans (List.map_id _)
      have hpk : p.1 ≠ k := by simpa using (List.mem_filter.mp hp).2
      simp [hpk]
    · simp

end Assigned

end Js
