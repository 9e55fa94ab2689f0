import SecurityDashboards.TenantPicks
import SecurityDashboards.Proofs.PlainObjectProofs

/-!
# Proofs: `resolve` returns what is picked

`resolve_eq_some_iff` characterises every tenant that `resolve` returns by the picks of
`SecurityDashboards.TenantPicks`.
-/

namespace SecurityDashboards

namespace Resolution

variable {toLowerCase : String → String} {i : Resolution}

/-- No name is a spelling of both the global and the private tenant. -/
theorem not_private_of_global {x : String} (h : GLOBAL_TENANTS.contains x = true) :
    PRIVATE_TENANTS.contains x = false := by
  simp only [GLOBAL_TENANTS, List.contains_cons, List.contains_nil, Bool.or_false,
    Bool.or_eq_true, beq_iff_eq] at h
  rcases h with rfl | rfl | rfl <;> decide

theorem aliasOf_eq_some {x t : String} (h : i.aliasOf x = some t) :
    (t = GLOBAL_TENANT_SYMBOL ∧ i.globalTenantEnabled = true) ∨
      (t = PRIVATE_TENANT_SYMBOL ∧ i.privateEnabled = true ∧
        i.availableTenants.has i.username = true) := by
  unfold aliasOf at h
  split at h
  · rename_i hg
    simp only [Bool.and_eq_true] at hg
    exact Or.inl ⟨(Option.some.inj h).symm, hg.1⟩
  · split at h
    · rename_i hp
      simp only [Bool.and_eq_true] at hp
      exact Or.inr ⟨(Option.some.inj h).symm, hp.1.1, hp.2⟩
    · cases h

/-- The requested tenant: a raw name comes before an alias. -/
theorem resolveRequested_eq (r : String) :
    resolveRequested i.username r i.availableTenants i.globalTenantEnabled i.privateEnabled =
      if i.availableTenants.has r then some r else i.aliasOf r := by
  unfold resolveRequested aliasOf
  by_cases hr : i.availableTenants.has r = true
  · simp [hr]
  · simp only [hr]
    by_cases hg : GLOBAL_TENANTS.contains r = true
    · have hp : PRIVATE_TENANTS.contains r = false := not_private_of_global hg
      simp only [hg, hp, Bool.and_false, Bool.and_true, Bool.false_and]
      simp
    · simp only [Bool.and_right_comm, hg]
      simp

/-- One round of the loop over the preferred tenants: an alias comes before a raw name. -/
theorem resolvePreferred_cons (e : String) (l : List String) :
    resolvePreferred toLowerCase i.username i.availableTenants i.globalTenantEnabled
        i.privateEnabled (e :: l) =
      match i.aliasOf (toLowerCase e) with
      | some t => some t
      | none =>
        if i.availableTenants.has (toLowerCase e) then some (toLowerCase e)
        else resolvePreferred toLowerCase i.username i.availableTenants i.globalTenantEnabled
          i.privateEnabled l := by
  simp only [resolvePreferred, aliasOf]
  split
  · rfl
  · split <;> rfl

theorem resolvePreferred_eq (toLowerCase : String → String) (i : Resolution) (l : List String) :
    resolvePreferred toLowerCase i.username i.availableTenants i.globalTenantEnabled
        i.privateEnabled l =
      ((l.map toLowerCase).find? i.usable).map fun x => (i.aliasOf x).getD x := by
  induction l with
  | nil => rfl
  | cons e l ih =>
    rw [resolvePreferred_cons, List.map_cons, List.find?_cons, ih]
    cases hal : i.aliasOf (toLowerCase e) with
    | some a => simp [usable, hal]
    | none =>
      by_cases he : i.availableTenants.has (toLowerCase e) = true <;> simp [usable, hal, he]

theorem requested_bind_eq :
    (i.requestedTenant.bind fun r =>
      resolveRequested i.username r i.availableTenants i.globalTenantEnabled i.privateEnabled) =
      i.requestedTenant.bind fun r =>
        if i.availableTenants.has r then some r else i.aliasOf r := by
  simp only [resolveRequested_eq]

/-- The fallback, once neither the requested nor a preferred tenant is usable. -/
def fallback (i : Resolution) : Except JsError (Option String) :=
  if i.globalTenantEnabled then .ok (some GLOBAL_TENANT_SYMBOL)
  else if i.privateEnabled then .ok (some PRIVATE_TENANT_SYMBOL)
  else firstAvailableTenant i.otherTenants

/-- `resolve` without multitenancy. -/
theorem result_of_disabled (hm : truthyFlag i.multitenancyEnabled = false) :
    i.result toLowerCase =
      .ok (if i.globalTenantEnabled then some GLOBAL_TENANT_SYMBOL else none) := by
  unfold result resolve
  cases hg : i.globalTenantEnabled <;> simp [hm]

/-- `resolve` when every tenant is disabled and no other one is listed. -/
theorem result_of_no_tenant (hg : i.globalTenantEnabled = false) (hp : i.privateEnabled = false)
    (hk : i.otherTenants.keys = []) : i.result toLowerCase = .ok none := by
  have hp' : truthyFlag i.privateTenantEnabled = false := hp
  have hk' : (i.availableTenants.delete i.username).keys = [] := hk
  simp [result, resolve, hg, hp', hk']

/-- `resolve` in terms of the picks. -/
theorem result_of_active (ha : i.Active) :
    i.result toLowerCase =
      match i.requestedTenant.bind fun r =>
          if i.availableTenants.has r then some r else i.aliasOf r with
      | some t => .ok (some t)
      | none =>
        match i.firstUsable toLowerCase with
        | some x => .ok (some ((i.aliasOf x).getD x))
        | none => i.fallback := by
  obtain ⟨hm, ht⟩ := ha
  have hactive : (!i.globalTenantEnabled && !i.privateEnabled &&
      i.otherTenants.keys.isEmpty) = false := by
    rcases ht with h | h | h
    · simp [h]
    · simp [h]
    · simp [h]
  have hpref := resolvePreferred_eq toLowerCase i (i.preferredTenants.getD [])
  have hreq := requested_bind_eq (i := i)
  unfold privateEnabled at hactive hpref hreq
  unfold otherTenants at hactive
  unfold result resolve
  simp only [hactive, hm, hpref, hreq]
  simp only [Bool.false_eq_true, if_false, Bool.not_true]
  unfold firstUsable fallback
  cases i.requestedTenant.bind fun r =>
      if i.availableTenants.has r then some r else i.aliasOf r with
  | some t => rfl
  | none =>
    cases ((i.preferredTenants.getD []).map toLowerCase).find? i.usable with
    | some x => rfl
    | none => rfl

theorem requested_bind_eq_none :
    (i.requestedTenant.bind fun r =>
      if i.availableTenants.has r then some r else i.aliasOf r) = none ↔ i.RequestUnusable := by
  unfold RequestUnusable usable
  cases i.requestedTenant with
  | none => simp
  | some r => by_cases hr : i.availableTenants.has r = true <;> simp [hr]

theorem requested_bind_eq_some {t : String} :
    (i.requestedTenant.bind fun r =>
      if i.availableTenants.has r then some r else i.aliasOf r) = some t ↔
      (i.requestedTenant = some t ∧ i.availableTenants.has t = true) ∨
        ∃ r, i.requestedTenant = some r ∧ i.availableTenants.has r = false ∧
          i.aliasOf r = some t := by
  cases i.requestedTenant with
  | none => simp
  | some r =>
    by_cases hr : i.availableTenants.has r = true
    · simp only [Option.bind_some, hr, if_true, Option.some.injEq]
      constructor
      · rintro rfl; exact Or.inl ⟨rfl, hr⟩
      · rintro (⟨h, -⟩ | ⟨r', rfl, hr', -⟩)
        · exact h
        · rw [hr] at hr'; cases hr'
    · simp only [Option.bind_some, hr, if_false, Option.some.injEq, Bool.false_eq_true]
      constructor
      · intro h; exact Or.inr ⟨r, rfl, by simpa using hr, h⟩
      · rintro (⟨rfl, h⟩ | ⟨r', rfl, -, h⟩)
        · exact absurd h hr
        · exact h

/-- A usable request leaves nothing to the later stages. -/
theorem not_requestUnusable {t : String}
    (h : (i.requestedTenant = some t ∧ i.availableTenants.has t = true) ∨
      ∃ r, i.requestedTenant = some r ∧ i.availableTenants.has r = false ∧
        i.aliasOf r = some t) : ¬ i.RequestUnusable := by
  intro hu
  rw [← requested_bind_eq_none, requested_bind_eq_some.mpr h] at hu
  cases hu

/-- The tenant that an active resolution returns is picked raw, picked by alias, or the fallback. -/
theorem result_eq_some_iff (ha : i.Active) {t : String} :
    i.result toLowerCase = .ok (some t) ↔
      i.RawPick toLowerCase t ∨ i.AliasPick toLowerCase t ∨
        (i.NoPick toLowerCase ∧ i.fallback = .ok (some t)) := by
  rw [result_of_active ha]
  unfold RawPick AliasPick NoPick
  cases hreq : i.requestedTenant.bind fun r =>
      if i.availableTenants.has r then some r else i.aliasOf r with
  | some s =>
    have hs := requested_bind_eq_some.mp hreq
    have hnu := not_requestUnusable hs
    simp only [Except.ok.injEq, Option.some.injEq, hnu, false_and, or_false]
    rw [← requested_bind_eq_some, hreq, Option.some.injEq]
  | none =>
    have hu := requested_bind_eq_none.mp hreq
    have hno : ¬ ((i.requestedTenant = some t ∧ i.availableTenants.has t = true) ∨
        ∃ r, i.requestedTenant = some r ∧ i.availableTenants.has r = false ∧
          i.aliasOf r = some t) := fun h => not_requestUnusable h hu
    obtain ⟨hno1, hno2⟩ := not_or.mp hno
    simp only [hno1, hno2, hu, true_and, false_or]
    cases hx : i.firstUsable toLowerCase with
    | some x =>
      simp only [Except.ok.injEq, Option.some.injEq]
      cases hal : i.aliasOf x with
      | some a =>
        simp only [Option.getD_some, exists_eq_left', hal, Option.some.injEq, reduceCtorEq,
          false_and, or_false]
        constructor
        · rintro rfl; exact Or.inr rfl
        · rintro (⟨rfl, h⟩ | h)
          · rw [hal] at h; cases h
          · exact h
      | none =>
        simp only [Option.getD_none, exists_eq_left', hal, reduceCtorEq, false_and, or_false]
        constructor
        · rintro rfl; exact ⟨rfl, hal⟩
        · exact fun h => h.1
    | none => simp

/-! ## The four kinds of result -/

theorem result_raw (ha : i.Active) {k : String} (h : i.RawPick toLowerCase k) :
    i.result toLowerCase = .ok (some k) :=
  (result_eq_some_iff ha).mpr (Or.inl h)

theorem result_global (ha : i.Active) (h : i.GlobalPick toLowerCase) :
    i.result toLowerCase = .ok (some GLOBAL_TENANT_SYMBOL) := by
  rw [result_eq_some_iff ha]
  rcases h with h | ⟨hno, hg⟩
  · exact Or.inr (Or.inl h)
  · exact Or.inr (Or.inr ⟨hno, by simp [fallback, hg]⟩)

theorem result_private (ha : i.Active) (h : i.PrivatePick toLowerCase) :
    i.result toLowerCase = .ok (some PRIVATE_TENANT_SYMBOL) := by
  rw [result_eq_some_iff ha]
  rcases h with h | ⟨hno, hg, hp⟩
  · exact Or.inr (Or.inl h)
  · exact Or.inr (Or.inr ⟨hno, by simp [fallback, hg, hp]⟩)

theorem result_first (ha : i.Active) (h : i.FirstPick toLowerCase) {t : String}
    (ht : firstAvailableTenant i.otherTenants = .ok (some t)) :
    i.result toLowerCase = .ok (some t) := by
  obtain ⟨hno, hg, hp⟩ := h
  rw [result_eq_some_iff ha]
  exact Or.inr (Or.inr ⟨hno, by simp [fallback, hg, hp, ht]⟩)

/-- What an active resolution returns: a raw name, the global tenant, the private tenant or the
first custom tenant. -/
theorem result_cases (ha : i.Active) {t : String} (h : i.result toLowerCase = .ok (some t)) :
    i.RawPick toLowerCase t ∨
      (t = GLOBAL_TENANT_SYMBOL ∧ i.globalTenantEnabled = true ∧ i.GlobalPick toLowerCase) ∨
      (t = PRIVATE_TENANT_SYMBOL ∧ i.privateEnabled = true ∧ i.PrivatePick toLowerCase) ∨
      (i.FirstPick toLowerCase ∧ firstAvailableTenant i.otherTenants = .ok (some t)) := by
  rcases (result_eq_some_iff ha).mp h with h | h | ⟨hno, hf⟩
  · exact Or.inl h
  · have hal : (t = GLOBAL_TENANT_SYMBOL ∧ i.globalTenantEnabled = true) ∨
        (t = PRIVATE_TENANT_SYMBOL ∧ i.privateEnabled = true ∧
          i.availableTenants.has i.username = true) := by
      rcases h with ⟨r, -, -, hr⟩ | ⟨-, x, -, hx⟩
      · exact aliasOf_eq_some hr
      · exact aliasOf_eq_some hx
    rcases hal with ⟨rfl, hg⟩ | ⟨rfl, hp, -⟩
    · exact Or.inr (Or.inl ⟨rfl, hg, Or.inl h⟩)
    · exact Or.inr (Or.inr (Or.inl ⟨rfl, hp, Or.inl h⟩))
  · unfold fallback at hf
    cases hg : i.globalTenantEnabled with
    | true =>
      simp only [hg, if_true, Except.ok.injEq, Option.some.injEq] at hf
      exact Or.inr (Or.inl ⟨hf.symm, rfl, Or.inr ⟨hno, hg⟩⟩)
    | false =>
      cases hp : i.privateEnabled with
      | true =>
        simp only [hg, hp, if_true, Except.ok.injEq, Option.some.injEq, Bool.false_eq_true,
          if_false] at hf
        exact Or.inr (Or.inr (Or.inl ⟨hf.symm, rfl, Or.inr ⟨hno, hg, hp⟩⟩))
      | false =>
        simp only [hg, hp, Bool.false_eq_true, if_false] at hf
        exact Or.inr (Or.inr (Or.inr ⟨⟨hno, hg, hp⟩, hf⟩))

/-- A raw pick is found in the tenants object, as an own or as an inherited name. -/
theorem has_of_rawPick {k : String} (h : i.RawPick toLowerCase k) :
    i.availableTenants.has k = true := by
  rcases h with ⟨-, h⟩ | ⟨-, hx, hal⟩
  · exact h
  · have hu : i.usable k = true := List.find?_some hx
    simpa [usable, hal] using hu

/-- Without an active resolution nothing or the enabled global tenant is returned. -/
theorem result_of_not_active (ha : ¬ i.Active) {t : String}
    (h : i.result toLowerCase = .ok (some t)) :
    truthyFlag i.multitenancyEnabled = false ∧ t = GLOBAL_TENANT_SYMBOL ∧
      i.globalTenantEnabled = true := by
  cases hm : truthyFlag i.multitenancyEnabled with
  | false =>
    rw [result_of_disabled hm] at h
    cases hg : i.globalTenantEnabled with
    | true =>
      simp only [hg, if_true, Except.ok.injEq, Option.some.injEq] at h
      exact ⟨rfl, h.symm, rfl⟩
    | false => simp [hg] at h
  | true =>
    simp only [Active, hm, true_and, not_or, Bool.not_eq_true, ne_eq, not_not] at ha
    rw [result_of_no_tenant ha.1 ha.2.1 ha.2.2] at h
    cases h

/-! ## Requesting a tenant -/

/-- The same resolution with another request. -/
def requesting (i : Resolution) (t : String) : Resolution := { i with requestedTenant := some t }

theorem result_requesting_name (ha : i.Active) {x t : String}
    (h : (if i.availableTenants.has x then some x else i.aliasOf x) = some t) :
    (i.requesting x).result toLowerCase = .ok (some t) := by
  have ha' : (i.requesting x).Active := ha
  have hpicked : ((i.requesting x).requestedTenant.bind fun r =>
      if (i.requesting x).availableTenants.has r then some r else (i.requesting x).aliasOf r) =
        some t := h
  rw [result_of_active ha', hpicked]

/-- A name that is found, or that is the tenant it stands for, resolves to itself. -/
theorem result_requesting (ha : i.Active) {t : String}
    (h : i.availableTenants.has t = true ∨ i.aliasOf t = some t) :
    (i.requesting t).result toLowerCase = .ok (some t) := by
  refine result_requesting_name ha ?_
  rcases h with h | h
  · rw [if_pos h]
  · rw [h, ite_self]

theorem aliasOf_self {x t : String} (h : i.aliasOf x = some t) : i.aliasOf t = some t := by
  unfold aliasOf
  rcases aliasOf_eq_some h with ⟨rfl, hg⟩ | ⟨rfl, hp, huser⟩
  · simp [hg, GLOBAL_TENANTS]
  · have hno : GLOBAL_TENANTS.contains PRIVATE_TENANT_SYMBOL = false := by decide
    have hyes : PRIVATE_TENANTS.contains PRIVATE_TENANT_SYMBOL = true := by decide
    simp only [hp, huser, hno, hyes, Bool.and_false, Bool.and_true, Bool.false_eq_true, if_false,
      if_true]

end Resolution

/-! ## The first available tenant -/

/-- `firstAvailableTenant` returns `global_tenant` only when there is nothing else. -/
theorem firstAvailableTenant_eq_some_iff {o : Tenants} {t : String} :
    firstAvailableTenant o = .ok (some t) ↔
      ¬ FallbackThrows o ∧
        ((t ≠ globalTenantName ∧ (o.keys.filter (· != globalTenantName)).head? = some t) ∨
          (t = globalTenantName ∧ o.keys = [globalTenantName])) := by
  unfold firstAvailableTenant FallbackThrows
  by_cases hlen : o.keys.length > 1
  · have hkeys : o.keys ≠ [globalTenantName] := fun h => by simp [h] at hlen
    simp only [hlen, if_true, true_and]
    by_cases hthrow : o.hasOwn "hasOwnProperty" = true
    · simp [hthrow]
    · simp only [hthrow, Bool.false_eq_true, if_false, not_false_eq_true, true_and, hkeys,
        and_false, or_false]
      have hhead : ∀ s, (o.keys.filter (· != globalTenantName)).head? = some s →
          s ≠ globalTenantName := by
        intro s hs
        simpa using (List.mem_filter.mp (List.mem_of_mem_head? hs)).2
      by_cases hglobal : o.hasOwn globalTenantName = true
      · simp only [hglobal, if_true, Js.PlainObject.keys_delete, Except.ok.injEq]
        exact ⟨fun h => ⟨hhead t h, h⟩, fun h => h.2⟩
      · have hfil : o.keys.filter (· != globalTenantName) = o.keys := by
          refine List.filter_eq_self.mpr fun a ha => ?_
          have : a ≠ globalTenantName := fun h =>
            hglobal (Js.PlainObject.hasOwn_iff.mpr (h ▸ ha))
          simpa using this
        rw [hfil] at hhead
        simp only [hglobal, Bool.false_eq_true, if_false, hfil, Except.ok.injEq]
        exact ⟨fun h => ⟨hhead t h, h⟩, fun h => h.2⟩
  · simp only [hlen, if_false, false_and, not_false_eq_true, true_and, Except.ok.injEq]
    match hk : o.keys with
    | [] => simp
    | [k] =>
      by_cases hkg : k = globalTenantName
      · subst hkg
        simp [eq_comm]
      · have hb : (k != globalTenantName) = true := by simpa using hkg
        simp only [List.head?_cons, Option.some.injEq, List.filter_cons, hb, if_true,
          List.filter_nil, List.cons.injEq, and_true, hkg, and_false, or_false]
        exact ⟨fun h => ⟨h ▸ hkg, h⟩, fun h => h.2⟩
    | a :: b :: l => simp [hk] at hlen

end SecurityDashboards
