import SecurityDashboards.Proofs.TenantResolverProofs
import SecurityDashboards.TenantPreferences

/-!
# Proofs: complete and preferred resolutions

`resolve` always returns unless the fallback throws, and what it returns is the answer of the list
under the reading of the loop.
-/

namespace SecurityDashboards

namespace Resolution

variable {toLowerCase : String → String} {i : Resolution}

/-! ## The result by the two readings -/

theorem otherTenants_keys_nil_iff :
    i.otherTenants.keys = [] ↔ ∀ k ∈ i.availableTenants.keys, k = i.username := by
  rw [otherTenants, Js.PlainObject.keys_delete, List.filter_eq_nil_iff]
  simp

theorem fallback_throws (hsafe : ¬ i.FallbackSafe) : ∃ e, i.fallback = .error e := by
  unfold FallbackSafe at hsafe
  push Not at hsafe
  obtain ⟨hg, hp, hlength, hthrow⟩ := hsafe
  refine ⟨.error "availableTenantsClone.hasOwnProperty is not a function", ?_⟩
  rw [fallback, hg, hp, if_neg Bool.false_ne_true, if_neg Bool.false_ne_true, firstAvailableTenant,
    if_pos hlength, if_pos hthrow]

theorem firstAvailableTenant_eq {o : Tenants} (h : ¬ FallbackThrows o) :
    firstAvailableTenant o =
      .ok (((o.keys.filter (· != globalTenantName)).head?).or o.keys.head?) := by
  unfold firstAvailableTenant
  by_cases hlength : o.keys.length > 1
  · have hthrow : ¬ o.hasOwn "hasOwnProperty" = true := fun hthrow => h ⟨hlength, hthrow⟩
    rw [if_pos hlength, if_neg hthrow]
    by_cases hglobal : o.hasOwn globalTenantName = true
    · have hne : o.keys.filter (· != globalTenantName) ≠ [] := by
        rw [ne_eq, List.filter_eq_nil_iff]
        intro hall
        -- Two different keys are not both `global_tenant`.
        match hk : o.keys with
        | [] => simp [hk] at hlength
        | [k] => simp [hk] at hlength
        | k :: k' :: l =>
          have hnodup : o.keys.Nodup := o.nodup
          have hsame : ∀ k ∈ o.keys, k = globalTenantName := by simpa using hall
          have h₁ := hsame k (by rw [hk]; simp)
          have h₂ := hsame k' (by rw [hk]; simp)
          rw [hk, h₁, h₂] at hnodup
          simp at hnodup
      obtain ⟨k, l, hfilter⟩ := List.exists_cons_of_ne_nil hne
      rw [if_pos hglobal, Js.PlainObject.keys_delete, hfilter]
      rfl
    · have hfilter : o.keys.filter (· != globalTenantName) = o.keys := by
        refine List.filter_eq_self.mpr fun k hk => ?_
        have hk' : k ≠ globalTenantName := by
          rintro rfl
          exact hglobal (Js.PlainObject.hasOwn_iff.mpr hk)
        simpa using hk'
      rw [if_neg hglobal, hfilter, Option.or_self]
  · rw [if_neg hlength]
    match hk : o.keys with
    | [] => rfl
    | [k] => by_cases hglobal : k = globalTenantName <;> simp [hglobal]
    | k :: k' :: l => simp [hk] at hlength

theorem fallback_eq (hsafe : i.FallbackSafe) : i.fallback = .ok i.fallbackOrder := by
  unfold fallback fallbackOrder
  cases hg : i.globalTenantEnabled with
  | true => rfl
  | false =>
    cases hp : i.privateEnabled with
    | true => rfl
    | false => exact firstAvailableTenant_eq (hsafe hg hp)

/-- The loop takes the first element in which it finds a tenant. -/
theorem firstUsable_eq (l : List String) :
    (((l.map toLowerCase).find? i.usable).map fun x => (i.aliasOf x).getD x) =
      l.findSome? (i.readTenant toLowerCase) := by
  induction l with
  | nil => rfl
  | cons element rest ih =>
    rw [List.map_cons, List.find?_cons, List.findSome?_cons, ← ih, readTenant]
    cases halias : i.aliasOf (toLowerCase element) with
    | some tenant => simp [usable, halias]
    | none =>
      by_cases hhas : i.availableTenants.has (toLowerCase element) = true
      · simp [usable, halias, hhas]
      · simp [usable, halias, hhas]

/-- What an active resolution makes of the request and the list. -/
theorem result_of_readings (ha : i.Active) :
    i.result toLowerCase =
      match i.readRequest with
      | some tenant => .ok (some tenant)
      | none =>
        match (i.preferredTenants.getD []).findSome? (i.readTenant toLowerCase) with
        | some tenant => .ok (some tenant)
        | none => i.fallback := by
  rw [result_of_active ha, ← firstUsable_eq]
  unfold firstUsable readRequest
  cases ((i.preferredTenants.getD []).map toLowerCase).find? i.usable with
  | none => rfl
  | some x => rfl

theorem fallbackOrder_isSome (ha : i.Active) : i.fallbackOrder.isSome = true := by
  obtain ⟨-, hsome⟩ := ha
  unfold fallbackOrder
  cases hg : i.globalTenantEnabled with
  | true => rfl
  | false =>
    cases hp : i.privateEnabled with
    | true => rfl
    | false =>
      have hkeys : i.otherTenants.keys ≠ [] := by
        rcases hsome with h | h | h
        · exact absurd (hg.symm.trans h) Bool.false_ne_true
        · exact absurd (hp.symm.trans h) Bool.false_ne_true
        · exact h
      obtain ⟨k, l, hk⟩ := List.exists_cons_of_ne_nil hkeys
      rw [if_neg Bool.false_ne_true, if_neg Bool.false_ne_true, hk, List.head?_cons, Option.isSome_or,
        Option.isSome_some, Bool.or_true]

/-! ## Complete resolutions -/

theorem noTenantLeft_of_not_active (hm : truthyFlag i.multitenancyEnabled = true) :
    ¬ i.Active ↔ i.NoTenantLeft := by
  unfold Active NoTenantLeft
  rw [← otherTenants_keys_nil_iff, hm]
  cases i.globalTenantEnabled <;> cases i.privateEnabled <;> simp

/-- A resolution without multitenancy. -/
theorem complete_of_disabled (hm : truthyFlag i.multitenancyEnabled = false) :
    ∃ tenant, i.result toLowerCase = .ok tenant ∧ (tenant = none ↔ i.NoTenantLeft) := by
  refine ⟨_, result_of_disabled hm, ?_⟩
  unfold NoTenantLeft
  cases i.globalTenantEnabled <;> simp [hm]

/-- An active resolution returns a tenant, unless the fallback throws. -/
theorem active_result (ha : i.Active) (hno : ¬ i.ReachesThrow toLowerCase) :
    ∃ tenant, i.result toLowerCase = .ok (some tenant) := by
  rw [result_of_readings ha]
  cases hrequest : i.readRequest with
  | some tenant => exact ⟨tenant, rfl⟩
  | none =>
    dsimp only
    cases hlist : (i.preferredTenants.getD []).findSome? (i.readTenant toLowerCase) with
    | some tenant => exact ⟨tenant, rfl⟩
    | none =>
      have hfirst : i.firstUsable toLowerCase = none := by
        rw [← firstUsable_eq, Option.map_eq_none_iff] at hlist
        exact hlist
      have hsafe : i.FallbackSafe := fun hg hp hthrows =>
        hno ⟨ha.1, ⟨⟨requested_bind_eq_none.mp hrequest, hfirst⟩, hg, hp⟩, hthrows⟩
      obtain ⟨tenant, htenant⟩ := Option.isSome_iff_exists.mp (fallbackOrder_isSome ha)
      exact ⟨tenant, by rw [fallback_eq hsafe, htenant]⟩

theorem reachesThrow_active (h : i.ReachesThrow toLowerCase) : i.Active := by
  obtain ⟨hm, -, hlength, -⟩ := h
  refine ⟨hm, Or.inr (Or.inr fun hnil => ?_)⟩
  rw [hnil] at hlength
  cases hlength

theorem result_of_reachesThrow (h : i.ReachesThrow toLowerCase) :
    ∃ e, i.result toLowerCase = .error e := by
  have ha := reachesThrow_active h
  obtain ⟨-, ⟨⟨hrequest, hfirst⟩, hg, hp⟩, hthrows⟩ := h
  have hread : i.readRequest = none := requested_bind_eq_none.mpr hrequest
  have hlist : (i.preferredTenants.getD []).findSome? (i.readTenant toLowerCase) = none := by
    rw [← firstUsable_eq, Option.map_eq_none_iff]
    exact hfirst
  obtain ⟨e, he⟩ := fallback_throws (i := i) fun hsafe => hsafe hg hp hthrows
  refine ⟨e, ?_⟩
  rw [result_of_readings ha, hread, hlist]
  exact he

/-- `resolve` returns, and it returns nothing exactly if no tenant is left, unless it reaches a
fallback that throws. -/
theorem resolve_complete_iff (toLowerCase : String → String) (i : Resolution) :
    (∃ tenant, i.result toLowerCase = .ok tenant ∧ (tenant = none ↔ i.NoTenantLeft)) ↔
      ¬ i.ReachesThrow toLowerCase := by
  constructor
  · rintro ⟨tenant, hresult, -⟩ hthrow
    obtain ⟨e, he⟩ := result_of_reachesThrow hthrow
    rw [he] at hresult
    cases hresult
  · intro hno
    cases hm : truthyFlag i.multitenancyEnabled with
    | false => exact complete_of_disabled hm
    | true =>
      by_cases ha : i.Active
      · obtain ⟨tenant, htenant⟩ := active_result ha hno
        refine ⟨some tenant, htenant, ⟨(fun h => by cases h), fun hleft => ?_⟩⟩
        exact absurd ha ((noTenantLeft_of_not_active hm).mpr hleft)
      · have hleft := (noTenantLeft_of_not_active hm).mp ha
        obtain ⟨hg, hnone⟩ := hleft
        obtain ⟨hp, hkeys⟩ := hnone.resolve_left (by rw [hm]; decide)
        refine ⟨none, result_of_no_tenant hg hp (otherTenants_keys_nil_iff.mpr hkeys), ?_⟩
        exact iff_of_true rfl ⟨hg, hnone⟩

/-- A tenant is called `hasOwnProperty`. -/
def hidingTenants : Resolution where
  username := "alice"
  requestedTenant := none
  preferredTenants := none
  availableTenants := ⟨[("hasOwnProperty", true), ("analysts", true)], by decide⟩
  globalTenantEnabled := false
  multitenancyEnabled := some true
  privateTenantEnabled := some false

/-- The fallback calls the entry of the tenant instead of the method. -/
theorem hidingTenants_throw :
    hidingTenants.result asciiToLowerCase =
        .error (.error "availableTenantsClone.hasOwnProperty is not a function") ∧
      ¬ ∃ tenant, hidingTenants.result asciiToLowerCase = .ok tenant ∧
        (tenant = none ↔ hidingTenants.NoTenantLeft) := by
  have hthrows : hidingTenants.result asciiToLowerCase =
      .error (.error "availableTenantsClone.hasOwnProperty is not a function") := by decide
  refine ⟨hthrows, ?_⟩
  rintro ⟨tenant, hresult, -⟩
  rw [hthrows] at hresult
  cases hresult

/-! ## The preferred order -/

/-- The list leads to the same tenant under both readings. -/
theorem listReadsAlike_iff (l : List String) {tenant : String}
    (hanswer : i.answer (i.denotedTenant toLowerCase) l = some tenant) :
    (match l.findSome? (i.readTenant toLowerCase) with
      | some read => .ok (some read)
      | none => i.fallback) = (.ok (some tenant) : Except JsError (Option String)) ↔
      i.ListReadsAlike toLowerCase l := by
  induction l with
  | nil =>
    have horder : i.fallbackOrder = some tenant := hanswer
    change i.fallback = .ok (some tenant) ↔ i.FallbackSafe
    by_cases hsafe : i.FallbackSafe
    · rw [fallback_eq hsafe, horder]
      exact iff_of_true rfl hsafe
    · obtain ⟨e, he⟩ := fallback_throws hsafe
      rw [he]
      exact iff_of_false (fun h => by cases h) hsafe
  | cons element rest ih =>
    rw [answer, List.findSome?_cons] at hanswer
    rw [List.findSome?_cons, ListReadsAlike]
    cases hdenoted : i.denotedTenant toLowerCase element with
    | none =>
      rw [hdenoted] at hanswer
      cases hread : i.readTenant toLowerCase element with
      | none => exact ih hanswer
      | some read =>
        have hrest : i.answer (i.denotedTenant toLowerCase) rest = some tenant := hanswer
        dsimp only
        rw [hrest, Except.ok.injEq]
        exact eq_comm
    | some denoted =>
      rw [hdenoted] at hanswer
      have hdenoted : denoted = tenant := Option.some.inj hanswer
      cases hread : i.readTenant toLowerCase element with
      | some read =>
        dsimp only
        rw [hdenoted, Except.ok.injEq, Option.some.injEq]
        exact eq_comm
      | none =>
        dsimp only
        rw [answer, hdenoted]
        cases hlist : rest.findSome? (i.readTenant toLowerCase) with
        | some read => simp
        | none =>
          by_cases hsafe : i.FallbackSafe
          · simp [fallback_eq hsafe, hsafe]
          · obtain ⟨e, he⟩ := fallback_throws hsafe
            simp [he, hsafe]

theorem denotedTenant_cases {element tenant : String}
    (h : i.denotedTenant toLowerCase element = some tenant) :
    tenant = GLOBAL_TENANT_SYMBOL ∨ tenant = PRIVATE_TENANT_SYMBOL ∨
      i.availableTenants.hasOwn tenant = true := by
  unfold denotedTenant at h
  dsimp only at h
  split at h
  · exact Or.inl (Option.some.inj h).symm
  · split at h
    · exact Or.inr (Or.inl (Option.some.inj h).symm)
    · split at h
      · rename_i hown
        exact Or.inr (Or.inr (Option.some.inj h ▸ hown))
      · cases h

theorem fallbackOrder_cases {tenant : String} (h : i.fallbackOrder = some tenant) :
    tenant = GLOBAL_TENANT_SYMBOL ∨ tenant = PRIVATE_TENANT_SYMBOL ∨
      i.availableTenants.hasOwn tenant = true := by
  unfold fallbackOrder at h
  split at h
  · exact Or.inl (Option.some.inj h).symm
  · split at h
    · exact Or.inr (Or.inl (Option.some.inj h).symm)
    · have hmem : tenant ∈ i.otherTenants.keys := by
        rcases Option.or_eq_some_iff.mp h with h | ⟨-, h⟩
        · exact (List.mem_filter.mp (List.mem_of_mem_head? h)).1
        · exact List.mem_of_mem_head? h
      rw [otherTenants, Js.PlainObject.mem_keys_delete] at hmem
      exact Or.inr (Or.inr (Js.PlainObject.hasOwn_iff.mpr hmem.1))

/-- The list never leads to an inherited name that is no tenant. -/
theorem preferredTenant_ne_inherited {name : String} (hname : name ∈ Js.objectPrototype)
    (hown : i.availableTenants.hasOwn name = false) :
    i.preferredTenant toLowerCase ≠ some name := by
  intro h
  have hcases : name = GLOBAL_TENANT_SYMBOL ∨ name = PRIVATE_TENANT_SYMBOL ∨
      i.availableTenants.hasOwn name = true := by
    rcases Option.or_eq_some_iff.mp h with h | ⟨-, h⟩
    · obtain ⟨element, -, h⟩ := List.exists_of_findSome?_eq_some h
      exact denotedTenant_cases h
    · exact fallbackOrder_cases h
  rcases hcases with rfl | rfl | h
  · exact absurd hname (by decide)
  · exact absurd hname (by decide)
  · rw [hown] at h
    cases h

/-- An unusable request that the code finds is an inherited name, or an alias to the code. -/
theorem readRequest_eq (hrequest : i.RequestNotUsable)
    (hplain : ∀ r, i.requestedTenant = some r → r ∉ Js.objectPrototype) :
    i.readRequest = i.requestedTenant.bind i.aliasOf := by
  unfold readRequest
  cases hr : i.requestedTenant with
  | none => rfl
  | some r =>
    obtain ⟨hown, -⟩ := hrequest r hr
    have hhas : i.availableTenants.has r = false := by
      rw [Js.PlainObject.has, hown, Bool.false_or, List.contains_eq_mem]
      exact decide_eq_false (hplain r hr)
    rw [Option.bind_some, Option.bind_some, hhas, if_neg Bool.false_ne_true]

/-- If the requested tenant is absent or not usable, `resolve` returns the tenant of the first
preferred element that denotes a usable one, or else of the fallback order, exactly if the code reads
the request and the list alike. -/
theorem preferred_honoured_iff (toLowerCase : String → String) (i : Resolution) (ha : i.Active)
    (hrequest : i.RequestNotUsable) :
    (∃ tenant, i.preferredTenant toLowerCase = some tenant ∧
        i.result toLowerCase = .ok (some tenant)) ↔ i.ReadsAlike toLowerCase := by
  obtain ⟨order, horder⟩ := Option.isSome_iff_exists.mp (fallbackOrder_isSome ha)
  obtain ⟨tenant, htenant⟩ : ∃ tenant, i.preferredTenant toLowerCase = some tenant := by
    rw [preferredTenant, answer, horder]
    cases (i.preferredTenants.getD []).findSome? (i.denotedTenant toLowerCase) with
    | none => exact ⟨order, rfl⟩
    | some denoted => exact ⟨denoted, rfl⟩
  have hsame : (∃ tenant, i.preferredTenant toLowerCase = some tenant ∧
      i.result toLowerCase = .ok (some tenant)) ↔ i.result toLowerCase = .ok (some tenant) := by
    rw [htenant]
    simp
  rw [hsame, result_of_readings ha, ReadsAlike]
  by_cases hplain : ∀ r, i.requestedTenant = some r → r ∉ Js.objectPrototype
  · rw [and_iff_right hplain, readRequest_eq hrequest hplain]
    cases hread : i.requestedTenant.bind i.aliasOf with
    | some read =>
      dsimp only
      rw [htenant, Except.ok.injEq, eq_comm]
    | none => exact listReadsAlike_iff _ htenant
  · refine iff_of_false (fun hresult => ?_) fun halike => hplain halike.1
    push Not at hplain
    obtain ⟨r, hr, hinherited⟩ := hplain
    have hread : i.readRequest = some r := by
      rw [readRequest, hr, Option.bind_some, if_pos]
      rw [Js.PlainObject.has, List.contains_eq_mem, decide_eq_true hinherited, Bool.or_true]
    rw [hread] at hresult
    injection hresult with hresult
    exact preferredTenant_ne_inherited hinherited (hrequest r hr).1 (htenant.trans hresult.symm)

/-- The private tenant is preferred, and only then a custom one. -/
def privatePreferred : Resolution where
  username := "alice"
  requestedTenant := none
  preferredTenants := some ["unknown", "Private", "reports"]
  availableTenants := ⟨[("alice", true), ("reports", true)], by decide⟩
  globalTenantEnabled := true
  multitenancyEnabled := some true
  privateTenantEnabled := some true

theorem privatePreferred_honoured :
    (∃ tenant, privatePreferred.preferredTenant asciiToLowerCase = some tenant ∧
        privatePreferred.result asciiToLowerCase = .ok (some tenant)) ↔
      privatePreferred.ReadsAlike asciiToLowerCase :=
  preferred_honoured_iff asciiToLowerCase privatePreferred ⟨rfl, Or.inl rfl⟩
    fun r h => by cases h

/-- A preferred tenant whose name has a capital letter. -/
def capitalPreferred : Resolution where
  username := "alice"
  requestedTenant := none
  preferredTenants := some ["Analysts"]
  availableTenants := ⟨[("alice", true), ("Analysts", true)], by decide⟩
  globalTenantEnabled := true
  multitenancyEnabled := some true
  privateTenantEnabled := some true

/-- The loop looks for the name in lower case and goes on to the global tenant. -/
theorem capitalPreferred_skipped :
    capitalPreferred.Active ∧ capitalPreferred.RequestNotUsable ∧
      capitalPreferred.preferredTenant asciiToLowerCase = some "Analysts" ∧
      capitalPreferred.result asciiToLowerCase = .ok (some GLOBAL_TENANT_SYMBOL) ∧
      ¬ ∃ tenant, capitalPreferred.preferredTenant asciiToLowerCase = some tenant ∧
        capitalPreferred.result asciiToLowerCase = .ok (some tenant) := by
  have hpreferred : capitalPreferred.preferredTenant asciiToLowerCase = some "Analysts" := by decide
  have hresult : capitalPreferred.result asciiToLowerCase = .ok (some GLOBAL_TENANT_SYMBOL) := by
    decide
  refine ⟨⟨rfl, Or.inl rfl⟩, (fun r h => by cases h), hpreferred, hresult, ?_⟩
  rintro ⟨tenant, htenant, hsame⟩
  rw [hpreferred] at htenant
  rw [hresult] at hsame
  injection hsame with hsame
  rw [← htenant] at hsame
  exact absurd hsame (by decide)

end Resolution

end SecurityDashboards
