import SecurityDashboards.TenantPolicy
import SecurityDashboards.Proofs.TenantResolverProofs

/-!
# Proofs: when the policy on tenants is kept

The exact conditions on the arguments of `resolve` under which it keeps to the policy, and inputs on
which it does not: a requested tenant that is a name of `Object.prototype`, a requested tenant that
is the raw key of a disabled tenant, and a private tenant requested by a read-only user.
-/

namespace SecurityDashboards

namespace Resolution

variable {toLowerCase : String → String} {i : Resolution}

/-! ## Permitted tenants -/

/-- A name that is only inherited is neither a spelling of a tenant nor listed. -/
theorem not_permitted_of_inherited {k : String} (hk : k ∈ Js.objectPrototype)
    (hown : i.availableTenants.hasOwn k = false) : ¬ i.Permitted k := by
  rintro (⟨rfl, -⟩ | ⟨rfl, -, -⟩ | h)
  · revert hk; decide
  · revert hk; decide
  · rw [hown] at h; cases h

theorem own_of_permitted_raw {k : String} (hpick : i.RawPick toLowerCase k)
    (hperm : i.Permitted k) : i.availableTenants.hasOwn k = true := by
  by_contra hown
  rw [Bool.not_eq_true] at hown
  have hhas := has_of_rawPick hpick
  have hproto : k ∈ Js.objectPrototype := by
    rcases Js.PlainObject.has_iff.mp hhas with h | h
    · rw [Js.PlainObject.hasOwn_iff.mpr h] at hown; cases hown
    · exact h
  exact not_permitted_of_inherited hproto hown hperm

/-- The first available tenant is listed. -/
theorem own_of_firstAvailable {t : String}
    (h : firstAvailableTenant i.otherTenants = .ok (some t)) :
    i.availableTenants.hasOwn t = true := by
  have hmem : t ∈ i.otherTenants.keys := by
    rcases (firstAvailableTenant_eq_some_iff.mp h).2 with ⟨-, hhead⟩ | ⟨rfl, hkeys⟩
    · exact List.mem_of_mem_filter (List.mem_of_mem_head? hhead)
    · simp [hkeys]
  exact Js.PlainObject.hasOwn_iff.mpr (Js.PlainObject.mem_keys_delete.mp hmem).1

/-- `resolve` returns permitted tenants only, exactly when all its picks are own properties and the
private tenant is picked for users who have one. -/
theorem resolve_permitted_iff (toLowerCase : String → String) (i : Resolution) :
    (∀ t, i.result toLowerCase = .ok (some t) → i.Permitted t) ↔
      (i.Active → i.PermittedPicks toLowerCase) := by
  constructor
  · intro hperm ha
    constructor
    · intro k hk
      exact own_of_permitted_raw hk (hperm k (result_raw ha hk))
    · intro hpick
      rcases hperm _ (result_private ha hpick) with ⟨h, -⟩ | ⟨-, -, h⟩ | h
      · exact absurd h (by decide)
      · exact Or.inl h
      · exact Or.inr h
  · intro hpicks t ht
    by_cases ha : i.Active
    · obtain ⟨hraw, hpriv⟩ := hpicks ha
      rcases result_cases ha ht with h | ⟨rfl, hg, -⟩ | ⟨rfl, hp, hpick⟩ | ⟨-, hf⟩
      · exact Or.inr (Or.inr (hraw t h))
      · exact Or.inl ⟨rfl, hg⟩
      · rcases hpriv hpick with h | h
        · exact Or.inr (Or.inl ⟨rfl, hp, h⟩)
        · exact Or.inr (Or.inr h)
      · exact Or.inr (Or.inr (own_of_firstAvailable hf))
    · obtain ⟨-, rfl, hg⟩ := result_of_not_active ha ht
      exact Or.inl ⟨rfl, hg⟩

/-- A client asks for the tenant `constructor`. -/
def constructorRequested : Resolution where
  username := "alice"
  requestedTenant := some "constructor"
  preferredTenants := none
  availableTenants := ⟨[("global_tenant", true), ("alice", true)], by decide⟩
  globalTenantEnabled := true
  multitenancyEnabled := some true
  privateTenantEnabled := some true

theorem constructor_not_permitted :
    ¬ ∀ t, constructorRequested.result asciiToLowerCase = .ok (some t) →
      constructorRequested.Permitted t := by
  intro h
  have hres : constructorRequested.result asciiToLowerCase = .ok (some "constructor") := by rfl
  exact not_permitted_of_inherited (by decide) (by decide) (h _ hres)

/-! ## Enabled tenants -/

theorem not_disabled_global (hg : i.globalTenantEnabled = true)
    (hu : i.privateEnabled = false → i.username ≠ "") : ¬ i.DisabledName GLOBAL_TENANT_SYMBOL := by
  rintro (⟨hp, h | h⟩ | ⟨hg', -⟩)
  · exact absurd h (by decide)
  · exact hu hp h.symm
  · rw [hg] at hg'; cases hg'

theorem not_disabled_private (hp : i.privateEnabled = true) :
    ¬ i.DisabledName PRIVATE_TENANT_SYMBOL := by
  rintro (⟨hp', -⟩ | ⟨-, h | ⟨h, -⟩⟩)
  · rw [hp] at hp'; cases hp'
  · exact absurd h (by decide)
  · exact absurd h (by decide)

/-- The first custom tenant is none of the disabled names, unless it is called like one. -/
theorem not_disabled_first {t : String} (hp : i.privateEnabled = false)
    (hfirst : firstAvailableTenant i.otherTenants = .ok (some t))
    (hname : t ≠ globalTenantName → t ≠ PRIVATE_TENANT_SYMBOL ∧ t ≠ GLOBAL_TENANT_SYMBOL) :
    ¬ i.DisabledName t := by
  rcases (firstAvailableTenant_eq_some_iff.mp hfirst).2 with ⟨hne, hhead⟩ | ⟨rfl, hkeys⟩
  · have hmem := List.mem_of_mem_filter (List.mem_of_mem_head? hhead)
    have hu : t ≠ i.username := (Js.PlainObject.mem_keys_delete.mp hmem).2
    obtain ⟨h1, h2⟩ := hname hne
    rintro (⟨-, h | h⟩ | ⟨-, h | ⟨h, -⟩⟩)
    · exact h1 h
    · exact hu h
    · exact h2 h
    · exact hne h
  · have hmem : globalTenantName ∈ i.otherTenants.keys := by simp [hkeys]
    have hu : globalTenantName ≠ i.username := (Js.PlainObject.mem_keys_delete.mp hmem).2
    have hno : i.NoCustomTenant := by
      intro k hk
      by_cases hku : k = i.username
      · exact Or.inr hku
      · have hk' : k ∈ i.otherTenants.keys := Js.PlainObject.mem_keys_delete.mpr ⟨hk, hku⟩
        rw [hkeys] at hk'
        exact Or.inl (by simpa using hk')
    rintro (⟨-, h | h⟩ | ⟨-, h | ⟨-, h⟩⟩)
    · exact absurd h (by decide)
    · exact hu h
    · exact absurd h (by decide)
    · exact h ⟨hp, hno⟩

/-- With multitenancy enabled, `resolve` never returns a disabled tenant, exactly when no pick lets
one through under its raw name. -/
theorem resolve_enabled_iff (toLowerCase : String → String) (i : Resolution) :
    (truthyFlag i.multitenancyEnabled = true →
      ∀ t, i.result toLowerCase = .ok (some t) → ¬ i.DisabledName t) ↔
      (i.Active → i.EnabledPicks toLowerCase) := by
  constructor
  · intro hen ha
    have hen := hen ha.1
    constructor
    · intro k hk
      exact hen k (result_raw ha hk)
    · intro hpick hp hu
      exact hen _ (result_global ha hpick) (Or.inl ⟨hp, Or.inr hu.symm⟩)
    · intro hpick hthrow k hk
      have hkg : k ≠ globalTenantName := by
        simpa using (List.mem_filter.mp (List.mem_of_mem_head? hk)).2
      have hfirst : firstAvailableTenant i.otherTenants = .ok (some k) :=
        firstAvailableTenant_eq_some_iff.mpr ⟨hthrow, Or.inl ⟨hkg, hk⟩⟩
      have hnd := hen k (result_first ha hpick hfirst)
      obtain ⟨-, hg, hp⟩ := hpick
      exact ⟨fun h => hnd (Or.inl ⟨hp, Or.inl h⟩), fun h => hnd (Or.inr ⟨hg, Or.inl h⟩)⟩
  · intro hpicks hm t ht
    by_cases ha : i.Active
    · obtain ⟨hraw, hglobal, hfirst⟩ := hpicks ha
      rcases result_cases ha ht with h | ⟨rfl, hg, hpick⟩ | ⟨rfl, hp, -⟩ | ⟨hpick, hf⟩
      · exact hraw t h
      · exact not_disabled_global hg (hglobal hpick)
      · exact not_disabled_private hp
      · refine not_disabled_first hpick.2.2 hf fun hne => ?_
        obtain ⟨hthrow, h⟩ := firstAvailableTenant_eq_some_iff.mp hf
        rcases h with ⟨-, hhead⟩ | ⟨h, -⟩
        · exact hfirst hpick hthrow t hhead
        · exact absurd h hne
    · rw [(result_of_not_active ha ht).1] at hm
      cases hm

/-- The administrator disabled private tenants, and alice asks for the tenant `alice`. -/
def disabledPrivateRequested : Resolution where
  username := "alice"
  requestedTenant := some "alice"
  preferredTenants := none
  availableTenants := ⟨[("global_tenant", true), ("alice", true)], by decide⟩
  globalTenantEnabled := true
  multitenancyEnabled := some true
  privateTenantEnabled := some false

theorem disabled_private_selected :
    ¬ (truthyFlag disabledPrivateRequested.multitenancyEnabled = true →
      ∀ t, disabledPrivateRequested.result asciiToLowerCase = .ok (some t) →
        ¬ disabledPrivateRequested.DisabledName t) := by
  intro h
  have hres : disabledPrivateRequested.result asciiToLowerCase = .ok (some "alice") := by rfl
  exact h rfl _ hres (Or.inl ⟨rfl, Or.inr rfl⟩)

/-! ## Read-only users -/

theorem private_ne_global : PRIVATE_TENANT_SYMBOL ≠ GLOBAL_TENANT_SYMBOL := by decide

/-- The global tenant has the name of the private one only for a user without a name. -/
theorem privateName_global {username : String} :
    PrivateName username GLOBAL_TENANT_SYMBOL ↔ username = "" := by
  constructor
  · rintro (h | h)
    · exact absurd h.symm private_ne_global
    · exact h.symm
  · rintro rfl
    exact Or.inr rfl

/-- The first available tenant is private only under the symbol. -/
theorem privateName_first {t : String} (h : firstAvailableTenant i.otherTenants = .ok (some t)) :
    PrivateName i.username t ↔
      (i.otherTenants.keys.filter (· != globalTenantName)).head? = some PRIVATE_TENANT_SYMBOL := by
  have hmem : t ∈ i.otherTenants.keys := by
    rcases (firstAvailableTenant_eq_some_iff.mp h).2 with ⟨-, hhead⟩ | ⟨rfl, hkeys⟩
    · exact List.mem_of_mem_filter (List.mem_of_mem_head? hhead)
    · simp [hkeys]
  have hu : t ≠ i.username := (Js.PlainObject.mem_keys_delete.mp hmem).2
  rcases (firstAvailableTenant_eq_some_iff.mp h).2 with ⟨-, hhead⟩ | ⟨rfl, hkeys⟩
  · rw [hhead, Option.some.injEq]
    exact ⟨fun hp => hp.resolve_right hu, Or.inl⟩
  · constructor
    · rintro (h | h)
      · exact absurd h (by decide)
      · exact absurd h hu
    · intro hhead
      rw [hkeys] at hhead
      exact absurd hhead (by decide)

theorem not_private_iff (toLowerCase : String → String) (i : Resolution) :
    (∀ t, i.result toLowerCase = .ok (some t) → ¬ PrivateName i.username t) ↔
      i.AvoidsPrivate toLowerCase := by
  constructor
  · intro hno
    refine ⟨fun ha k hk => hno k (result_raw ha hk), fun ha hpick => ?_, fun ha hpick hu => ?_,
      fun ha hpick hthrow hhead => ?_, fun hm hg hu => ?_⟩
    · exact hno _ (result_private ha hpick) (Or.inl rfl)
    · exact hno _ (result_global ha hpick) (privateName_global.mpr hu)
    · have hfirst : firstAvailableTenant i.otherTenants = .ok (some PRIVATE_TENANT_SYMBOL) :=
        firstAvailableTenant_eq_some_iff.mpr ⟨hthrow, Or.inl ⟨by decide, hhead⟩⟩
      exact hno _ (result_first ha hpick hfirst) (Or.inl rfl)
    · have hres : i.result toLowerCase = .ok (some GLOBAL_TENANT_SYMBOL) := by
        rw [result_of_disabled hm, if_pos hg]
      exact hno _ hres (privateName_global.mpr hu)
  · rintro ⟨hraw, hprivate, hglobal, hfirst, hinactive⟩ t ht hname
    by_cases ha : i.Active
    · rcases result_cases ha ht with h | ⟨rfl, -, hpick⟩ | ⟨-, -, hpick⟩ | ⟨hpick, hf⟩
      · exact hraw ha t h hname
      · exact hglobal ha hpick (privateName_global.mp hname)
      · exact hprivate ha hpick
      · obtain ⟨hthrow, -⟩ := firstAvailableTenant_eq_some_iff.mp hf
        exact hfirst ha hpick hthrow ((privateName_first hf).mp hname)
    · obtain ⟨hm, rfl, hg⟩ := result_of_not_active ha ht
      exact hinactive hm hg (privateName_global.mp hname)

/-- `resolveTenant` never returns the private tenant to a read-only user, exactly when no pick leads
there: that the user is read-only makes no difference to it. -/
theorem readonly_not_private_iff (toLowerCase : String → String) (request : Request)
    (username : String) (roles : Option (List String)) (availableTenants : Tenants)
    (config : SecurityPluginConfig) (cookie : SecuritySessionCookie)
    (multitenancyEnabled privateTenantEnabled : Option Bool) (defaultTenant : Option String) :
    (isReadonly roles config = true →
      ∀ t, resolveTenant toLowerCase request username roles availableTenants config cookie
          multitenancyEnabled privateTenantEnabled defaultTenant = .ok (some t) →
        ¬ PrivateName username t) ↔
      (isReadonly roles config = true →
        (ofRequest request username availableTenants config cookie multitenancyEnabled
          privateTenantEnabled defaultTenant).AvoidsPrivate toLowerCase) :=
  imp_congr_right fun _ => not_private_iff toLowerCase (ofRequest request username availableTenants
    config cookie multitenancyEnabled privateTenantEnabled defaultTenant)

/-- A request for this tenant. -/
def tenantHeaderRequest (tenant : String) : Request where
  url := { pathname := "/app/home" }
  headers := Js.Assigned.empty.set "securitytenant" tenant

def aliceTenants : Tenants := ⟨[("global_tenant", true), ("alice", true)], by decide⟩

/-- alice has a read-only role and gets the private tenant she asks for. -/
theorem readonly_private_selected :
    ¬ (isReadonly (some ["kibana_read_only"]) {} = true →
      ∀ t, resolveTenant asciiToLowerCase (tenantHeaderRequest "__user__") "alice"
          (some ["kibana_read_only"]) aliceTenants {} {} (some true) (some true) none =
            .ok (some t) →
        ¬ PrivateName "alice" t) := by
  intro h
  have hres : resolveTenant asciiToLowerCase (tenantHeaderRequest "__user__") "alice"
      (some ["kibana_read_only"]) aliceTenants {} {} (some true) (some true) none =
        .ok (some PRIVATE_TENANT_SYMBOL) := by rfl
  exact h (by decide) _ hres (Or.inl rfl)

end Resolution

end SecurityDashboards
