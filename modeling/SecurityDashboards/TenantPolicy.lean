import SecurityDashboards.TenantPicks

/-!
# Which tenants may be selected

The purpose of the tenant resolution, stated without its stages: a user only gets a tenant that is
enabled and permitted, and a read-only user never the private one. `PermittedPicks`, `EnabledPicks`
and `AvoidsPrivate` say when the picks of `resolve` meet it.
-/

namespace SecurityDashboards

namespace Resolution

variable (toLowerCase : String → String) (i : Resolution)

/-- The tenant `t` is the enabled global tenant, the user's enabled private tenant, or listed. -/
def Permitted (t : String) : Prop :=
  (t = GLOBAL_TENANT_SYMBOL ∧ i.globalTenantEnabled = true) ∨
    (t = PRIVATE_TENANT_SYMBOL ∧ i.privateEnabled = true ∧
      i.availableTenants.hasOwn i.username = true) ∨
    i.availableTenants.hasOwn t = true

/-- The picked names are own properties of the tenants object, not names that every object
inherits, and the private tenant is only picked for a user who has one. -/
structure PermittedPicks : Prop where
  raw : ∀ k, i.RawPick toLowerCase k → i.availableTenants.hasOwn k = true
  privateTenant : i.PrivatePick toLowerCase →
    i.availableTenants.hasOwn i.username = true ∨
      i.availableTenants.hasOwn PRIVATE_TENANT_SYMBOL = true

/-- There is no tenant besides the global one and the user's private one. -/
def NoCustomTenant : Prop :=
  ∀ k ∈ i.availableTenants.keys, k = globalTenantName ∨ k = i.username

/-- The name `k` denotes the private tenant or the global one while that tenant is disabled. The key
`global_tenant` is let through when the private tenant is disabled too and nothing else is left. -/
def DisabledName (k : String) : Prop :=
  (i.privateEnabled = false ∧ (k = PRIVATE_TENANT_SYMBOL ∨ k = i.username)) ∨
    (i.globalTenantEnabled = false ∧ (k = GLOBAL_TENANT_SYMBOL ∨
      (k = globalTenantName ∧ ¬ (i.privateEnabled = false ∧ i.NoCustomTenant))))

/-- No pick lets a disabled tenant through under its raw name. -/
structure EnabledPicks : Prop where
  raw : ∀ k, i.RawPick toLowerCase k → ¬ i.DisabledName k
  /-- A user with the empty name shares it with the global tenant. -/
  global : i.GlobalPick toLowerCase → i.privateEnabled = false → i.username ≠ ""
  /-- The first custom tenant is not called like the private or the global one. -/
  first : i.FirstPick toLowerCase → ¬ FallbackThrows i.otherTenants →
    ∀ k, (i.otherTenants.keys.filter (· != globalTenantName)).head? = some k →
      k ≠ PRIVATE_TENANT_SYMBOL ∧ k ≠ GLOBAL_TENANT_SYMBOL

/-- The name `k` is the symbol or the key of the user's private tenant. -/
def PrivateName (username k : String) : Prop := k = PRIVATE_TENANT_SYMBOL ∨ k = username

/-- No pick leads to the private tenant. -/
structure AvoidsPrivate : Prop where
  raw : i.Active → ∀ k, i.RawPick toLowerCase k → ¬ PrivateName i.username k
  privateTenant : i.Active → ¬ i.PrivatePick toLowerCase
  /-- A user with the empty name shares it with the global tenant. -/
  global : i.Active → i.GlobalPick toLowerCase → i.username ≠ ""
  /-- The first custom tenant is not called like the private one. -/
  first : i.Active → i.FirstPick toLowerCase → ¬ FallbackThrows i.otherTenants →
    (i.otherTenants.keys.filter (· != globalTenantName)).head? ≠ some PRIVATE_TENANT_SYMBOL
  inactive : truthyFlag i.multitenancyEnabled = false → i.globalTenantEnabled = true →
    i.username ≠ ""

/-- The arguments that `resolveTenant` hands to `resolve`. -/
def ofRequest (request : Request) (username : String) (availableTenants : Tenants)
    (config : SecurityPluginConfig) (cookie : SecuritySessionCookie)
    (multitenancyEnabled privateTenantEnabled : Option Bool) (defaultTenant : Option String) :
    Resolution where
  username := username
  requestedTenant := selectedTenantOf request cookie multitenancyEnabled defaultTenant
  preferredTenants := some config.multitenancy.tenants.preferred
  availableTenants := availableTenants
  globalTenantEnabled := config.multitenancy.tenants.enable_global
  multitenancyEnabled := multitenancyEnabled
  privateTenantEnabled := privateTenantEnabled

end Resolution

end SecurityDashboards
