import SecurityDashboards.TenantResolver

/-!
# The picks of the tenant resolution

`resolve` tries the requested tenant, then the preferred ones in their order, and falls back to the
global, the private and the first custom tenant. This file says which name each of these attempts
contributes, as conditions on the arguments alone: a name is picked *raw* when it is taken over as
it stands because it is found in the tenants object, and by *alias* when it is a spelling of the
global or of the private tenant.
-/

namespace SecurityDashboards

/-- The arguments of `resolve`. -/
structure Resolution where
  username : String
  requestedTenant : Option String
  preferredTenants : Option (List String)
  availableTenants : Tenants
  globalTenantEnabled : Bool
  multitenancyEnabled : Option Bool
  privateTenantEnabled : Option Bool

namespace Resolution

variable (toLowerCase : String → String) (i : Resolution)

/-- `resolve` on these arguments. -/
def result : Except JsError (Option String) :=
  resolve toLowerCase i.username i.requestedTenant i.preferredTenants i.availableTenants
    i.globalTenantEnabled i.multitenancyEnabled i.privateTenantEnabled

def privateEnabled : Bool := truthyFlag i.privateTenantEnabled

/-- The tenants other than the one named like the user. -/
def otherTenants : Tenants := i.availableTenants.delete i.username

/-- Multitenancy is on and there is some tenant to work in. -/
def Active : Prop :=
  truthyFlag i.multitenancyEnabled = true ∧
    (i.globalTenantEnabled = true ∨ i.privateEnabled = true ∨ i.otherTenants.keys ≠ [])

/-- What the name `x` stands for when it is a usable spelling of the global or private tenant. -/
def aliasOf (x : String) : Option String :=
  if i.globalTenantEnabled && GLOBAL_TENANTS.contains x then some GLOBAL_TENANT_SYMBOL
  else if i.privateEnabled && PRIVATE_TENANTS.contains x && i.availableTenants.has i.username then
    some PRIVATE_TENANT_SYMBOL
  else none

/-- The name `x` leads to a tenant. -/
def usable (x : String) : Bool := i.availableTenants.has x || (i.aliasOf x).isSome

/-- No tenant is requested, or one that leads nowhere. -/
def RequestUnusable : Prop := ∀ r, i.requestedTenant = some r → i.usable r = false

/-- The first usable name of the preferred list. -/
def firstUsable : Option String := ((i.preferredTenants.getD []).map toLowerCase).find? i.usable

/-- The name `k` is taken over as it stands. -/
def RawPick (k : String) : Prop :=
  (i.requestedTenant = some k ∧ i.availableTenants.has k = true) ∨
    (i.RequestUnusable ∧ i.firstUsable toLowerCase = some k ∧ i.aliasOf k = none)

/-- The tenant `t` is picked under one of its other spellings. -/
def AliasPick (t : String) : Prop :=
  (∃ r, i.requestedTenant = some r ∧ i.availableTenants.has r = false ∧ i.aliasOf r = some t) ∨
    (i.RequestUnusable ∧ ∃ x, i.firstUsable toLowerCase = some x ∧ i.aliasOf x = some t)

/-- Neither the requested nor a preferred tenant is usable. -/
def NoPick : Prop := i.RequestUnusable ∧ i.firstUsable toLowerCase = none

/-- The global tenant is picked. -/
def GlobalPick : Prop :=
  i.AliasPick toLowerCase GLOBAL_TENANT_SYMBOL ∨
    (i.NoPick toLowerCase ∧ i.globalTenantEnabled = true)

/-- The private tenant is picked. -/
def PrivatePick : Prop :=
  i.AliasPick toLowerCase PRIVATE_TENANT_SYMBOL ∨
    (i.NoPick toLowerCase ∧ i.globalTenantEnabled = false ∧ i.privateEnabled = true)

/-- The first custom tenant is picked. -/
def FirstPick : Prop :=
  i.NoPick toLowerCase ∧ i.globalTenantEnabled = false ∧ i.privateEnabled = false

end Resolution

/-- The fallback to the first of these tenants throws. -/
def FallbackThrows (tenants : Tenants) : Prop :=
  tenants.keys.length > 1 ∧ tenants.hasOwn "hasOwnProperty" = true

end SecurityDashboards
