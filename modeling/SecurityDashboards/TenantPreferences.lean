import SecurityDashboards.TenantPicks

/-!
# Preferred tenants

What `resolve` owes to the list of preferred tenants: the first element that denotes a usable tenant
decides, and the fallback order only when none does. `readTenant` is how the loop reads an element
instead, namely in lower case and with the names that every object inherits; `ReadsAlike` says when
that makes no difference.
-/

namespace SecurityDashboards

namespace Resolution

variable (toLowerCase : String → String) (i : Resolution)

/-! ## When nothing is left -/

/-- The global tenant is disabled, and so is multitenancy, or there is no other tenant. -/
def NoTenantLeft : Prop :=
  i.globalTenantEnabled = false ∧
    (truthyFlag i.multitenancyEnabled = false ∨
      i.privateEnabled = false ∧ ∀ k ∈ i.availableTenants.keys, k = i.username)

/-- The fallback is reached, and it throws. -/
def ReachesThrow : Prop :=
  truthyFlag i.multitenancyEnabled = true ∧ i.FirstPick toLowerCase ∧ FallbackThrows i.otherTenants

/-! ## Two readings of an element -/

/-- The tenant that an element of the list denotes, if it is usable: an alias in any letter case, or
the name of a tenant. -/
def denotedTenant (element : String) : Option String :=
  let tenant := toLowerCase element
  if i.globalTenantEnabled && GLOBAL_TENANTS.contains tenant then some GLOBAL_TENANT_SYMBOL
  else if i.privateEnabled && PRIVATE_TENANTS.contains tenant &&
      i.availableTenants.hasOwn i.username then
    some PRIVATE_TENANT_SYMBOL
  else if i.availableTenants.hasOwn element then some element
  else none

/-- What the loop finds in an element. -/
def readTenant (element : String) : Option String :=
  match i.aliasOf (toLowerCase element) with
  | some tenant => some tenant
  | none =>
    if i.availableTenants.has (toLowerCase element) then some (toLowerCase element) else none

/-- What the code finds in the requested tenant. -/
def readRequest : Option String :=
  i.requestedTenant.bind fun requestedTenant =>
    if i.availableTenants.has requestedTenant then some requestedTenant
    else i.aliasOf requestedTenant

/-- The requested tenant is absent or not usable: it is neither a tenant nor an alias of one. -/
def RequestNotUsable : Prop :=
  ∀ requestedTenant, i.requestedTenant = some requestedTenant →
    i.availableTenants.hasOwn requestedTenant = false ∧
      (i.globalTenantEnabled && GLOBAL_TENANTS.contains requestedTenant) = false ∧
      (i.privateEnabled && PRIVATE_TENANTS.contains requestedTenant &&
        i.availableTenants.hasOwn i.username) = false

/-- The global tenant, the private one, or the first custom one, which is `global_tenant` only if
there is nothing else. -/
def fallbackOrder : Option String :=
  if i.globalTenantEnabled then some GLOBAL_TENANT_SYMBOL
  else if i.privateEnabled then some PRIVATE_TENANT_SYMBOL
  else ((i.otherTenants.keys.filter (· != globalTenantName)).head?).or i.otherTenants.keys.head?

/-- The tenant to which a list leads under a reading. -/
def answer (reading : String → Option String) (preferred : List String) : Option String :=
  (preferred.findSome? reading).or i.fallbackOrder

/-- The fallback does not throw. -/
def FallbackSafe : Prop :=
  i.globalTenantEnabled = false → i.privateEnabled = false → ¬ FallbackThrows i.otherTenants

/-- The first element that counts under one of the readings denotes the same tenant under both. Where
it counts under one of them only, the rest of the list happens to lead to this tenant under the
other one. -/
def ListReadsAlike : List String → Prop
  | [] => i.FallbackSafe
  | element :: rest =>
    match i.denotedTenant toLowerCase element, i.readTenant toLowerCase element with
    | none, none => ListReadsAlike rest
    | some denoted, some read => denoted = read
    | some denoted, none =>
      i.answer (i.readTenant toLowerCase) rest = some denoted ∧
        (rest.findSome? (i.readTenant toLowerCase) = none → i.FallbackSafe)
    | none, some read => i.answer (i.denotedTenant toLowerCase) rest = some read

/-- The tenant that an absent or unusable request owes to the list. -/
def preferredTenant : Option String :=
  i.answer (i.denotedTenant toLowerCase) (i.preferredTenants.getD [])

/-- The request is not an inherited name, and the list reads alike. If the code takes the request for
the private tenant of a user whose name is inherited, the list happens to lead there. -/
def ReadsAlike : Prop :=
  (∀ requestedTenant, i.requestedTenant = some requestedTenant →
      requestedTenant ∉ Js.objectPrototype) ∧
    match i.requestedTenant.bind i.aliasOf with
    | none => i.ListReadsAlike toLowerCase (i.preferredTenants.getD [])
    | some tenant => i.preferredTenant toLowerCase = some tenant

end Resolution

end SecurityDashboards
