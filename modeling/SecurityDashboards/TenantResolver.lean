import SecurityDashboards.Request

/-!
# Tenant resolution

`multitenancy/tenant_resolver.ts`: from the tenant a request asks for, the configuration and the
tenants the backend lists for the user, `resolve` picks the tenant the user works in.
-/

namespace SecurityDashboards

def PRIVATE_TENANTS : List String := [PRIVATE_TENANT_SYMBOL, "private", "Private"]
def GLOBAL_TENANTS : List String := ["global", GLOBAL_TENANT_SYMBOL, "Global"]

/-- The tenants of a user as the backend lists them: name ↦ whether the user may write. -/
abbrev Tenants := Js.PlainObject Bool

/-- Truthiness of an optional flag. -/
def truthyFlag : Option Bool → Bool
  | some b => b
  | none => false

/-- The tenant that an explicitly requested one stands for, if the user may use it. -/
def resolveRequested (username requestedTenant : String) (availableTenants : Tenants)
    (globalTenantEnabled privateTenantEnabled : Bool) : Option String :=
  if availableTenants.has requestedTenant then some requestedTenant
  else if privateTenantEnabled && availableTenants.has username &&
      PRIVATE_TENANTS.contains requestedTenant then
    some PRIVATE_TENANT_SYMBOL
  else if globalTenantEnabled && GLOBAL_TENANTS.contains requestedTenant then
    some GLOBAL_TENANT_SYMBOL
  else none

/-- The loop over the preferred tenants. -/
def resolvePreferred (toLowerCase : String → String) (username : String)
    (availableTenants : Tenants) (globalTenantEnabled privateTenantEnabled : Bool) :
    List String → Option String
  | [] => none
  | element :: rest =>
    let tenant := toLowerCase element
    if globalTenantEnabled && GLOBAL_TENANTS.contains tenant then some GLOBAL_TENANT_SYMBOL
    else if privateTenantEnabled && PRIVATE_TENANTS.contains tenant &&
        availableTenants.has username then
      some PRIVATE_TENANT_SYMBOL
    else if availableTenants.has tenant then some tenant
    else resolvePreferred toLowerCase username availableTenants globalTenantEnabled
      privateTenantEnabled rest

/-- The fallback to the first available tenant. Calling `hasOwnProperty` on the object throws when a
tenant has that name, since its entry hides the inherited method. -/
def firstAvailableTenant (availableTenantsClone : Tenants) : Except JsError (Option String) :=
  if availableTenantsClone.keys.length > 1 then
    if availableTenantsClone.hasOwn "hasOwnProperty" then
      .error (.error "availableTenantsClone.hasOwnProperty is not a function")
    else if availableTenantsClone.hasOwn globalTenantName then
      .ok (availableTenantsClone.delete globalTenantName).keys.head?
    else .ok availableTenantsClone.keys.head?
  else .ok availableTenantsClone.keys.head?

def resolve (toLowerCase : String → String) (username : String) (requestedTenant : Option String)
    (preferredTenants : Option (List String)) (availableTenants : Tenants)
    (globalTenantEnabled : Bool) (multitenancyEnabled privateTenantEnabled : Option Bool) :
    Except JsError (Option String) :=
  let availableTenantsClone := availableTenants.delete username
  let privateTenantEnabled := truthyFlag privateTenantEnabled
  if !globalTenantEnabled && !privateTenantEnabled && availableTenantsClone.keys.isEmpty then
    .ok none
  else if !truthyFlag multitenancyEnabled then
    if !globalTenantEnabled then .ok none else .ok (some GLOBAL_TENANT_SYMBOL)
  else
    match requestedTenant.bind fun requestedTenant =>
      resolveRequested username requestedTenant availableTenants globalTenantEnabled
        privateTenantEnabled with
    | some tenant => .ok (some tenant)
    | none =>
      match resolvePreferred toLowerCase username availableTenants globalTenantEnabled
        privateTenantEnabled (preferredTenants.getD []) with
      | some tenant => .ok (some tenant)
      | none =>
        if globalTenantEnabled then .ok (some GLOBAL_TENANT_SYMBOL)
        else if privateTenantEnabled then .ok (some PRIVATE_TENANT_SYMBOL)
        else firstAvailableTenant availableTenantsClone

/-- The tenant a request asks for: a query parameter, a header, the tenant of the session cookie, or
the default tenant of the backend, in this order. An empty parameter or header counts as absent, an
empty tenant in the cookie does not. -/
def selectedTenantOf (request : Request) (cookie : SecuritySessionCookie)
    (multitenancyEnabled : Option Bool) (defaultTenant : Option String) : Option String :=
  let securityTenant_ := request.url.param "securityTenant_"
  let securitytenant := request.url.param "securitytenant"
  let security_tenant := request.url.param "security_tenant"
  if truthyString securityTenant_ then securityTenant_
  else if truthyString securitytenant then securitytenant
  else if truthyString security_tenant then security_tenant
  else if truthyString (request.headers.own "securitytenant") then
    request.headers.own "securitytenant"
  else if truthyString (request.headers.own "securityTenant_") then
    request.headers.own "securityTenant_"
  else if cookie.tenant.isSome then cookie.tenant
  else if truthyString defaultTenant && truthyFlag multitenancyEnabled then defaultTenant
  else none

def DEFAULT_READONLY_ROLES : List String := ["kibana_read_only"]

/-- One of the roles is read-only. -/
def isReadonly (roles : Option (List String)) (config : SecurityPluginConfig) : Bool :=
  roles.any fun roles => roles.any fun role =>
    config.readonly_mode.roles.contains role || DEFAULT_READONLY_ROLES.contains role

/-- The code computes whether the user is read-only and does not use it. -/
def resolveTenant (toLowerCase : String → String) (request : Request) (username : String)
    (roles : Option (List String)) (availableTenants : Tenants) (config : SecurityPluginConfig)
    (cookie : SecuritySessionCookie) (multitenancyEnabled privateTenantEnabled : Option Bool)
    (defaultTenant : Option String) : Except JsError (Option String) :=
  let _isReadonly := isReadonly roles config
  resolve toLowerCase username (selectedTenantOf request cookie multitenancyEnabled defaultTenant)
    (some config.multitenancy.tenants.preferred) availableTenants
    config.multitenancy.tenants.enable_global multitenancyEnabled privateTenantEnabled

end SecurityDashboards
