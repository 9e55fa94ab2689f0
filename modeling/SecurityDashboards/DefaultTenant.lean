import SecurityDashboards.Lib.JsArray
import SecurityDashboards.TenantNamespaces
import SecurityDashboards.TenantSessions

/-!
# The default tenant

What the tenant list of `panels/tenant-list/manage_tab.tsx` says about the default tenant, beside the
server, which lets users into it. The text of its modal is "Users will load into the tenant when they
log into Dashboards if they have the appropriate permissions. If users don't have permissions to a
custom tenant they will load into the global tenant."
-/

namespace SecurityDashboards

namespace TenantList

/-- A tenant in the answer of the backend, which has it under its name. -/
structure TenantData where
  reserved : Bool
  description : String
deriving DecidableEq

structure Tenant where
  tenant : String
  reserved : Bool
  description : String
  tenantValue : String
deriving DecidableEq

def globalDescription : String := "Everyone can see it"

/-- The row of a tenant. An empty name is the symbol of the global tenant. -/
def tenantOf (entry : String × TenantData) : Tenant where
  tenant := if entry.1 = globalTenantName then GLOBAL_USER_DICT.Label else entry.1
  reserved := entry.2.reserved
  description := if entry.1 = globalTenantName then globalDescription else entry.2.description
  tenantValue := if entry.1 = globalTenantName then GLOBAL_USER_DICT.Value else entry.1

def privateTenant : Tenant where
  tenant := PRIVATE_USER_DICT.Label
  reserved := true
  description := "Only visible to the current logged in user"
  tenantValue := PRIVATE_USER_DICT.Value

def transformTenantData (rawTenantData : Js.PlainObject TenantData) : List Tenant :=
  Js.splice (rawTenantData.props.map tenantOf) 1 0 [privateTenant]

/-- The texts of `loadTenantStatus`. -/
inductive TenantStatus where
  | defaultTenant
  | enabled
  | disabled
deriving DecidableEq

def loadTenantStatus (info : DashboardsInfo) (tenantName : String) : TenantStatus :=
  let isMultiTenancyEnabled := truthyFlag info.multitenancy_enabled
  let isPrivateTenantEnabled := truthyFlag info.private_tenant_enabled
  let dashboardsDefaultTenant := info.default_tenant
  if tenantName = "Global" then
    if isMultiTenancyEnabled = false ∨ some tenantName = dashboardsDefaultTenant ∨
        (dashboardsDefaultTenant = some "Private" ∧ isPrivateTenantEnabled = false) ∨
        dashboardsDefaultTenant = some "" then
      .defaultTenant
    else .enabled
  else if tenantName = "Private" then
    if isPrivateTenantEnabled && isMultiTenancyEnabled then
      if some tenantName = dashboardsDefaultTenant then .defaultTenant else .enabled
    else .disabled
  else if isMultiTenancyEnabled then
    if some tenantName = dashboardsDefaultTenant then .defaultTenant else .enabled
  else .disabled

/-- `setSelectedTenantAsGlobalDefaultAPICall`: the configuration that is sent. -/
def setSelectedTenantAsGlobalDefault (info : DashboardsInfo) (selection : Tenant) : DashboardsInfo where
  multitenancy_enabled := some (truthyFlag info.multitenancy_enabled)
  private_tenant_enabled := some (truthyFlag info.private_tenant_enabled)
  default_tenant := some selection.tenant

/-! ## What the page promises -/

/-- The names that stand for the global or the private tenant. -/
def aliases : List String := GLOBAL_TENANTS ++ PRIVATE_TENANTS

/-- The backend lists the global tenant, and no custom one is named like it or like the private one. -/
structure Listed (rawTenantData : Js.PlainObject TenantData) : Prop where
  globalTenant : globalTenantName ∈ rawTenantData.keys
  custom : ∀ name ∈ aliases, name ∉ rawTenantData.keys

/-- A user to whom the backend gives these tenants, none of which is named like the global or the
private one. -/
structure Member (told : AuthInfo) (tenants : Tenants) : Prop where
  told : told.tenants = some tenants
  custom : ∀ name ∈ aliases, tenants.has name = false

/-- The global tenant is open to everybody, the private one to whoever has one. -/
def MayUse (told : AuthInfo) (tenants : Tenants) (row : Tenant) : Prop :=
  row.tenantValue = GLOBAL_TENANT_SYMBOL ∨
    (row.tenantValue = PRIVATE_TENANT_SYMBOL ∧
      tenants.has (told.user_name.getD "undefined") = true) ∨
    tenants.has row.tenantValue = true

instance (told : AuthInfo) (tenants : Tenants) (row : Tenant) : Decidable (MayUse told tenants row) :=
  inferInstanceAs (Decidable (_ ∨ _))

/-- The tenant that the modal announces to a user. -/
def announced (told : AuthInfo) (tenants : Tenants) (row : Tenant) : String :=
  if MayUse told tenants row then row.tenantValue else GLOBAL_TENANT_SYMBOL

/-- The configuration of the server enables the global tenant and prefers no other one. -/
structure PrefersGlobal (server : Server) : Prop where
  enable_global : server.config.multitenancy.tenants.enable_global = true
  preferred : ∀ element ∈ server.config.multitenancy.tenants.preferred,
    server.runtime.toLowerCase element ∈ GLOBAL_TENANTS

/-- A session of the user starts in the tenant, and stays there while its requests ask for no
other one. -/
structure LoadsInto (server : Server) (told : AuthInfo) (info : DashboardsInfo) (tenant : String) :
    Prop where
  starts : ∀ (request : Request) (cookie : SecuritySessionCookie), request.NamesNoTenant →
    cookie.tenant = none →
      server.resolveFor told info (selectedTenantOf request cookie info.multitenancy_enabled
        info.default_tenant) = .ok (some tenant)
  stays : server.config.multitenancy.enabled = true → ∀ (scheme : Scheme) (events : List Event)
    (s : History), (∀ cookie, s.browser.session = some cookie → cookie.tenant = some tenant) →
      Machine.Meets (sessionStep server scheme) (Continues server scheme told info) events s →
        ∀ output ∈ Machine.trace (sessionStep server scheme) events s,
          SelectsOnly tenant output.2

/-- The default tenant is one of the list, or none is chosen, or multitenancy is disabled. -/
def Chosen (rawTenantData : Js.PlainObject TenantData) (info : DashboardsInfo) : Prop :=
  truthyFlag info.multitenancy_enabled = false ∨ info.default_tenant = some "" ∨
    ∃ row ∈ transformTenantData rawTenantData, info.default_tenant = some row.tenant

/-- The row is the one that is marked as the default tenant. -/
def IsMarked (rawTenantData : Js.PlainObject TenantData) (info : DashboardsInfo) (row : Tenant) :
    Prop :=
  row ∈ transformTenantData rawTenantData ∧
    ∀ other ∈ transformTenantData rawTenantData,
      loadTenantStatus info other.tenant = .defaultTenant ↔ other = row

end TenantList

end SecurityDashboards
