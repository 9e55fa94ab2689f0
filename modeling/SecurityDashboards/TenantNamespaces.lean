import SecurityDashboards.SavedObjectsWrapper
import SecurityDashboards.TenantPicks

/-!
# Tenant namespaces

`getNamespacesToRegister` of `public/apps/configuration/utils/tenant-utils.tsx`: the namespaces that
the client registers for an account. The server should store the objects of a tenant in one of them;
`RegisteredPicks` says when the picks of `resolve` meet this.
-/

namespace SecurityDashboards

/-- The texts for the global or the private tenant, as far as they are used here. -/
structure UserDict where
  Label : String
  Value : String

def GLOBAL_USER_DICT : UserDict where
  Label := "Global"
  Value := GLOBAL_TENANT_SYMBOL

def PRIVATE_USER_DICT : UserDict where
  Label := "Private"
  Value := "__user__"

structure SavedObjectsManagementNamespace where
  id : String
  name : String
deriving DecidableEq

/-- The namespace of one available tenant. -/
def namespaceToRegister (user_name : Option String) (tenant : String) :
    SavedObjectsManagementNamespace :=
  if tenant = globalTenantName then
    { id := GLOBAL_USER_DICT.Value, name := GLOBAL_USER_DICT.Label }
  else if some tenant = user_name then
    { id := PRIVATE_USER_DICT.Value ++ tenant, name := PRIVATE_USER_DICT.Label }
  else { id := tenant, name := tenant }

def getNamespacesToRegister (accountInfo : AuthInfo) : List SavedObjectsManagementNamespace :=
  let tenants := accountInfo.tenants.getD .empty
  tenants.keys.map (namespaceToRegister accountInfo.user_name) ++
    [{ id := DEFAULT_TENANT, name := DEFAULT_TENANT }]

/-- The namespace `n` is registered for the account. -/
def Registers (accountInfo : AuthInfo) (n : Namespace) : Prop :=
  ∃ registered ∈ getNamespacesToRegister accountInfo, n = .name registered.id

namespace Resolution

variable (toLowerCase : String → String) (i : Resolution)

/-- The account that the tenant is resolved for. -/
def accountInfo : AuthInfo where
  user_name := some i.username
  tenants := some i.availableTenants

/-- A saved objects client of this account in the tenant `t`. -/
def wrapper (config : SecurityPluginConfig) (t : String) : Wrapper where
  state := { authInfo := some i.accountInfo, selectedTenant := some t }
  config := config

/-- The backend lists the private and the global tenant of the account where they are enabled, and
the configuration file has the same flags. -/
structure Consistent (config : SecurityPluginConfig) : Prop where
  enable_private : config.multitenancy.tenants.enable_private = i.privateEnabled
  enable_global : config.multitenancy.tenants.enable_global = i.globalTenantEnabled
  private_listed : i.privateEnabled = true → i.availableTenants.hasOwn i.username = true
  global_listed : i.globalTenantEnabled = true → i.availableTenants.hasOwn globalTenantName = true

/-- The user is not called like the global tenant, which comes first, or there happens to be a
tenant of the same name as the private namespace. -/
def PrivateRegistered : Prop :=
  i.username ≠ globalTenantName ∨
    i.availableTenants.hasOwn (PRIVATE_TENANT_SYMBOL ++ i.username) = true

/-- The name `k` is a tenant that is registered under its own name. The name of the user is only
registered if it coincides with another namespace. -/
structure RegisteredKey (k : String) : Prop where
  own : i.availableTenants.hasOwn k = true
  not_global : k ≠ globalTenantName
  username : k = i.username → k = DEFAULT_TENANT ∨
    (k = GLOBAL_TENANT_SYMBOL ∧ i.availableTenants.hasOwn globalTenantName = true) ∨
    (k = PRIVATE_TENANT_SYMBOL ∧ i.privateEnabled = true)
  symbol : k = PRIVATE_TENANT_SYMBOL → i.privateEnabled = true → i.PrivateRegistered

/-- No pick leads to a raw name of the global or the private tenant, or to an inherited name. -/
structure RegisteredPicks : Prop where
  raw : i.Active → ∀ k, i.RawPick toLowerCase k → i.RegisteredKey k
  privateTenant : i.Active → i.PrivatePick toLowerCase → i.PrivateRegistered
  /-- There is another tenant than the disabled global one. -/
  first : i.Active → i.FirstPick toLowerCase → i.otherTenants.keys ≠ [globalTenantName]

end Resolution

end SecurityDashboards
