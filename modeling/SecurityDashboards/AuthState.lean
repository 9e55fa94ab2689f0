import SecurityDashboards.TenantResolver

/-!
# What the backend tells about a user
-/

namespace SecurityDashboards

/-- The answer of the backend's `authinfo`, a JSON object, as far as the code reads it. `username`
is not a documented field of it. -/
structure AuthInfo where
  user_name : Option String := none
  username : Option String := none
  roles : Option (List String) := none
  backend_roles : Option (List String) := none
  sso_logout_url : Option String := none
  tenants : Option Tenants := none
deriving DecidableEq

/-- The answer of `dashboardsinfo`. -/
structure DashboardsInfo where
  multitenancy_enabled : Option Bool := none
  private_tenant_enabled : Option Bool := none
  default_tenant : Option String := none

/-- `OpenSearchDashboardsAuthState` -/
structure AuthState where
  authInfo : Option AuthInfo := none
  selectedTenant : Option String := none
deriving DecidableEq

end SecurityDashboards
