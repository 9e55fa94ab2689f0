import Mathlib.Data.Rat.Defs
import Mathlib.Algebra.Order.Ring.Rat

/-!
# Constants and configuration

The constants of `common/index.ts`, the part of the configuration schema of `server/index.ts` that
the authentication and tenancy code reads, and the errors that this code throws.
-/

namespace SecurityDashboards

def GLOBAL_TENANT_SYMBOL : String := ""
def PRIVATE_TENANT_SYMBOL : String := "__user__"
def DEFAULT_TENANT : String := "default"
def globalTenantName : String := "global_tenant"

def AUTH_HEADER_NAME : String := "authorization"
def OPENDISTRO_SECURITY_ANONYMOUS : String := "opendistro_security_anonymous"
def LOGIN_PAGE_URI : String := "/app/login"
def ANONYMOUS_AUTH_LOGIN : String := "/auth/anonymous"
def OPENID_AUTH_LOGIN : String := "/auth/openid/login"
def AUTH_GRANT_TYPE : String := "authorization_code"
def AUTH_RESPONSE_TYPE : String := "code"

/-- The texts of `AuthType`. -/
def BASIC : String := "basicauth"
def OPEN_ID : String := "openid"
def JWT : String := "jwt"
def SAML : String := "saml"
def PROXY : String := "proxy"

def MAX_LENGTH_OF_COOKIE_BYTES : ℕ := 4000

/-- `isPrivateTenant` of `common/index.ts` on a selected tenant. -/
def isPrivateTenant (selectedTenant : Option String) : Bool :=
  selectedTenant == some PRIVATE_TENANT_SYMBOL

/-- The errors the server code throws: the plain `Error` (or `TypeError`) and the one class that
`authHandler` tells apart. -/
inductive JsError where
  | error (message : String)
  | unauthenticatedError (message : String)
deriving DecidableEq

/-- `error.message` -/
def JsError.message : JsError → String
  | .error m => m
  | .unauthenticatedError m => m

/-! ## Configuration -/

structure CookieConfig where
  /-- Unset, the listener decides. -/
  secure : Option Bool := none

structure TenantsConfig where
  enable_private : Bool := true
  enable_global : Bool := true
  preferred : List String := []

structure MultitenancyConfig where
  enabled : Bool := false
  enable_aggregation_view : Bool := false
  tenants : TenantsConfig := {}

structure ReadonlyModeConfig where
  roles : List String := []

structure SessionConfig where
  /-- Milliseconds; the schema allows any number. -/
  ttl : ℚ := 15 * 60 * 1000
  keepalive : Bool := true

structure AuthConfig where
  /-- One type, or several for `MultipleAuthentication`. -/
  type : List String := [""]
  multiple_auth_enabled : Bool := false
  anonymous_auth_enabled : Bool := false
  unauthenticated_routes : List String := ["/api/reporting/stats"]
  forbidden_usernames : List String := []

/-- `extra_storage`: how many split cookies there are and the prefix of their names. -/
structure ExtraStorageConfig where
  cookie_prefix : String
  additional_cookies : ℕ

structure OpenIdConfig where
  header : String := "Authorization"
  client_id : Option String := none
  client_secret : String := ""
  base_redirect_url : String := ""
  logout_url : String := ""
  refresh_tokens : Bool := true
  trust_dynamic_headers : Bool := false
  additional_parameters : List (String × String) := []
  extra_storage : ExtraStorageConfig := ⟨"security_authentication_oidc", 5⟩

structure SamlConfig where
  extra_storage : ExtraStorageConfig := ⟨"security_authentication_saml", 3⟩

structure JwtConfig where
  url_param : String := "authorization"
  header : String := "Authorization"
  extra_storage : ExtraStorageConfig := ⟨"security_authentication_jwt", 5⟩

structure ProxyCacheConfig where
  user_header : Option String := none
  roles_header : Option String := none
  proxy_header : Option String := none
  proxy_header_ip : Option String := none
  login_endpoint : Option String := none

/-- The plugin configuration. `openid` is optional in the schema, but only the OpenID type reads it,
and that type is not constructed without it. -/
structure SecurityPluginConfig where
  readonly_mode : ReadonlyModeConfig := {}
  multitenancy : MultitenancyConfig := {}
  cookie : CookieConfig := {}
  session : SessionConfig := {}
  auth : AuthConfig := {}
  openid : OpenIdConfig := {}
  saml : SamlConfig := {}
  jwt : Option JwtConfig := none
  proxycache : Option ProxyCacheConfig := none

end SecurityDashboards
