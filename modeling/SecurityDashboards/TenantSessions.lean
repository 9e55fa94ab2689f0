import SecurityDashboards.Sessions

/-!
# The tenant of a session

`authHandler` gives the tenant it resolves to three places: the auth state, the session cookie and a
header of the request. Through the cookie the tenant comes back with the next request of the
session.
-/

namespace SecurityDashboards

/-- The tenant in the session cookie that the session storage reads. -/
def Request.tenantBefore (request : Request) : Option String :=
  request.session.toOption.join.bind (·.tenant)

/-- The tenant in the session cookie that the browser holds after the response. -/
def Request.tenantAfter (request : Request) (w : World) : Option String :=
  (request.cookies.after w).session.bind (·.tenant)

/-- The tenant in the auth state, the one in the browser's cookie and the one in the header agree,
except that the aggregation view hides the tenant from the backend. -/
def TenantsAgree (server : Server) (request : Request) (a : Authenticated) (w : World) : Prop :=
  ∃ tenant, a.state.selectedTenant = some tenant ∧ request.tenantAfter w = some tenant ∧
    a.requestHeaders.own "securitytenant" = some (.str
      (if server.config.multitenancy.enable_aggregation_view then "" else tenant))

/-! ## Later requests -/

/-- The request asks for no tenant. An empty parameter or header counts as absent. -/
structure Request.NamesNoTenant (request : Request) : Prop where
  params : ∀ name ∈ ["securityTenant_", "securitytenant", "security_tenant"],
    truthyString (request.url.param name) = false
  headers : ∀ name ∈ ["securitytenant", "securityTenant_"],
    truthyString (request.headers.own name) = false

/-- Whenever the backend answers, it says this about the user and about the tenants. -/
structure Environment.Tells (environment : Environment) (authInfo : AuthInfo)
    (dashboardsInfo : DashboardsInfo) : Prop where
  authinfo : ∀ calls request headers answer,
    environment.authinfo calls request headers = .ok answer → answer = authInfo
  dashboardsinfo : ∀ calls request headers answer,
    environment.dashboardsinfo calls request headers = .ok answer → answer = dashboardsInfo

/-- `resolve` for a user of whom the backend tells this. -/
def Server.resolveFor (server : Server) (authInfo : AuthInfo) (dashboardsInfo : DashboardsInfo)
    (requestedTenant : Option String) : Except JsError (Option String) :=
  match authInfo.tenants with
  | none => .error (.error "Cannot convert undefined or null to object")
  | some tenants =>
    resolve server.runtime.toLowerCase (authInfo.user_name.getD "undefined") requestedTenant
      (some server.config.multitenancy.tenants.preferred) tenants
      server.config.multitenancy.tenants.enable_global dashboardsInfo.multitenancy_enabled
      dashboardsInfo.private_tenant_enabled

/-- The session goes on: the request asks for no tenant, the backend tells what it told before, and a
request with authentication data of its own comes with a session cookie that can be read. -/
def Continues (server : Server) (scheme : Scheme) (authInfo : AuthInfo)
    (dashboardsInfo : DashboardsInfo) : Event → History → Prop
  | .visit v, s =>
    v.request.NamesNoTenant ∧ v.environment.Tells authInfo dashboardsInfo ∧
      ((scheme.authentication server v.environment).requestIncludesAuthInfo (v.sent s) = true →
        ∃ cookie, (v.sent s).session = .ok (some cookie))
  | .replaced _, _ => False

/-- The answer to a request: it selects no other tenant, and the tenant is available. -/
def SelectsOnly (tenant : String) (output : Option (Except JsError AuthResult)) : Prop :=
  (∀ a, output = some (.ok (.authenticated (some a))) → a.state.selectedTenant = some tenant) ∧
    ∀ body, output ≠ some (.ok (.badRequest body))

end SecurityDashboards
