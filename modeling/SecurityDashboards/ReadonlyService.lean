import SecurityDashboards.AuthenticationType

/-!
# The read-only service

`readonly/readonly_service.ts`: whether the user works in a tenant without write access.
-/

namespace SecurityDashboards

def CUSTOM_ERROR_PAGE_URI : String := "/app/customerror"

/-- `request.route.options.authRequired` -/
inductive AuthRequired where
  | boolean (authRequired : Bool)
  | optional
  | undefined
deriving DecidableEq

/-- A request with the option of its route. -/
structure RoutedRequest extends Request where
  authRequired : AuthRequired := .undefined

/-- `OpenSearchAuthInfo`, as far as the service reads it. -/
structure OpenSearchAuthInfo where
  user_requested_tenant : Option String := none
  tenants : Tenants
deriving DecidableEq

/-- The headers that the backend is asked with: those of the request, or those built from the
cookie. -/
inductive ForwardedHeaders where
  | ofRequest (headers : Js.Assigned String)
  | ofCookie (headers : HeaderObject)
deriving DecidableEq

structure ReadonlyService where
  config : SecurityPluginConfig
  auth : AuthenticationType
  /-- The pathname of `new URL(url)`, unless the constructor throws. -/
  urlPathname : String → Option String
  dashboardsinfo : Request → ForwardedHeaders → Except JsError DashboardsInfo
  authinfo : Request → ForwardedHeaders → Except JsError OpenSearchAuthInfo

namespace ReadonlyService

def ROUTES_TO_IGNORE : List String := [LOGIN_PAGE_URI, CUSTOM_ERROR_PAGE_URI]

/-- `tenants[name]` as a condition. An inherited name is truthy. -/
def readWriteAccess (tenants : Tenants) (name : String) : Bool :=
  match tenants.own name with
  | some access => access
  | none => Js.objectPrototype.contains name

def isReadOnlyTenant (authInfo : OpenSearchAuthInfo) : Bool :=
  let currentTenant :=
    if truthyString authInfo.user_requested_tenant then authInfo.user_requested_tenant.getD ""
    else globalTenantName
  if isPrivateTenant (some currentTenant) then false
  else !readWriteAccess authInfo.tenants currentTenant

section

variable (self : ReadonlyService)

/-- An empty header counts as a missing one. -/
def isAnonymousPage (request : RoutedRequest) : Except JsError Bool :=
  match request.authRequired with
  | .boolean authRequired => .ok !authRequired
  | _ =>
    if !truthyString (request.headers.own "referer") then .ok false
    else
      match self.urlPathname ((request.headers.own "referer").getD "") with
      | none => .error (.error "Invalid URL")
      | some pathname => .ok (ROUTES_TO_IGNORE.any fun path => Js.includes pathname path)

/-- `auth.buildAuthHeaderFromCookie(cookie, request)` -/
def buildAuthHeaderFromCookie (cookie : SecuritySessionCookie) (request : Request) :
    Except JsError HeaderObject :=
  ((self.auth.buildAuthHeaderFromCookie cookie request).exec {}).1

/-- The headers that `isReadonly` forwards. -/
def forwardedHeaders (request : RoutedRequest) : Option SecuritySessionCookie →
    Except JsError ForwardedHeaders
  | some cookie =>
    if self.auth.requestIncludesAuthInfo request.toRequest then .ok (.ofRequest request.headers)
    else (self.buildAuthHeaderFromCookie cookie request.toRequest).map .ofCookie
  | none => .ok (.ofRequest request.headers)

/-- The tenant of the cookie stands in for a missing one. -/
def withCookieTenant (authInfo : OpenSearchAuthInfo) (cookie : Option SecuritySessionCookie) :
    OpenSearchAuthInfo :=
  match cookie with
  | some cookie =>
    if truthyString authInfo.user_requested_tenant then authInfo
    else { authInfo with user_requested_tenant := cookie.tenant }
  | none => authInfo

/-- The body of the `try` block. -/
def resolveReadonly (request : RoutedRequest) : Except JsError Bool := do
  let cookie ← request.session
  let headers ← self.forwardedHeaders request cookie
  let dashboardsInfo ← self.dashboardsinfo request.toRequest headers
  if !truthyFlag dashboardsInfo.multitenancy_enabled then pure false
  else do
    let authInfo ← self.authinfo request.toRequest headers
    pure (isReadOnlyTenant (withCookieTenant authInfo cookie))

/-- The promise is rejected if the page test throws. Other errors are logged. -/
def isReadonly (request : RoutedRequest) : Except JsError Bool :=
  if !self.config.multitenancy.enabled then .ok false
  else do
    if ← self.isAnonymousPage request then pure false
    else
      match self.resolveReadonly request with
      | .ok answer => pure answer
      | .error _ => pure false

end

/-! ## What the answer should be -/

section

variable (service : ReadonlyService)

/-- The Referer that the page test reads. -/
def referer (request : RoutedRequest) : Option String :=
  match request.authRequired with
  | .boolean _ => none
  | _ => (request.headers.own "referer").filter (· != "")

/-- The pages without a user, under the base path of the server. -/
def anonymousPages (serverBasePath : String) : List String :=
  ROUTES_TO_IGNORE.map (serverBasePath ++ ·)

/-- A boolean option of the route decides, otherwise the path of the Referer. -/
def OnAnonymousPage (serverBasePath : String) (request : RoutedRequest) : Prop :=
  request.authRequired = .boolean false ∨
    ∃ url path, referer request = some url ∧ service.urlPathname url = some path ∧
      path ∈ anonymousPages serverBasePath

/-- All calls succeed, with these answers. -/
structure Answered (request : RoutedRequest) (cookie : Option SecuritySessionCookie)
    (dashboardsInfo : DashboardsInfo) (authInfo : OpenSearchAuthInfo) (headers : ForwardedHeaders) :
    Prop where
  session : request.session = .ok cookie
  forwarded : service.forwardedHeaders request cookie = .ok headers
  dashboardsinfo : service.dashboardsinfo request.toRequest headers = .ok dashboardsInfo
  authinfo : service.authinfo request.toRequest headers = .ok authInfo

/-- The first of the tenants that is there and not empty. -/
def effectiveTenant (authInfo : OpenSearchAuthInfo) (cookie : Option SecuritySessionCookie) :
    String :=
  ((authInfo.user_requested_tenant.filter (· != "")).or
    ((cookie.bind (·.tenant)).filter (· != ""))).getD globalTenantName

/-- The user may not write to the tenant. -/
def LacksWriteAccess (tenants : Tenants) (tenant : String) : Prop :=
  tenant ≠ PRIVATE_TENANT_SYMBOL ∧ tenants.own tenant ≠ some true

/-- All calls succeed, with multitenancy enabled and a tenant without write access. -/
def WorksReadonly (request : RoutedRequest) : Prop :=
  ∃ cookie dashboardsInfo authInfo headers,
    service.Answered request cookie dashboardsInfo authInfo headers ∧
      dashboardsInfo.multitenancy_enabled = some true ∧
      LacksWriteAccess authInfo.tenants (effectiveTenant authInfo cookie)

/-- The requirement: the promise resolves, to true exactly for a user who may not write. -/
def Exact (serverBasePath : String) (request : RoutedRequest) : Prop :=
  ∃ answer, service.isReadonly request = .ok answer ∧
    (answer = true ↔ service.config.multitenancy.enabled = true ∧
      ¬service.OnAnonymousPage serverBasePath request ∧ service.WorksReadonly request)

/-! ## Where the code differs -/

/-- The path of the Referer contains the path of an anonymous page, but is none. -/
def OnSimilarPage (serverBasePath : String) (request : RoutedRequest) : Prop :=
  ∃ url path, referer request = some url ∧ service.urlPathname url = some path ∧
    (∃ page ∈ ROUTES_TO_IGNORE, Js.includes path page = true) ∧
    path ∉ anonymousPages serverBasePath

/-- The tenant is no tenant of the user, but has an inherited name. -/
def InInheritedTenant (request : RoutedRequest) : Prop :=
  ∃ cookie dashboardsInfo authInfo headers,
    service.Answered request cookie dashboardsInfo authInfo headers ∧
      authInfo.tenants.own (effectiveTenant authInfo cookie) = none ∧
      effectiveTenant authInfo cookie ∈ Js.objectPrototype

/-- A Referer that is read is a URL. For a user who may not write, its path is that of an anonymous
page or not similar to one, and the tenant has no inherited name. -/
def Regular (serverBasePath : String) (request : RoutedRequest) : Prop :=
  (∀ url, referer request = some url → (service.urlPathname url).isSome = true) ∧
    (service.WorksReadonly request → ¬service.OnSimilarPage serverBasePath request ∧
      (service.OnAnonymousPage serverBasePath request ∨ ¬service.InInheritedTenant request))

end

end ReadonlyService

end SecurityDashboards
