import SecurityDashboards.AuthState
import SecurityDashboards.CookieSplitter
import SecurityDashboards.Lib.Proc
import SecurityDashboards.NextUrl
import SecurityDashboards.TokenEndpoint

/-!
# Authentication types

`auth/types/authentication_type.ts`. A concrete type is the record of the methods it implements;
`authHandler` and the methods that no type overrides are defined over the record.

While a request is handled, three things change: the queue of split cookies (and, for OpenID, the
log of token responses), the pending write of the session cookie, and the log of backend calls.
-/

namespace SecurityDashboards

/-- What the methods of a concrete type may change. -/
structure Queue where
  states : States := []
  /-- What the token endpoint answered, the latest first. -/
  tokenCalls : List (Except JsError TokenResponse) := []

/-- A call of the backend with the headers handed to it, and its answer. -/
inductive BackendCall where
  | authinfo (headers : HeaderObject) (answer : Except String AuthInfo)
  | dashboardsinfo (headers : HeaderObject) (answer : Except String DashboardsInfo)

/-- What changes while a request is handled. -/
structure World where
  queue : Queue := {}
  /-- The pending write of the session cookie: none, clearing it, or setting it. -/
  session : Option (Option SecuritySessionCookie) := none
  /-- The backend calls so far, the latest first. -/
  calls : List BackendCall := []

/-- The services the server calls. What they answer may depend on everything that was asked
before. -/
structure Environment where
  authinfo : List BackendCall → Request → HeaderObject → Except String AuthInfo
  dashboardsinfo : List BackendCall → Request → HeaderObject → Except String DashboardsInfo
  tokenEndpoint : TokenQuery → Except String TokenHttpResponse

/-- How a request without authentication is answered. -/
inductive Refusal where
  | redirected (location : String) (setCookie : Option String)
  | unauthorized (body : Option String)
  | notHandled
deriving DecidableEq

/-- The argument of `toolkit.authenticated`. -/
structure Authenticated where
  requestHeaders : HeaderObject
  state : AuthState
deriving DecidableEq

/-- The answer of `authHandler`. -/
inductive AuthResult where
  | authenticated (result : Option Authenticated)
  | refused (refusal : Refusal)
  | badRequest (body : String)
deriving DecidableEq

/-- The methods that the concrete types implement. `isValidCookie` changes the cookie object it is
given, so it returns the cookie as well. -/
structure AuthenticationType where
  requestIncludesAuthInfo : Request → Bool
  getAdditionalAuthHeader : Request → Except JsError HeaderObject
  getCookie : Request → AuthInfo → Proc Queue JsError SecuritySessionCookie
  isValidCookie : SecuritySessionCookie → Request →
    Proc Queue JsError (Bool × SecuritySessionCookie)
  getKeepAliveExpiry : SecuritySessionCookie → Request → Proc Queue JsError (Option ℚ)
  buildAuthHeaderFromCookie : SecuritySessionCookie → Request → Proc Queue JsError HeaderObject
  handleUnauthedRequest : Request → Refusal

def ROUTES_TO_IGNORE : List String := ["/app/login"]
def ROUTES_AUTH_OPTIONAL : List String := ["/api/core/capabilities"]

def authNotRequired (config : SecurityPluginConfig) (request : Request) : Bool :=
  if request.url.pathname = "" then false
  else ROUTES_TO_IGNORE.contains request.url.pathname ||
    config.auth.unauthenticated_routes.contains request.url.pathname

def authOptional (request : Request) : Bool :=
  if request.url.pathname = "" then false else ROUTES_AUTH_OPTIONAL.contains request.url.pathname

def isBundleRequest (request : Request) : Bool := Js.startsWith request.url.pathname "/bundles/"

/-! ## The world of a request -/

namespace World

def onQueue {α : Type} (x : Proc Queue JsError α) : Proc World JsError α :=
  Proc.zoom World.queue (fun w queue => { w with queue }) x

/-- `sessionStorageFactory.asScoped(request).set(cookie)` -/
def setSession (cookie : SecuritySessionCookie) : Proc World JsError Unit :=
  Proc.update fun w => { w with session := some (some cookie) }

/-- `sessionStorageFactory.asScoped(request).clear()` -/
def clearSession : Proc World JsError Unit :=
  Proc.update fun w => { w with session := some none }

end World

open World

/-- `SecurityClient.authinfo` -/
def authinfo (environment : Environment) (request : Request) (headers : HeaderObject) :
    Proc World JsError AuthInfo := do
  let w ← get
  let answer := environment.authinfo w.calls request headers
  Proc.update fun w => { w with calls := .authinfo headers answer :: w.calls }
  Proc.ofExcept (answer.mapError JsError.error)

/-- `SecurityClient.dashboardsinfo` -/
def dashboardsinfo (environment : Environment) (request : Request) (headers : HeaderObject) :
    Proc World JsError DashboardsInfo := do
  let w ← get
  let answer := environment.dashboardsinfo w.calls request headers
  Proc.update fun w => { w with calls := .dashboardsinfo headers answer :: w.calls }
  Proc.ofExcept (answer.mapError JsError.error)

namespace AuthenticationType

variable (self : AuthenticationType) (server : Server) (environment : Environment)

/-- The authentication of the user in `resolveTenant`. -/
def tenantAuthInfo (request : Request) (authHeader : HeaderObject) :
    Option AuthInfo → Proc World JsError AuthInfo
  | some authInfo => pure authInfo
  | none => do
    match ← Proc.attempt (authinfo environment request authHeader) with
    | .ok authInfo => pure authInfo
    | .error error =>
      throw (.unauthenticatedError ("Failed authentication: " ++ error.message))

/-- `AuthenticationType.resolveTenant`. Deleting from missing tenants throws. -/
def resolveTenant (request : Request) (cookie : SecuritySessionCookie) (authHeader : HeaderObject)
    (authInfo : Option AuthInfo) : Proc World JsError (Option String) := do
  let authInfo ← tenantAuthInfo environment request authHeader authInfo
  let dashboardsInfo ← dashboardsinfo environment request authHeader
  match authInfo.tenants with
  | none => throw (.error "Cannot convert undefined or null to object")
  | some tenants =>
    Proc.ofExcept (SecurityDashboards.resolveTenant server.runtime.toLowerCase request
      (authInfo.user_name.getD "undefined") authInfo.roles tenants server.config cookie
      dashboardsInfo.multitenancy_enabled dashboardsInfo.private_tenant_enabled
      dashboardsInfo.default_tenant)

/-- The authentication of the user, unless it was done before. -/
def ensureAuthInfo (request : Request) (authHeaders : HeaderObject) :
    Option AuthInfo → Proc World JsError AuthInfo
  | some authInfo => pure authInfo
  | none => authinfo environment request authHeaders

/-- The end of `authHandler`. -/
def finish (request : Request) (authHeaders : HeaderObject) (authInfo : Option AuthInfo)
    (selectedTenant : Option String) : Proc World JsError AuthResult := do
  let authInfo ← ensureAuthInfo environment request authHeaders authInfo
  pure (.authenticated (some
    { requestHeaders := authHeaders, state := { authInfo := some authInfo, selectedTenant } }))

/-- "set tenant to cookie" -/
def setTenant (cookie : SecuritySessionCookie) (tenant : String) : Proc World JsError Unit :=
  if cookie.tenant = some tenant then pure ()
  else setSession { cookie with tenant := some tenant }

/-- The headers with the tenant in them. -/
def tenantHeaders (authHeaders : HeaderObject) (tenant : String) : HeaderObject :=
  authHeaders.set "securitytenant" (.str
    (if server.config.multitenancy.enable_aggregation_view then GLOBAL_TENANT_SYMBOL else tenant))

/-- "resolve tenant if necessary" -/
def withTenant (request : Request) (cookie : SecuritySessionCookie) (authHeaders : HeaderObject)
    (authInfo : Option AuthInfo) : Proc World JsError AuthResult := do
  if server.config.multitenancy.enabled then
    match ← Proc.attempt
        (resolveTenant server environment request cookie authHeaders authInfo) with
    | .ok none =>
      pure (.badRequest ("No available tenant for current user, please reach out to your " ++
        "system administrator"))
    | .ok (some tenant) =>
      setTenant cookie tenant
      finish environment request (tenantHeaders server authHeaders tenant) authInfo (some tenant)
    | .error (.unauthenticatedError _) =>
      if isBundleRequest request then pure (.refused .notHandled)
      else do
        clearSession
        pure (.refused (self.handleUnauthedRequest request))
    | .error (.error message) => throw (.error message)
  else finish environment request authHeaders authInfo none

/-- The tenant of the browser's cookie is kept on a new login. -/
def keepTenant (cookie : SecuritySessionCookie) (browserCookie : Option SecuritySessionCookie) :
    SecuritySessionCookie :=
  match browserCookie.bind (·.tenant) with
  | some tenant => { cookie with tenant := some tenant }
  | none => cookie

/-- Authentication with the data of the request itself. -/
def authenticateRequest (request : Request) :
    Proc World JsError (SecuritySessionCookie × HeaderObject × AuthInfo) := do
  let additionalAuthHeader ← Proc.ofExcept (self.getAdditionalAuthHeader request)
  let authHeaders := Js.Assigned.empty.assign additionalAuthHeader
  let authInfo ← authinfo environment request additionalAuthHeader
  let cookie ← onQueue (self.getCookie request authInfo)
  let browserCookie ← Proc.ofExcept request.session
  let cookie := keepTenant cookie browserCookie
  setSession cookie
  pure (cookie, authHeaders, authInfo)

/-- "If the cookie is not valid, clear the cookie and send the request to the authentication
workflow" -/
def rejectCookie (request : Request) : Proc World JsError AuthResult := do
  clearSession
  pure (if isBundleRequest request then .refused .notHandled
    else if authOptional request then .authenticated none
    else .refused (self.handleUnauthedRequest request))

/-- "If the cookie is still valid, update the cookie with a new expiry time." -/
def keepAlive (cookie : SecuritySessionCookie) (request : Request) :
    Proc World JsError SecuritySessionCookie := do
  if server.config.session.keepalive then
    let expiryTime ← onQueue (self.getKeepAliveExpiry cookie request)
    let cookie := { cookie with expiryTime }
    setSession cookie
    pure cookie
  else pure cookie

/-- The headers of a request that is authenticated by its cookie. -/
def cookieHeaders (cookie : SecuritySessionCookie) (request : Request) :
    Proc World JsError HeaderObject := do
  let authHeadersFromCookie ← onQueue (self.buildAuthHeaderFromCookie cookie request)
  let additionalAuthHeader ← Proc.ofExcept (self.getAdditionalAuthHeader request)
  pure ((Js.Assigned.empty.assign authHeadersFromCookie).assign additionalAuthHeader)

/-- Authentication with the stored cookie. -/
def authenticateCookie (cookie : SecuritySessionCookie) (request : Request) :
    Proc World JsError AuthResult := do
  let (isValid, cookie) ← onQueue (self.isValidCookie cookie request)
  if isValid then
    let cookie ← self.keepAlive server cookie request
    let authHeaders ← self.cookieHeaders cookie request
    self.withTenant server environment request cookie authHeaders none
  else self.rejectCookie request

def authHandler (request : Request) : Proc World JsError AuthResult := do
  if authNotRequired server.config request then pure (.authenticated none)
  else if self.requestIncludesAuthInfo request then
    match ← Proc.attempt (self.authenticateRequest environment request) with
    | .ok (cookie, authHeaders, authInfo) =>
      self.withTenant server environment request cookie authHeaders (some authInfo)
    | .error error => pure (.refused (.unauthorized (some error.message)))
  else
    -- A storage that cannot be read counts as one without a cookie.
    match request.session.toOption.join with
    | none => self.rejectCookie request
    | some cookie => self.authenticateCookie server environment cookie request

end AuthenticationType

/-! ## The browser afterwards -/

/-- The browser after the response: the session cookie as far as it was written, and the split
cookies. -/
def Browser.after (browser : Browser) (w : World) : Browser :=
  { (browser.applyStates w.queue.states) with
    session := match w.session with
      | some session => session.map SecuritySessionCookie.stored
      | none => browser.session }

end SecurityDashboards
