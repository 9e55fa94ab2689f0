import SecurityDashboards.AuthRoutes.Basic
import SecurityDashboards.AuthRoutes.OpenId
import SecurityDashboards.AuthRoutes.Saml
import SecurityDashboards.Rejection

/-!
# Attempts to authenticate

The ways in which a browser may try to start or to renew a session, which answers count as a
failure, and what a failure should leave behind: nothing. For each way, `Attempt.Sound` says when it
does.
-/

namespace SecurityDashboards

/-! ## Attempts -/

inductive Attempt where
  /-- `authHandler`, on a request with authentication data. -/
  | header (scheme : Scheme)
  /-- `authHandler`, on a stored session whose token has expired. -/
  | refresh (scheme : Scheme)
  | openIdCallback
  | samlAcs (samlResponse : String)
  | samlIdpInitiated (samlResponse : String)
  | basicLogin (username password : String)
  | anonymousLogin

/-- The answer to an attempt. -/
inductive Answer where
  | handler (result : AuthResult)
  | route (response : RouteResponse)

/-- An error, an unauthorized response, or a redirect back to the login. -/
def Answer.Fails : Except JsError Answer → Prop
  | .error _ => True
  | .ok (.handler (.authenticated _)) => False
  | .ok (.handler _) => True
  | .ok (.route (.ok _)) => False
  | .ok (.route (.redirected _)) => False
  | .ok (.route (.rendered _)) => False
  | .ok (.route _) => True

namespace Attempt

variable (setup : RouteSetup) (request : Request)

def run : Attempt → Except JsError Answer × World
  | header scheme | refresh scheme =>
    let (result, w) := scheme.handle setup.server setup.environment request
    (result.map .handler, w)
  | openIdCallback =>
    let (response, w) := (OpenIdAuthRoutes.callback setup request).exec {}
    (response.map .route, w)
  | samlAcs samlResponse =>
    let (response, w) := (SamlAuthRoutes.acs setup request samlResponse).exec {}
    (response.map .route, w)
  | samlIdpInitiated samlResponse =>
    let (response, w) := (SamlAuthRoutes.idpInitiated setup request samlResponse).exec {}
    (response.map .route, w)
  | basicLogin username password =>
    let (response, w) := (BasicAuthRoutes.login setup request username password).exec {}
    (response.map .route, w)
  | anonymousLogin =>
    let (response, w) := (BasicAuthRoutes.anonymousLogin setup request).exec {}
    (response.map .route, w)

end Attempt

/-! ## What should be left -/

/-- A session cookie that names a user or has credentials. -/
def SecuritySessionCookie.Established (cookie : SecuritySessionCookie) : Prop :=
  truthyString cookie.username = true ∨ cookie.credentials.isSome = true

/-- The response sets a split cookie. -/
def Queue.SetsFragment (queue : Queue) : Prop :=
  ∃ name fragment, queue.states.lookup name = some (some fragment)

/-- The response sets neither an established session nor a part of a token. -/
structure World.LeavesNothing (w : World) : Prop where
  session : ∀ cookie, w.session = some (some cookie) → ¬ cookie.Established
  split : ¬ w.queue.SetsFragment

/-! ## When nothing is left -/

section Conditions

variable (server : Server) (environment : Environment) (request : Request)

/-- The backend lets the user of `authInfo` work in some tenant. -/
def TenantFound (calls : List BackendCall) (headers : HeaderObject) (authInfo : AuthInfo)
    (cookieTenant : Option String) (tenant : String) : Prop :=
  ∃ dashboardsInfo tenants,
    environment.dashboardsinfo calls request headers = .ok dashboardsInfo ∧
    authInfo.tenants = some tenants ∧
    resolveTenant server.runtime.toLowerCase request (authInfo.user_name.getD "undefined")
      authInfo.roles tenants server.config { tenant := cookieTenant }
      dashboardsInfo.multitenancy_enabled dashboardsInfo.private_tenant_enabled
      dashboardsInfo.default_tenant = .ok (some tenant)

namespace AuthType

/-- The header value that the type keeps is a string, if it keeps one. -/
def Storable (authType : AuthType) : Prop :=
  ∀ options v, authType.splitValue server request = some (options, v) → ∃ s, v = .str s

/-- The type keeps the header value in at least one split cookie. -/
def Keeps (authType : AuthType) : Prop :=
  ∃ options s, authType.splitValue server request = some (options, .str s) ∧
    0 < options.additionalCookies

/-- The expiry time of the session can be read off the token, where the type does so. -/
def Readable (authType : AuthType) : Prop :=
  authType = .jwt →
    ReadableToken server.runtime (JwtAuthentication.getBearerToken server request)

end AuthType

/-- Once the backend accepts the request, nothing fails after the token is stored, and nothing fails
after the session is. -/
structure HeaderSound (scheme : Scheme) : Prop where
  readable : ∀ headers authInfo authType,
    (scheme.authentication server environment).getAdditionalAuthHeader request = .ok headers →
    environment.authinfo [] request headers = .ok authInfo →
    scheme.mintedBy server environment request = some authType →
    authType.Keeps server request →
    authType.Readable server request ∧ request.storageError = none
  tenant : ∀ headers authInfo authType,
    (scheme.authentication server environment).getAdditionalAuthHeader request = .ok headers →
    environment.authinfo [] request headers = .ok authInfo →
    scheme.mintedBy server environment request = some authType →
    authType.Storable server request → authType.Readable server request →
    request.storageError = none → server.config.multitenancy.enabled = true →
    ∃ tenant, TenantFound server environment request [.authinfo headers (.ok authInfo)] headers
      authInfo ((request.cookies.session.filter (·.validate request.now)).bind (·.tenant)) tenant

/-- A request without authentication data comes with an OpenID session whose token has expired. -/
structure ExpiredSession (scheme : Scheme) (cookie : SecuritySessionCookie) : Prop where
  required : authNotRequired server.config request = false
  noAuthInfo : (scheme.authentication server environment).requestIncludesAuthInfo request = false
  stored : request.session = .ok (some cookie)
  openId : scheme.validatedBy server cookie = some .openId
  expired : OpenIdAuthentication.isFresh cookie request.now = false

/-- The backend accepts the headers of a session, also once the tenant is known. -/
def AcceptsHeaders (headers : HeaderObject) (cookieTenant : Option String) : Prop :=
  ∃ authInfo, environment.authinfo [] request headers = .ok authInfo ∧
    (server.config.multitenancy.enabled = true →
      ∃ tenant, TenantFound server environment request [.authinfo headers (.ok authInfo)] headers
          authInfo cookieTenant tenant ∧
        ∀ dashboardsInfo,
          environment.dashboardsinfo [.authinfo headers (.ok authInfo)] request headers =
            .ok dashboardsInfo →
          ∃ authInfo', environment.authinfo
            [.dashboardsinfo headers (.ok dashboardsInfo), .authinfo headers (.ok authInfo)] request
            (AuthenticationType.tenantHeaders server headers tenant) = .ok authInfo')

end Conditions

namespace Attempt

variable (setup : RouteSetup) (request : Request)

/-- The attempt is one of its kind. The number of split cookies of the OpenID type is positive by the
schema of the configuration. -/
def Applies : Attempt → Prop
  | header scheme => authNotRequired setup.server.config request = false ∧
      (scheme.authentication setup.server setup.environment).requestIncludesAuthInfo request = true
  | refresh scheme => 0 < setup.server.config.openid.extra_storage.additional_cookies ∧
      ∃ cookie, ExpiredSession setup.server setup.environment request scheme cookie
  | _ => True

/-- Nothing fails after something was stored. The routes store at the very end. -/
def Sound : Attempt → Prop
  | header scheme => HeaderSound setup.server setup.environment request scheme
  | refresh scheme => ∀ cookie r idToken,
      ExpiredSession setup.server setup.environment request scheme cookie →
      OpenIdAuthentication.Renews setup.server setup.environment cookie request r idToken →
      AcceptsHeaders setup.server setup.environment request
        (Js.Assigned.empty.set "authorization" (.str ("Bearer " ++ idToken))) cookie.tenant
  | _ => True

end Attempt

end SecurityDashboards
