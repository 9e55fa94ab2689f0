import SecurityDashboards.Lib.Machine
import SecurityDashboards.Minting

/-!
# Sessions over many requests

One browser sends request after request, and the cookies of each response come back with the next
one. Beside the browser, a `History` records where its cookies come from: the token response of the
latest refresh, and the bearer token of the latest JWT login.
-/

namespace SecurityDashboards

/-- A request of the browser, the time since the one before, and the services while it is handled.
The cookies and the time of `request` come from the history. -/
structure Visit where
  request : Request
  elapsed : ℕ := 0
  environment : Environment

inductive Event where
  | visit (v : Visit)
  /-- The cookies change in any other way, such as by the routes of a login or a logout. -/
  | replaced (browser : Browser)

structure History where
  browser : Browser
  /-- The time of the latest request. -/
  clock : ℕ := 0
  /-- When the session cookie was last written. -/
  written : ℕ := 0
  /-- The response of the latest refresh and its time, until another login. -/
  source : Option (TokenResponse × ℕ) := none
  /-- The latest request refreshed the token and was authenticated. -/
  renewed : Bool := false
  /-- The header value of the latest login, if it was one of the JWT type. -/
  bearer : HeaderValue := .undefined

/-- The token response whose token was queued for the split cookies. -/
def World.exchanged (w : World) : Option TokenResponse :=
  match w.queue.states, w.queue.tokenCalls with
  | _ :: _, .ok r :: _ => some r
  | _, _ => none

/-- Something is sent back to the browser. -/
def World.writes (w : World) : Bool := !w.queue.states.isEmpty || w.session.isSome

/-- `authHandler` returned `toolkit.authenticated`. -/
def isAuthenticated : Except JsError AuthResult → Bool
  | .ok (.authenticated _) => true
  | _ => false

/-- The backend accepts the headers that the request itself brings along. -/
def AuthenticationType.AcceptsLogin (auth : AuthenticationType) (environment : Environment)
    (request : Request) (authInfo : AuthInfo) : Prop :=
  ∃ headers, auth.getAdditionalAuthHeader request = .ok headers ∧
    environment.authinfo [] request headers = .ok authInfo

/-- The type whose `isValidCookie` decides on the cookie. -/
def Scheme.validatedBy (server : Server) (cookie : SecuritySessionCookie) :
    Scheme → Option AuthType
  | single authType => some authType
  | multiple authHandlers =>
    (cookie.authType.map server.runtime.toLowerCase).bind fun reqAuthType =>
      authHandlers.find? fun authType => authType.key == reqAuthType

namespace Visit

variable (server : Server) (scheme : Scheme) (v : Visit) (s : History)

/-- The request as the server gets it. -/
def sent : Request := { v.request with cookies := s.browser, now := s.clock + v.elapsed }

def outcome : Except JsError AuthResult × World :=
  ((scheme.authentication server v.environment).authHandler server v.environment
    (v.sent s)).exec {}

/-- The session cookie that `authHandler` asks `isValidCookie` about. -/
def Reads (cookie : SecuritySessionCookie) : Prop :=
  authNotRequired server.config (v.sent s) = false ∧
    (scheme.authentication server v.environment).requestIncludesAuthInfo (v.sent s) = false ∧
    (v.sent s).session = .ok (some cookie)

/-- The history after the response. A login that changes cookies replaces the session. -/
def record (result : Except JsError AuthResult) (w : World) : History :=
  let request := v.sent s
  let loggedIn :=
    (scheme.authentication server v.environment).requestIncludesAuthInfo request && w.writes
  { browser := s.browser.after w
    clock := request.now
    written := if w.session.isSome then request.now else s.written
    source :=
      match w.exchanged with
      | some r => some (r, request.now)
      | none => if loggedIn then none else s.source
    renewed := w.exchanged.isSome && isAuthenticated result
    bearer :=
      if loggedIn then
        if w.session.isSome ∧ scheme.mintedBy server v.environment request = some .jwt then
          JwtAuthentication.getBearerToken server request
        else .undefined
      else s.bearer }

end Visit

/-- One step of the browser; the output is the answer to a request. -/
def sessionStep (server : Server) (scheme : Scheme) :
    Event → History → Option (Except JsError AuthResult) × History
  | .visit v, s =>
    let (result, w) := v.outcome server scheme s
    (some result, v.record server scheme s result w)
  | .replaced browser, s => (none, { browser, clock := s.clock })

/-! ## Refreshed tokens -/

/-- The session cookie has the refresh token and the expiry time of the very token response whose
token the split cookies hold. -/
structure History.Persisted (server : Server) (s : History) : Prop where
  agree : ∀ r now, s.source = some (r, now) →
    ∃ idToken expiryTime, r.idToken = some idToken ∧
      tokenExpirationDate server.runtime now (some r) = .ok expiryTime ∧
      s.browser.Holds server.runtime (OpenIdAuthentication.getExtraAuthStorageOptions server)
        ("Bearer " ++ idToken) ∧
      ∀ cookie, s.browser.session = some cookie →
        ∃ credentials, cookie.credentials = some credentials ∧
          credentials.refresh_token = r.refreshToken ∧ credentials.expiryTime = expiryTime
  kept : s.renewed = true → s.source.isSome = true ∧ s.browser.session.isSome = true

/-- The token of the cookie has expired, and the refresh brings the response `r` with a new one. -/
structure OpenIdAuthentication.Renews (server : Server) (environment : Environment)
    (cookie : SecuritySessionCookie) (request : Request) (r : TokenResponse) (idToken : String) :
    Prop where
  usable : isUsable server cookie request {} = true
  expired : isFresh cookie request.now = false
  answer : ∃ refresh_token,
    (cookie.credentials.bind (·.refresh_token)).filter (· != "") = some refresh_token ∧
      callTokenEndpoint environment.tokenEndpoint (query server refresh_token) = .ok r
  idToken : r.idToken.filter (· != "") = some idToken
  readable : ∃ credentials, credentialsOf server request.now r = .ok credentials

/-- The outcome of resolving the tenant is one that changes the session cookie. -/
def TenantChanges (request : Request) (cookie : SecuritySessionCookie) :
    Except JsError (Option String) → Prop
  | .ok (some tenant) => cookie.tenant ≠ some tenant
  | .error (.unauthenticatedError _) => isBundleRequest request = false
  | _ => False

/-- Resolving the tenant with these headers changes the session cookie. -/
def TenantWrites (server : Server) (environment : Environment) (request : Request)
    (cookie : SecuritySessionCookie) (headers : HeaderObject) : Prop :=
  server.config.multitenancy.enabled = true ∧
    TenantChanges request cookie
      ((AuthenticationType.resolveTenant server environment request cookie headers none).exec {}).1

/-- A request that refreshes the token also writes the session cookie: to keep the session alive, or
for its tenant. -/
def WritesRefresh (server : Server) (scheme : Scheme) : Event → History → Prop
  | .visit v, s =>
    ∀ cookie r idToken, v.Reads server scheme s cookie →
      scheme.validatedBy server cookie = some .openId →
      OpenIdAuthentication.Renews server v.environment cookie (v.sent s) r idToken →
      server.config.session.keepalive = true ∨
        TenantWrites server v.environment (v.sent s) cookie
          (Js.Assigned.empty.set "authorization" (.str ("Bearer " ++ idToken)))
  | .replaced _, _ => True

/-! ## Sessions of a JWT -/

/-- A token of three parts whose payload has a positive number as `exp`. -/
structure JwtExpires (runtime : Runtime) (token : String) (exp : ℚ) : Prop where
  noSpace : ' ' ∉ token.toList
  payload : ∃ header payload signature, Js.split token '.' = [header, payload, signature] ∧
    runtime.payloadExp payload = .ok (.num exp)
  positive : 0 < exp

/-- A session that was started with a token ends with it, and `session.ttl` after the last write of
its cookie. -/
def History.WithinToken (server : Server) (s : History) : Prop :=
  ∀ token exp, s.bearer = .str ("Bearer " ++ token) → JwtExpires server.runtime token exp →
    ∀ cookie, s.browser.session = some cookie →
      ∃ expiryTime, cookie.expiryTime = some expiryTime ∧ expiryTime ≤ exp * 1000 ∧
        expiryTime ≤ s.written + server.config.session.ttl

/-- A request that keeps a JWT session alive finds the token under the configured name, or fails
there, or would not keep the session longer than the token anyway. -/
def FindsToken (server : Server) (scheme : Scheme) : Event → History → Prop
  | .visit v, s =>
    ∀ cookie token exp, s.bearer = .str ("Bearer " ++ token) →
      JwtExpires server.runtime token exp → v.Reads server scheme s cookie →
      JwtAuthentication.isValidCookie server cookie (v.sent s) {} = true →
      server.config.session.keepalive = true →
      JwtAuthentication.authHeaderName server = "authorization" ∨
        JwtAuthentication.authHeaderName server ∈ Js.objectPrototype ∨
        ((v.sent s).now : ℚ) + server.config.session.ttl ≤ exp * 1000
  | .replaced _, _ => True

end SecurityDashboards
