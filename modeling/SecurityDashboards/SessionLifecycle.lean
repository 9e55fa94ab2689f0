import SecurityDashboards.AuthRoutes.Basic
import SecurityDashboards.AuthRoutes.Proxy
import SecurityDashboards.Logout
import SecurityDashboards.Sessions
import SecurityDashboards.TenantRoutes

/-!
# The session cookie from login to logout

One browser and the routes that write or clear its session cookie, called in any order. The routes of
the logins are called without `authHandler`; behind all other routes it runs first. Beside the
cookies, a `Client` counts the OpenID logins: the nonces of those that were started, and the `state`
parameters of those that were completed.
-/

namespace SecurityDashboards

/-- The routes that do not require authentication. -/
inductive PlainRoute where
  | loginPage
  | basicLogin (username password : String)
  | basicLogout
  | anonymousLogin
  /-- The nonce is the one the route makes up if the request starts a login. -/
  | openIdLogin (nonce : String)
  | openIdCapture
  | samlLogin (isAuthenticated : Bool)
  | samlAcs (samlResponse : String)
  | samlIdpInitiated (samlResponse : String)
  | samlCapture
  | jwtLogout

/-- The routes behind `authHandler`. -/
inductive GuardedRoute where
  | postTenant (tenant : String)
  | openIdLogout
  | samlLogout
  | proxyLogout
  /-- A route that does not touch the session cookie. -/
  | other

inductive SessionRoute where
  | plain (route : PlainRoute)
  | guarded (route : GuardedRoute)

/-- A call of a route. The cookies and the time of the request come from the client, and the server
of the set-up is the one the client talks to. -/
structure Action where
  route : SessionRoute
  request : Request
  elapsed : ℕ := 0
  setup : RouteSetup

structure Client where
  browser : Browser := {}
  /-- The time of the latest request. -/
  clock : ℕ := 0
  /-- The nonces of the OpenID logins that were started, the latest first. -/
  issued : List String := []
  /-- The `state` parameters of the callbacks that established a session, the latest first. -/
  established : List (Option String) := []

/-- What comes back: the answer of the handler of a plain route, or the one of `authHandler`. -/
inductive Reply where
  | route (response : Except JsError RouteResponse)
  | auth (result : Except JsError AuthResult)

section Routes

variable (setup : RouteSetup) (request : Request)

def PlainRoute.handler : PlainRoute → Proc World JsError RouteResponse
  | loginPage => BasicAuthRoutes.loginPage request
  | basicLogin username password => BasicAuthRoutes.login setup request username password
  | basicLogout => BasicAuthRoutes.logout request
  | anonymousLogin => BasicAuthRoutes.anonymousLogin setup request
  | openIdLogin nonce => OpenIdAuthRoutes.login setup nonce request
  | openIdCapture => OpenIdAuthRoutes.captureUrlFragment request
  | samlLogin isAuthenticated => SamlAuthRoutes.login setup isAuthenticated request
  | samlAcs samlResponse => SamlAuthRoutes.acs setup request samlResponse
  | samlIdpInitiated samlResponse => SamlAuthRoutes.idpInitiated setup request samlResponse
  | samlCapture => SamlAuthRoutes.captureUrlFragment request
  | jwtLogout => JwtAuthRoutes.logout setup request

/-- The handler of a route behind `authHandler`; `cookie` is what the session storage reads then. -/
def GuardedRoute.handler (cookie : Except JsError (Option SecuritySessionCookie)) :
    GuardedRoute → Proc World JsError Unit
  | postTenant tenant => do
    let _ ← TenantRoutes.postTenant tenant (← Proc.ofExcept cookie)
  | openIdLogout => do
    let _ ← OpenIdAuthRoutes.logout setup request
  | samlLogout => do
    let _ ← SamlAuthRoutes.logout setup request
  | proxyLogout => do
    let _ ← ProxyAuthRoutes.logout request
  | other => pure ()

end Routes

/-- What the session storage reads after `authHandler`: the very object that `authHandler` read and
changed, unless it did not read the session or minted another one. -/
def AuthenticationType.sessionAfter (self : AuthenticationType) (server : Server)
    (request : Request) (w : World) : Except JsError (Option SecuritySessionCookie) :=
  request.session.map fun read =>
    (read.map fun cookie =>
      if authNotRequired server.config request || self.requestIncludesAuthInfo request then cookie
      else match w.session with
        | some (some written) => written
        | _ => match ((self.isValidCookie cookie request).exec {}).1 with
          | .ok (_, cookie') => cookie'
          | .error _ => cookie).filter fun cookie => cookie.validate request.now

namespace Action

variable (server : Server) (scheme : Scheme) (a : Action) (c : Client)

/-- The request as the server gets it. -/
def sent : Request := { a.request with cookies := c.browser, now := c.clock + a.elapsed }

/-- The set-up on this server. -/
def services : RouteSetup := { a.setup with server }

def authentication : AuthenticationType := scheme.authentication server a.setup.environment

/-- `authHandler` on this request. -/
def authenticate : Except JsError AuthResult × World :=
  ((a.authentication server scheme).authHandler server a.setup.environment (a.sent c)).exec {}

/-- The handler of a guarded route, for a request that was authenticated. -/
def handleGuarded (route : GuardedRoute) (w : World) : World :=
  ((route.handler (a.services server) (a.sent c)
    ((a.authentication server scheme).sessionAfter server (a.sent c) w)).exec w).2

/-- The answer, and what was written. -/
def run : Reply × World :=
  match a.route with
  | .plain route =>
    let (response, w) := (route.handler (a.services server) (a.sent c)).exec {}
    (.route response, w)
  | .guarded route =>
    let (result, w) := a.authenticate server scheme c
    (.auth result, if isAuthenticated result then a.handleGuarded server scheme c route w else w)

/-- The nonce of the OpenID login that this request starts. -/
def startedNonce : Option String :=
  match a.route with
  | .plain (.openIdLogin nonce) =>
    if truthyString (a.request.url.queryString "code") then none else some nonce
  | _ => none

/-- The `state` of a callback that established a session. -/
def establishedState (w : World) : Option (Option String) :=
  match a.route with
  | .plain (.openIdLogin _) =>
    if truthyString (a.request.url.queryString "code") && w.session.join.isSome then
      some (a.request.url.queryString "state")
    else none
  | _ => none

end Action

/-- One call of a route. -/
def clientStep (server : Server) (scheme : Scheme) (a : Action) (c : Client) : Reply × Client :=
  let (answer, w) := a.run server scheme c
  (answer,
    { browser := c.browser.after w
      clock := c.clock + a.elapsed
      issued := a.startedNonce.toList ++ c.issued
      established := (a.establishedState w).toList ++ c.established })

/-! ## Tokens -/

/-- The claim is missing or a number. -/
def ExpClaim.IsNumeric : ExpClaim → Prop
  | absent => True
  | num _ => True
  | other _ _ _ => False

/-- The `exp` claim of the bearer token in a header is a number, if it has one. -/
def NumericToken (runtime : Runtime) (header : HeaderValue) : Prop :=
  ∀ authHeader first payload signature exp, header = .str authHeader →
    Js.split ((Js.split authHeader ' ').getD 1 "") '.' = [first, payload, signature] →
    runtime.payloadExp payload = .ok exp → exp.IsNumeric

/-- The `exp` claims of the tokens that this request brings along are numbers: the token that the
backend gives for a SAML response, the bearer token of a JWT login that the backend accepts, and the
token of a JWT session. -/
structure Action.NumericTokens (server : Server) (scheme : Scheme) (a : Action) (c : Client) :
    Prop where
  saml : ∀ body authorization payload exp, a.setup.authToken body = .ok (some authorization) →
    (Js.split authorization '.')[1]? = some payload →
    server.runtime.payloadExp payload = .ok exp → exp.IsNumeric
  jwtLogin : ∀ authInfo,
    (a.authentication server scheme).AcceptsLogin a.setup.environment (a.sent c) authInfo →
      NumericToken server.runtime (JwtAuthentication.getBearerToken server (a.sent c))
  jwtSession : ∀ cookie headers, (a.sent c).session = .ok (some cookie) →
    cookie.authType = some JWT →
    JwtAuthentication.buildAuthHeaderFromCookie server cookie (a.sent c) {} = .ok headers →
      NumericToken server.runtime (headers.get (JwtAuthentication.authHeaderName server))

/-! ## What holds of the cookie -/

/-- A cookie with a username has an expiry time and no pending login. -/
def SecuritySessionCookie.WellFormed (cookie : SecuritySessionCookie) : Prop :=
  cookie.username.isSome = true →
    cookie.expiryTime.isSome = true ∧ cookie.oidc = none ∧ cookie.saml = none

/-- `authHandler` authenticates the request through this stored cookie. -/
structure Action.AuthenticatesWith (server : Server) (scheme : Scheme) (a : Action) (c : Client)
    (cookie : SecuritySessionCookie) : Prop where
  required : authNotRequired server.config (a.sent c) = false
  stored : (a.authentication server scheme).requestIncludesAuthInfo (a.sent c) = false
  read : (a.sent c).session = .ok (some cookie)
  authenticated : ∃ auth, (a.authenticate server scheme c).1 = .ok (.authenticated (some auth))

/-- The browser's session has an end, and no request is authenticated through its cookie after
that. -/
structure Client.SessionEnds (server : Server) (scheme : Scheme) (c : Client) : Prop where
  wellFormed : ∀ cookie, c.browser.session = some cookie → cookie.WellFormed
  ends : ∀ (a : Action) (cookie : SecuritySessionCookie), a.AuthenticatesWith server scheme c cookie →
    ∃ expiryTime, cookie.expiryTime = some expiryTime ∧ (a.sent c).now ≤ expiryTime

/-! ## OpenID logins -/

/-- The nonce of the OpenID login that is pending in the browser's cookie. -/
def Client.pendingNonce (c : Client) : Option String :=
  c.browser.session.bind fun cookie => cookie.oidc.bind (·.state)

/-- A login that is started gets a nonce of its own. -/
def Action.Fresh (a : Action) (c : Client) : Prop :=
  ∀ nonce, a.startedNonce = some nonce → nonce ∉ c.issued

/-- One of these calls started a login with the nonce and put it into the browser's cookie. -/
def StartedIn (server : Server) (scheme : Scheme) (earlier : List Action) (nonce : String) : Prop :=
  ∃ before start between, earlier = before ++ start :: between ∧ start.startedNonce = some nonce ∧
    (Machine.exec (clientStep server scheme) (before ++ [start]) {}).pendingNonce = some nonce

/-- A callback establishes a session only for the nonce of the pending login, which the same browser
started, and for each nonce only once. -/
structure CallbacksBound (server : Server) (scheme : Scheme) (actions : List Action) : Prop where
  bound : ∀ earlier a later state, actions = earlier ++ a :: later →
    a.establishedState
      (a.run server scheme (Machine.exec (clientStep server scheme) earlier {})).2 = some state →
    ∃ nonce, state = some nonce ∧
      (Machine.exec (clientStep server scheme) earlier {}).pendingNonce = some nonce ∧
      StartedIn server scheme earlier nonce
  once : (Machine.exec (clientStep server scheme) actions {}).established.Nodup

/-! ## SAML sessions -/

/-- The SAML response that the request hands to one of the `acs` routes. -/
def Action.samlResponse (a : Action) : Option String :=
  match a.route with
  | .plain (.samlAcs samlResponse) => some samlResponse
  | .plain (.samlIdpInitiated samlResponse) => some samlResponse
  | _ => none

/-- The expiry time comes from the `exp` claim of the token that the backend gave for the response:
the time in milliseconds, of a whole number as it is, or without a claim the longest time that the
configuration allows. -/
def Action.SetsExpiry (server : Server) (a : Action) (c : Client) (samlResponse : String)
    (expiryTime : Option ℚ) : Prop :=
  ∃ body authorization payload exp, body.SAMLResponse = samlResponse ∧
    a.setup.authToken body = .ok (some authorization) ∧
    (Js.split authorization '.')[1]? = some payload ∧
    server.runtime.payloadExp payload = .ok exp ∧
    (exp.truthy = true → expiryTime = (exp.parseInt server.runtime.firstDigit).map (· * 1000)) ∧
    (∀ n : ℤ, n.natAbs < 10 ^ 21 → n ≠ 0 → exp = .num n → expiryTime = some ((n : ℚ) * 1000)) ∧
    (exp.truthy = false →
      expiryTime = some (((a.sent c).now : ℚ) + server.config.session.ttl))

/-- Only the stored cookie can authenticate the request. -/
def Action.ByCookie (server : Server) (scheme : Scheme) (a : Action) (c : Client) : Prop :=
  (∃ route, a.route = .guarded route) ∧
    (a.authentication server scheme).requestIncludesAuthInfo (a.sent c) = false

end SecurityDashboards
