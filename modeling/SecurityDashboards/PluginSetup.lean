import SecurityDashboards.Lib.Registry
import SecurityDashboards.SessionLifecycle
import SecurityDashboards.SignInOptions

/-!
# Setting up the plugin

What `setup` of `server/plugin.ts` does about cookies. It finds out whether they are to be secure
(`session/security_cookie.ts`) and declares them to the HTTP server: the session cookie, and, as the
authentication types are initialised, their split cookies. A cookie that is not declared goes out as
it is, with the defaults of the HTTP server.
-/

namespace SecurityDashboards

inductive SameSite where
  | strict
  | lax
  | none
deriving DecidableEq

/-- `config.cookie`, beside its `secure`. -/
structure CookieOptions where
  name : String := "security_authentication"
  password : String := "security_cookie_default_password"
  domain : Option String := none
  /-- `none` is `false`. -/
  isSameSite : Option SameSite := none

/-- `ServerStateCookieOptions`, as far as the plugin fills it. -/
structure ServerStateCookieOptions where
  isSecure : Bool
  isSameSite : Option SameSite
  password : String
  domain : Option String
  path : String
  clearInvalid : Bool
  isHttpOnly : Bool
  ignoreErrors : Bool
  encoding : String
deriving DecidableEq

/-- `SessionStorageCookieOptions` -/
structure SessionStorageCookieOptions where
  name : String
  encryptionKey : String
  validate : SecuritySessionCookie → ℕ → Bool
  isSecure : Bool
  sameSite : Option SameSite

/-- The HTTP server, as far as cookies are declared to it: `register` is `states.add`. -/
structure HttpServer extends Registry String ServerStateCookieOptions JsError where
  createCookieSessionStorageFactory : State → SessionStorageCookieOptions → Except JsError State
  /-- The session cookie, and no other, is declared, with the flag and the key of its options. -/
  declares_session : ∀ declared options declared',
    createCookieSessionStorageFactory declared options = .ok declared' →
      lookup declared options.name = none ∧
        ∃ session, session.isSecure = options.isSecure ∧ session.password = options.encryptionKey ∧
          lookup declared' = Function.update (lookup declared) options.name (some session)

/-- The platform that the plugin is set up on. -/
structure CoreSetup where
  http : HttpServer
  runtime : Runtime
  platform : Platform
  serverBasePath : String := ""
  serverInfo : ServerInfo := {}
  /-- The constructor of the OpenID type: it needs its configuration and reads the certificates. -/
  openIdConstructor : Except JsError Unit := .ok ()
  /-- The call of `connect_url`, with the reading of its answer. -/
  openIdMetadata : Except JsError Unit := .ok ()

def Server.setDerivedCookieSecure (server : Server) (isTlsListener : Bool) : Server :=
  { server with derivedCookieSecure := isTlsListener }

def getSecurityCookieOptions (server : Server) (cookie : CookieOptions) :
    SessionStorageCookieOptions where
  name := cookie.name
  encryptionKey := cookie.password
  validate := SecuritySessionCookie.validate
  isSecure := isCookieSecure server
  sameSite := cookie.isSameSite

/-! ## Split cookies -/

/-- The names of the split cookies. -/
def ExtraAuthStorageOptions.cookieNames (options : ExtraAuthStorageOptions) : List String :=
  (List.range options.additionalCookies).map (splitCookieName options.cookiePrefix)

def extraCookieSettings (server : Server) (cookie : CookieOptions) : ServerStateCookieOptions where
  isSecure := isCookieSecure server
  isSameSite := cookie.isSameSite
  password := cookie.password
  domain := cookie.domain
  path := if server.serverBasePath = "" then "/" else server.serverBasePath
  clearInvalid := false
  isHttpOnly := true
  ignoreErrors := true
  encoding := "iron"

section Setup

variable (core : CoreSetup) (server : Server) (cookie : CookieOptions)

/-- What the methods `createExtraStorage` have in common. -/
def createExtraStorage (options : ExtraAuthStorageOptions) (declared : core.http.State) :
    Except JsError core.http.State :=
  core.http.registerAll declared options.cookieNames (extraCookieSettings server cookie)

def JwtAuthentication.createExtraStorage (declared : core.http.State) :
    Except JsError core.http.State :=
  SecurityDashboards.createExtraStorage core server cookie
    (JwtAuthentication.getExtraAuthStorageOptions server) declared

def OpenIdAuthentication.createExtraStorage (declared : core.http.State) :
    Except JsError core.http.State :=
  SecurityDashboards.createExtraStorage core server cookie
    (OpenIdAuthentication.getExtraAuthStorageOptions server) declared

def SamlAuthentication.createExtraStorage (declared : core.http.State) :
    Except JsError core.http.State :=
  SecurityDashboards.createExtraStorage core server cookie
    (SamlAuthentication.getExtraAuthStorageOptions server) declared

/-- The `try` of `OpenIdAuthentication.init`. -/
def OpenIdAuthentication.connect (declared : core.http.State) :
    Except JsError core.http.State := do
  core.openIdMetadata
  createExtraStorage core server cookie declared

def OpenIdAuthentication.init (declared : core.http.State) : Except JsError core.http.State :=
  (connect core server cookie declared).mapError fun _ =>
    .error "Failed when trying to obtain the endpoints from your IdP"

/-- The constructor and `init` of a type, as far as they may fail or declare cookies. -/
def AuthType.create (declared : core.http.State) : AuthType → Except JsError core.http.State
  | basic => .ok declared
  | proxy => .ok declared
  | jwt => JwtAuthentication.createExtraStorage core server cookie declared
  | saml => SamlAuthentication.createExtraStorage core server cookie declared
  | openId => do
    core.openIdConstructor
    OpenIdAuthentication.init core server cookie declared

/-- One round of the loop of `MultipleAuthentication.init`; a type that is there keeps its place
among the handlers. -/
def MultipleAuthentication.addHandler (handlers : List AuthType × core.http.State)
    (authType : String) : Except JsError (List AuthType × core.http.State) :=
  match AuthType.ofKey (server.runtime.toLowerCase authType) with
  | some t => do
    let declared ← t.create core server cookie handlers.2
    pure (if t ∈ handlers.1 then handlers.1 else handlers.1 ++ [t], declared)
  | none => .error (.error ("Unsupported authentication type: " ++ authType))

/-- The loop of `MultipleAuthentication.init`. -/
def MultipleAuthentication.initHandlers (authTypes : List String) (declared : core.http.State) :
    Except JsError (List AuthType × core.http.State) :=
  authTypes.foldlM (addHandler core server cookie) ([], declared)

/-- `getAuthenticationHandler`, with the cookies that it declares. -/
def createAuthentication (declared : core.http.State) : Except JsError (Scheme × core.http.State) :=
  match server.config.auth.type with
  | [currType] => do
    let key := server.runtime.toLowerCase currType
    match if key = "" then some AuthType.basic else AuthType.ofKey key with
    | some t => do
      let declared ← t.create core server cookie declared
      pure (.single t, declared)
    | none => .error (.error ("Unsupported authentication type: " ++ currType))
  | authTypes =>
    if server.config.auth.multiple_auth_enabled then do
      let handlers ← MultipleAuthentication.initHandlers core server cookie authTypes declared
      pure (.multiple handlers.1, handlers.2)
    else .error (.error ("Multiple Authentication Mode is disabled. To enable this feature, " ++
      "please set up opensearch_security.auth.multiple_auth_enabled: true"))

end Setup

namespace SecurityPlugin

variable (core : CoreSetup) (config : SecurityPluginConfig) (cookie : CookieOptions)

/-- What the authentication types are constructed with. -/
def server : Server :=
  ({ config
     runtime := core.runtime
     platform := core.platform
     serverBasePath := core.serverBasePath } : Server).setDerivedCookieSecure
    (core.serverInfo.protocol == "https")

/-- `setup`, from the cookies that are declared already: the authentication of the server, and the
cookies that are declared then. -/
def setup (declared : core.http.State) : Except JsError (Scheme × core.http.State) := do
  let declared ← core.http.createCookieSessionStorageFactory declared
    (getSecurityCookieOptions (server core config) cookie)
  createAuthentication core (server core config) cookie declared

end SecurityPlugin

/-! ## The types of a configuration, and what they keep apart -/

/-- The types that the configuration names, as often as it names them. -/
def configuredTypes (runtime : Runtime) (config : SecurityPluginConfig) : List AuthType :=
  config.auth.type.filterMap fun authType =>
    if runtime.toLowerCase authType = "" then some .basic
    else AuthType.ofKey (runtime.toLowerCase authType)

namespace AuthType

variable (server : Server)

/-- The split cookies of a type that has some. -/
def extraStorage : AuthType → Option ExtraAuthStorageOptions
  | basic => none
  | proxy => none
  | jwt => some (JwtAuthentication.getExtraAuthStorageOptions server)
  | saml => some (SamlAuthentication.getExtraAuthStorageOptions server)
  | openId => some (OpenIdAuthentication.getExtraAuthStorageOptions server)

/-- The names of the split cookies of a type. -/
def cookieNames (authType : AuthType) : List String :=
  match authType.extraStorage server with
  | some options => options.cookieNames
  | none => []

end AuthType

/-- The names of all split cookies that a server declares. -/
def splitCookieNames (server : Server) : List String :=
  (configuredTypes server.runtime server.config).flatMap (AuthType.cookieNames server)

/-- A cookie with these settings is as well protected as the session cookie. -/
structure ServerStateCookieOptions.Protects (settings session : ServerStateCookieOptions) :
    Prop where
  isSecure : settings.isSecure = session.isSecure
  password : settings.password = session.password
  isHttpOnly : settings.isHttpOnly = true
  encoding : settings.encoding = "iron"

/-- The type that registers the route. -/
def PlainRoute.authType : PlainRoute → AuthType
  | loginPage => .basic
  | basicLogin _ _ => .basic
  | basicLogout => .basic
  | anonymousLogin => .basic
  | openIdLogin _ => .openId
  | openIdCapture => .openId
  | samlLogin _ => .saml
  | samlAcs _ => .saml
  | samlIdpInitiated _ => .saml
  | samlCapture => .saml
  | jwtLogout => .jwt

/-- The type that registers the route, if it is one of a type. -/
def GuardedRoute.authType : GuardedRoute → Option AuthType
  | postTenant _ => none
  | openIdLogout => some .openId
  | samlLogout => some .saml
  | proxyLogout => some .proxy
  | other => none

/-- The type whose methods `authHandler` calls on a request: the one that finds its data in it, or
else the one of the session. -/
def Scheme.inCharge (server : Server) (environment : Environment) (request : Request)
    (scheme : Scheme) : Option AuthType :=
  if (scheme.authentication server environment).requestIncludesAuthInfo request then
    scheme.mintedBy server environment request
  else request.session.toOption.join.bind fun cookie => scheme.validatedBy server cookie

namespace Action

variable (server : Server) (scheme : Scheme) (a : Action) (c : Client)

/-- The server has the route. -/
def Offered : Prop :=
  match a.route with
  | .plain route => route.authType ∈ scheme.types
  | .guarded route => ∀ authType, route.authType = some authType → authType ∈ scheme.types

/-- The type handles the request: by its route, or in `authHandler`. -/
def HandledBy (authType : AuthType) : Prop :=
  match a.route with
  | .plain route => route.authType = authType
  | .guarded route => route.authType = some authType ∨
      scheme.inCharge server a.setup.environment (a.sent c) = some authType

end Action

end SecurityDashboards
