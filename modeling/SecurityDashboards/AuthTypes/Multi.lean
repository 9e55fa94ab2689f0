import SecurityDashboards.AuthTypes.Basic
import SecurityDashboards.AuthTypes.Jwt
import SecurityDashboards.AuthTypes.OpenId
import SecurityDashboards.AuthTypes.Proxy
import SecurityDashboards.AuthTypes.Saml

/-!
# Multiple authentication types

`auth/types/multiple/multi_auth.ts` and the choice of the type in `auth/auth_handler_factory.ts`.
-/

namespace SecurityDashboards

/-- The concrete authentication types. -/
inductive AuthType where
  | basic
  | openId
  | saml
  | proxy
  | jwt
deriving DecidableEq

namespace AuthType

/-- The key of the type in the map of handlers. -/
def key : AuthType → String
  | basic => BASIC
  | openId => OPEN_ID
  | saml => SAML
  | proxy => PROXY
  | jwt => JWT

def ofKey (key : String) : Option AuthType :=
  [basic, openId, saml, proxy, jwt].find? fun authType => authType.key == key

/-- The authentication of this type. -/
def handler (server : Server) (environment : Environment) : AuthType → AuthenticationType
  | basic => BasicAuthentication server
  | openId => OpenIdAuthentication server environment
  | saml => SamlAuthentication server
  | proxy => ProxyAuthentication server
  | jwt => JwtAuthentication server

end AuthType

namespace MultipleAuthentication

/-- The handlers that `init` builds for the configured types, in the order of their first
occurrence. -/
def init (runtime : Runtime) (authTypes : List String) : Except JsError (List AuthType) := do
  let types ← authTypes.mapM fun authType =>
    match AuthType.ofKey (runtime.toLowerCase authType) with
    | some t => .ok t
    | none => .error (.error ("Unsupported authentication type: " ++ authType))
  pure types.eraseDups

variable (server : Server) (environment : Environment) (authHandlers : List AuthType)

/-- `authHandlers.has(reqAuthType)` and `authHandlers.get(reqAuthType)` for the type of a cookie. -/
def handlerOf (cookie : Option SecuritySessionCookie) : Option AuthenticationType :=
  match (cookie.bind (·.authType)).map server.runtime.toLowerCase with
  | some reqAuthType =>
    (authHandlers.find? fun authType => authType.key == reqAuthType).map
      (AuthType.handler server environment)
  | none => none

/-- The first handler that finds its authentication data in the request. -/
def claimant (request : Request) : Option AuthType :=
  authHandlers.find? fun authType =>
    (authType.handler server environment).requestIncludesAuthInfo request

def requestIncludesAuthInfo (request : Request) : Bool :=
  authHandlers.any fun authType =>
    (authType.handler server environment).requestIncludesAuthInfo request

def getAdditionalAuthHeader (request : Request) : Except JsError HeaderObject := do
  let cookie ← request.session
  match handlerOf server environment authHandlers cookie with
  | some handler => handler.getAdditionalAuthHeader request
  | none =>
    authHandlers.foldlM (fun authHeaders authType => do
      let additional ← (authType.handler server environment).getAdditionalAuthHeader request
      pure (authHeaders.assign additional)) .empty

def getCookie (request : Request) (authInfo : AuthInfo) :
    Proc Queue JsError SecuritySessionCookie :=
  match claimant server environment authHandlers request with
  | some authType => (authType.handler server environment).getCookie request authInfo
  | none => pure {}

def getKeepAliveExpiry (cookie : SecuritySessionCookie) (request : Request) :
    Proc Queue JsError (Option ℚ) :=
  match handlerOf server environment authHandlers (some cookie) with
  | some handler => handler.getKeepAliveExpiry cookie request
  | none => pure (some (request.now + server.config.session.ttl))

def isValidCookie (cookie : SecuritySessionCookie) (request : Request) :
    Proc Queue JsError (Bool × SecuritySessionCookie) :=
  match handlerOf server environment authHandlers (some cookie) with
  | some handler => handler.isValidCookie cookie request
  | none => pure (false, cookie)

def handleUnauthedRequest (request : Request) : Refusal :=
  if isPageRequest request then
    .redirected (server.serverBasePath ++ LOGIN_PAGE_URI ++ "?" ++
      composeNextUrlQueryParam server request) none
  else .unauthorized none

def buildAuthHeaderFromCookie (cookie : SecuritySessionCookie) (request : Request) :
    Proc Queue JsError HeaderObject :=
  match handlerOf server environment authHandlers (some cookie) with
  | some handler => handler.buildAuthHeaderFromCookie cookie request
  | none => pure .empty

end MultipleAuthentication

def MultipleAuthentication (server : Server) (environment : Environment)
    (authHandlers : List AuthType) : AuthenticationType where
  requestIncludesAuthInfo :=
    MultipleAuthentication.requestIncludesAuthInfo server environment authHandlers
  getAdditionalAuthHeader :=
    MultipleAuthentication.getAdditionalAuthHeader server environment authHandlers
  getCookie := MultipleAuthentication.getCookie server environment authHandlers
  isValidCookie := MultipleAuthentication.isValidCookie server environment authHandlers
  getKeepAliveExpiry := MultipleAuthentication.getKeepAliveExpiry server environment authHandlers
  buildAuthHeaderFromCookie :=
    MultipleAuthentication.buildAuthHeaderFromCookie server environment authHandlers
  handleUnauthedRequest := MultipleAuthentication.handleUnauthedRequest server

/-- The authentication of a server: one type, or several. -/
inductive Scheme where
  | single (authType : AuthType)
  | multiple (authHandlers : List AuthType)

def Scheme.authentication (server : Server) (environment : Environment) :
    Scheme → AuthenticationType
  | single authType => authType.handler server environment
  | multiple authHandlers => MultipleAuthentication server environment authHandlers

/-- `getAuthenticationHandler`: the scheme for the configured types. -/
def getAuthenticationHandler (runtime : Runtime) (config : SecurityPluginConfig) :
    Except JsError Scheme :=
  match config.auth.type with
  | [currType] =>
    let key := runtime.toLowerCase currType
    match if key = "" then some AuthType.basic else AuthType.ofKey key with
    | some authType => .ok (.single authType)
    | none => .error (.error ("Unsupported authentication type: " ++ currType))
  | authTypes =>
    if config.auth.multiple_auth_enabled then
      (MultipleAuthentication.init runtime authTypes).map .multiple
    else .error (.error ("Multiple Authentication Mode is disabled. To enable this feature, " ++
      "please set up opensearch_security.auth.multiple_auth_enabled: true"))

end SecurityDashboards
