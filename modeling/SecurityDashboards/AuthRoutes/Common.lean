import SecurityDashboards.AuthTypes.Multi

/-!
# Routes of the authentication types

What the routes of all types have in common: the schemas that check a query, the answers of a
handler, and the methods of `SecurityClient` that authenticate a user.
-/

namespace SecurityDashboards

/-! ## Queries -/

/-- The schema of a query parameter. -/
inductive FieldSchema where
  /-- `schema.maybe(schema.string({ validate }))` -/
  | maybeString (validate : String → Option String)
  /-- `schema.string()` -/
  | string
  /-- `schema.any()` -/
  | any

def FieldSchema.accepts : FieldSchema → QueryValue → Bool
  | maybeString _, .undefined => true
  | maybeString validate, .str s => (validate s).isNone
  | string, .str _ => true
  | any, .str _ => true
  | any, .array _ => true
  | _, _ => false

/-- `schema.object` for a query. -/
structure QuerySchema where
  fields : List (String × FieldSchema)
  /-- `unknowns: 'allow'` -/
  unknowns : Bool := false

def QuerySchema.accepts (schema : QuerySchema) (url : Url) : Bool :=
  schema.fields.all (fun field => field.2.accepts (url.query field.1)) &&
    (schema.unknowns || url.searchParams.all fun param => schema.fields.any (·.1 == param.1))

/-- `schema.maybe(schema.string())` -/
def maybeString : FieldSchema := .maybeString fun _ => none

/-- The schema of `nextUrl` on most routes. -/
def nextUrlSchema (server : Server) : FieldSchema :=
  .maybeString fun nexturl => validateNextUrl (some nexturl) (some server.serverBasePath)

/-! ## Answers -/

/-- The pages with the scripts they run. -/
inductive Page where
  | loginApp
  | captureUrlFragment
  | redirectUrlFragment
deriving DecidableEq

/-- The body of the answer to a login with username and password. -/
structure LoginBody where
  username : Option String
  tenants : Option Tenants
  roles : Option (List String)
  backendroles : Option (List String)
  selectedTenants : Option String
deriving DecidableEq

/-- The answer of a route handler. `backToLogin` is the redirect after a failure. -/
inductive RouteResponse where
  | ok (body : Option LoginBody)
  | redirected (location : String)
  | backToLogin (location : String)
  | rendered (page : Page)
  | badRequest (body : Option String)
  | unauthorized (wwwAuthenticate : Option String)
  | internalError
deriving DecidableEq

/-! ## Set-up -/

/-- `core.http.getServerInfo()` -/
structure ServerInfo where
  hostname : String := "0.0.0.0"
  port : ℕ := 5601
  protocol : String := "http"

/-- `OpenIdAuthConfig`, as the metadata of the IdP and the configuration fill it. -/
structure OpenIdAuthConfig where
  authorizationEndpoint : String := ""
  endSessionEndpoint : Option String := none
  scope : String := "openid"
  authHeaderName : String := "Authorization"

/-- A query object that is built by assignments; `none` is an undefined value. -/
abbrev QueryObject := Js.Assigned (Option String)

/-- The body of a call of the backend's `authtoken`. -/
structure AuthTokenBody where
  RequestId : Option String
  SAMLResponse : String
  acsEndpoint : Option String

/-- The error by which the backend answers a request for SAML authentication. -/
structure SamlChallenge where
  message : String
  wwwAuthenticateDirective : Option String

/-- What the routes are set up with: the server, the services they call, and functions of the
platform. -/
structure RouteSetup where
  server : Server
  environment : Environment
  serverInfo : ServerInfo := {}
  openIdAuthConfig : OpenIdAuthConfig := {}
  /-- The call of the token endpoint with an authorization code. -/
  exchangeCode : QueryObject → Except String TokenHttpResponse
  /-- The answer of the backend's `authtoken`, as far as it is read: its `authorization`. -/
  authToken : AuthTokenBody → Except String (Option String)
  /-- The error of `authinfo` with the parameter for SAML, if there is one. -/
  samlChallenge : Request → Option SamlChallenge
  /-- `stringify` of `querystring` -/
  stringify : QueryObject → String
  /-- `new URL(endpoint)` with parameters appended, as a string; `none` if the URL is invalid. -/
  urlWithParams : String → List (String × String) → Option String

/-! ## Users -/

/-- `User`, as far as the routes read it. -/
structure User where
  username : Option String := none
  roles : Option (List String) := none
  backendRoles : Option (List String) := none
  tenants : Option Tenants := none
  multitenancy_enabled : Option Bool := none
  private_tenant_enabled : Option Bool := none
  default_tenant : Option String := none

section Authenticate

variable (setup : RouteSetup)

/-- The user of an answer of the backend: nothing is said about multitenancy. -/
def User.ofAuthInfo (username : Option String) (esResponse : AuthInfo) : User where
  username := username
  roles := esResponse.roles
  backendRoles := esResponse.backend_roles
  tenants := esResponse.tenants

/-- `SecurityClient.authenticate` -/
def authenticate (request : Request) (username password : String) : Proc World JsError User := do
  let authHeader := Buffer.base64 (username ++ ":" ++ password)
  let esResponse ← authinfo setup.environment request
    (Js.Assigned.empty.set "authorization" (.str ("Basic " ++ authHeader)))
  pure (User.ofAuthInfo (some username) esResponse)

/-- `SecurityClient.authenticateWithHeader` -/
def authenticateWithHeader (request : Request) (headerName : String)
    (headerValue : Option String) : Proc World JsError User := do
  let headers : HeaderObject := match headerValue.filter (· != "") with
    | some headerValue => Js.Assigned.empty.set headerName (.str headerValue)
    | none => .empty
  let esResponse ← authinfo setup.environment request headers
  pure (User.ofAuthInfo esResponse.user_name esResponse)

/-- `SecurityClient.authenticateWithHeaders` -/
def authenticateWithHeaders (request : Request) (additionalAuthHeaders : HeaderObject) :
    Proc World JsError User := do
  let esResponse ← authinfo setup.environment request additionalAuthHeaders
  pure (User.ofAuthInfo esResponse.user_name esResponse)

/-- The tenant of a new session of the basic type. -/
def withTenantOfUser (request : Request) (user : User) (sessionStorage : SecuritySessionCookie) :
    Except JsError SecuritySessionCookie :=
  if truthyFlag user.multitenancy_enabled then
    match user.tenants with
    | none => .error (.error "Cannot convert undefined or null to object")
    | some tenants => do
      let selectTenant ← resolveTenant setup.server.runtime.toLowerCase request
        (user.username.getD "undefined") user.roles tenants setup.server.config sessionStorage
        user.multitenancy_enabled user.private_tenant_enabled user.default_tenant
      pure { sessionStorage with tenant := selectTenant }
  else .ok sessionStorage

end Authenticate

end SecurityDashboards
