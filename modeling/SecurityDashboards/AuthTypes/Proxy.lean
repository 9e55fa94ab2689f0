import SecurityDashboards.AuthenticationType

/-!
# Proxy authentication

`auth/types/proxy/proxy_auth.ts`. The headers of the proxy are stored in `credentials` under their
own names.
-/

namespace SecurityDashboards

/-- `credentials[name]` for the name of a header, which is in lower case. -/
def Credentials.property (credentials : Credentials) (name : String) : HeaderValue :=
  match credentials.headers.own name with
  | some value => value
  | none =>
    match (if name = "refresh_token" then credentials.refresh_token else none) with
    | some refresh_token => .str refresh_token
    | none => credentials.headers.get name

namespace ProxyAuthentication

def XFF : String := "x-forwarded-for"

/-- The `authType` of the cookies, unlike the `type` of the class, which is `PROXY`. -/
def authType : String := "proxycache"

variable (server : Server)

def userHeaderName : String :=
  ((server.config.proxycache.bind (·.user_header)).map server.runtime.toLowerCase).getD ""

def roleHeaderName : String :=
  ((server.config.proxycache.bind (·.roles_header)).map server.runtime.toLowerCase).getD ""

def requestIncludesAuthInfo (request : Request) : Bool :=
  (request.header XFF).truthy && (request.header (userHeaderName server)).truthy

def getAdditionalAuthHeader (request : Request) : HeaderObject :=
  match server.config.proxycache.bind (·.proxy_header),
    server.config.proxycache.bind (·.proxy_header_ip) with
  | some customProxyHeader, some proxy_header_ip =>
    if customProxyHeader != "" && !(request.header customProxyHeader).truthy &&
        proxy_header_ip != "" then
      Js.Assigned.empty.set customProxyHeader (.str proxy_header_ip)
    else .empty
  | _, _ => .empty

/-- One of the assignments of `getCookie`. -/
def keepHeader (request : Request) (name : String) (credentials : HeaderObject) : HeaderObject :=
  if (request.header name).truthy then credentials.set name (request.header name) else credentials

def cookieCredentials (request : Request) : HeaderObject :=
  let credentials := Js.Assigned.empty
  let credentials :=
    if userHeaderName server = "" then credentials
    else keepHeader request (userHeaderName server) credentials
  let credentials :=
    if roleHeaderName server = "" then credentials
    else keepHeader request (roleHeaderName server) credentials
  let credentials := keepHeader request XFF credentials
  keepHeader request "authorization" credentials

def getCookie (request : Request) (authInfo : AuthInfo) : SecuritySessionCookie where
  username := authInfo.username
  credentials := some { headers := cookieCredentials server request }
  authType := some authType
  isAnonymousAuth := false
  expiryTime := some (request.now + server.config.session.ttl)

def isValidCookie (cookie : SecuritySessionCookie) : Except JsError Bool :=
  if cookie.authType == some PROXY && truthyString cookie.username &&
      truthyNumber cookie.expiryTime then
    match cookie.credentials with
    | none => .error (.error "Cannot read properties of undefined")
    | some credentials => .ok (credentials.property (userHeaderName server)).truthy
  else .ok false

def handleUnauthedRequest : Refusal :=
  match (server.config.proxycache.bind (·.login_endpoint)).filter (· != "") with
  | some loginEndpoint => .redirected loginEndpoint none
  | none => .notHandled

/-- `get(credentials, name)` of lodash: a name that is not a property and has a dot or a bracket in
it is taken as a path. -/
def lodashGet (credentials : Option Credentials) (name : String) : HeaderValue :=
  match credentials with
  | none => .undefined
  | some credentials =>
    if credentials.property name = .undefined ∧ (name.toList.contains '.' ∨
        name.toList.contains '[') then server.platform.deepGet credentials.headers name
    else credentials.property name

/-- A header that is there is copied from the credentials. -/
def copyHeader (credentials : Option Credentials) (name : String) (headers : HeaderObject) :
    HeaderObject :=
  if (lodashGet server credentials name).truthy then
    headers.set name ((credentials.map (·.property name)).getD .undefined)
  else headers

/-- Without a user and an authorization header nothing is returned, which is assigned like an empty
object. -/
def buildAuthHeaderFromCookie (cookie : SecuritySessionCookie) : HeaderObject :=
  if (lodashGet server cookie.credentials (userHeaderName server)).truthy then
    copyHeader server cookie.credentials XFF
      (copyHeader server cookie.credentials (roleHeaderName server)
        (copyHeader server cookie.credentials (userHeaderName server) .empty))
  else if (lodashGet server cookie.credentials "authorization").truthy then
    Js.Assigned.empty.set "authorization" (lodashGet server cookie.credentials "authorization")
  else .empty

end ProxyAuthentication

def ProxyAuthentication (server : Server) : AuthenticationType where
  requestIncludesAuthInfo := ProxyAuthentication.requestIncludesAuthInfo server
  getAdditionalAuthHeader request :=
    .ok (ProxyAuthentication.getAdditionalAuthHeader server request)
  getCookie request authInfo := pure (ProxyAuthentication.getCookie server request authInfo)
  isValidCookie cookie _ := do
    pure (← Proc.ofExcept (ProxyAuthentication.isValidCookie server cookie), cookie)
  getKeepAliveExpiry _ request := pure (some (request.now + server.config.session.ttl))
  buildAuthHeaderFromCookie cookie _ :=
    pure (ProxyAuthentication.buildAuthHeaderFromCookie server cookie)
  handleUnauthedRequest _ := ProxyAuthentication.handleUnauthedRequest server

end SecurityDashboards
