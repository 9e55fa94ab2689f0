import SecurityDashboards.AuthTypes.ExtraStorage

/-!
# JWT authentication

`auth/types/jwt/jwt_auth.ts` and `jwt_helper.ts`
-/

namespace SecurityDashboards

/-- `getExpirationDate` of the JWT helper. -/
def getExpirationDate (runtime : Runtime) (authHeader : HeaderValue) (defaultExpiry : ℚ) :
    Except JsError (Option ℚ) :=
  match authHeader with
  | .undefined => .ok (some defaultExpiry)
  | .inherited => .error (.error "authHeader.startsWith is not a function")
  | .str authHeader =>
    if Js.startsWith authHeader "Bearer " then
      match Js.split ((Js.split authHeader ' ').getD 1 "") '.' with
      | [_, payload, _] =>
        match runtime.payloadExp payload with
        | .error message => .error (.error message)
        | .ok exp =>
          if exp.truthy then .ok (exp.toNumber.map fun exp => min (exp * 1000) defaultExpiry)
          else .ok (some defaultExpiry)
      | _ => .ok (some defaultExpiry)
    else .ok (some defaultExpiry)

namespace JwtAuthentication

variable (server : Server)

def authHeaderName : String :=
  match server.config.jwt with
  | some jwt =>
    let name := server.runtime.toLowerCase jwt.header
    if name = "" then "authorization" else name
  | none => "authorization"

def JWT_DEFAULT_EXTRA_STORAGE_OPTIONS : ExtraAuthStorageOptions where
  cookiePrefix := "security_authentication_jwt"
  additionalCookies := 5

def getExtraAuthStorageOptions : ExtraAuthStorageOptions :=
  match server.config.jwt with
  | some jwt =>
    { cookiePrefix :=
        if jwt.extra_storage.cookie_prefix = "" then JWT_DEFAULT_EXTRA_STORAGE_OPTIONS.cookiePrefix
        else jwt.extra_storage.cookie_prefix
      additionalCookies :=
        if jwt.extra_storage.additional_cookies = 0 then
          JWT_DEFAULT_EXTRA_STORAGE_OPTIONS.additionalCookies
        else jwt.extra_storage.additional_cookies }
  | none => JWT_DEFAULT_EXTRA_STORAGE_OPTIONS

def getTokenFromUrlParam (request : Request) : Option String :=
  match server.config.jwt with
  | some jwt =>
    if jwt.url_param = "" then none else (request.url.param jwt.url_param).filter (· != "")
  | none => none

def getBearerToken (request : Request) : HeaderValue :=
  match getTokenFromUrlParam server request with
  | some token => .str ("Bearer " ++ token)
  | none => (request.header (authHeaderName server)).or .undefined

def requestIncludesAuthInfo (request : Request) : Bool :=
  (request.header (authHeaderName server)).truthy || (getTokenFromUrlParam server request).isSome

def getAdditionalAuthHeader (request : Request) : HeaderObject :=
  match getTokenFromUrlParam server request with
  | some token => Js.Assigned.empty.set (authHeaderName server) (.str ("Bearer " ++ token))
  | none => .empty

def getCookie (request : Request) (authInfo : AuthInfo) :
    Proc Queue JsError SecuritySessionCookie := do
  ExtraStorage.store server (getExtraAuthStorageOptions server)
    ((getBearerToken server request).or (.str ""))
  let expiryTime ← Proc.ofExcept (getExpirationDate server.runtime (getBearerToken server request)
    (request.now + server.config.session.ttl))
  pure
    { username := authInfo.user_name
      credentials := some { authHeaderValueExtra := true }
      authType := some JWT
      expiryTime }

def isValidCookie (cookie : SecuritySessionCookie) (request : Request) (queue : Queue) : Bool :=
  cookie.authType == some JWT && truthyString cookie.username && truthyNumber cookie.expiryTime &&
    ExtraStorage.hasAuthHeaderValue server (getExtraAuthStorageOptions server) request cookie queue

/-- A value of the split cookies goes to `authorization`, whatever the configured header is. -/
def buildAuthHeaderFromCookie (cookie : SecuritySessionCookie) (request : Request)
    (queue : Queue) : Except JsError HeaderObject :=
  match cookie.credentials with
  | none => .error (.error
    "Cannot read properties of undefined (reading 'authHeaderValueExtra')")
  | some credentials =>
    if credentials.authHeaderValueExtra then
      .ok (Js.Assigned.empty.set "authorization" (.str
        (ExtraStorage.value server (getExtraAuthStorageOptions server) request cookie queue)))
    else if credentials.authHeaderValue.truthy then
      .ok (Js.Assigned.empty.set (authHeaderName server) credentials.authHeaderValue)
    else .ok .empty

def getKeepAliveExpiry (cookie : SecuritySessionCookie) (request : Request) (queue : Queue) :
    Except JsError (Option ℚ) := do
  let header ← buildAuthHeaderFromCookie server cookie request queue
  getExpirationDate server.runtime (header.get (authHeaderName server))
    (request.now + server.config.session.ttl)

end JwtAuthentication

def JwtAuthentication (server : Server) : AuthenticationType where
  requestIncludesAuthInfo := JwtAuthentication.requestIncludesAuthInfo server
  getAdditionalAuthHeader request := .ok (JwtAuthentication.getAdditionalAuthHeader server request)
  getCookie := JwtAuthentication.getCookie server
  isValidCookie cookie request := do
    pure (JwtAuthentication.isValidCookie server cookie request (← get), cookie)
  getKeepAliveExpiry cookie request := do
    Proc.ofExcept (JwtAuthentication.getKeepAliveExpiry server cookie request (← get))
  buildAuthHeaderFromCookie cookie request := do
    Proc.ofExcept (JwtAuthentication.buildAuthHeaderFromCookie server cookie request (← get))
  handleUnauthedRequest _ := .unauthorized none

end SecurityDashboards
