import SecurityDashboards.AuthTypes.ExtraStorage

/-!
# OpenID authentication

`auth/types/openid/openid_auth.ts`
-/

namespace SecurityDashboards

namespace OpenIdAuthentication

variable (server : Server) (environment : Environment)

def getExtraAuthStorageOptions : ExtraAuthStorageOptions where
  cookiePrefix := server.config.openid.extra_storage.cookie_prefix
  additionalCookies := server.config.openid.extra_storage.additional_cookies

def requestIncludesAuthInfo (request : Request) : Bool := (request.header "authorization").truthy

def getCookie (request : Request) (authInfo : AuthInfo) :
    Proc Queue JsError SecuritySessionCookie := do
  ExtraStorage.store server (getExtraAuthStorageOptions server) (request.header "authorization")
  pure
    { username := authInfo.user_name
      credentials := some { authHeaderValueExtra := true }
      authType := some OPEN_ID
      expiryTime := some (request.now + server.config.session.ttl) }

/-- The `query` of `isValidCookie`. -/
def query (refresh_token : String) : TokenQuery where
  grant_type := "refresh_token"
  client_id := server.config.openid.client_id
  client_secret := server.config.openid.client_secret
  refresh_token := refresh_token

/-- The call of the token endpoint in `isValidCookie`; its answer is logged. -/
def refresh (refresh_token : String) : Proc Queue JsError TokenResponse := do
  let answer := callTokenEndpoint environment.tokenEndpoint (query server refresh_token)
  Proc.update fun queue => { queue with tokenCalls := answer :: queue.tokenCalls }
  Proc.ofExcept answer

/-- The credentials of a token response. -/
def credentialsOf (now : ℕ) (tokenResponse : TokenResponse) : Except JsError Credentials := do
  let expiryTime ← tokenExpirationDate server.runtime now (some tokenResponse)
  pure { authHeaderValueExtra := true, refresh_token := tokenResponse.refreshToken, expiryTime }

/-- "need to renew id token": the `try` of `isValidCookie`. -/
def renew (cookie : SecuritySessionCookie) (request : Request) (refresh_token : String) :
    Proc Queue JsError (Bool × SecuritySessionCookie) := do
  let refreshTokenResponse ← refresh server environment refresh_token
  match refreshTokenResponse.idToken.filter (· != "") with
  | some idToken => do
    let credentials ← Proc.ofExcept (credentialsOf server request.now refreshTokenResponse)
    ExtraStorage.store server (getExtraAuthStorageOptions server) (.str ("Bearer " ++ idToken))
    pure (true, { cookie with credentials := some credentials })
  | none => pure (false, cookie)

/-- The first test of `isValidCookie`. -/
def isUsable (cookie : SecuritySessionCookie) (request : Request) (queue : Queue) : Bool :=
  cookie.authType == some OPEN_ID && truthyString cookie.username &&
    truthyNumber cookie.expiryTime &&
    ExtraStorage.hasAuthHeaderValue server (getExtraAuthStorageOptions server) request cookie queue

/-- The token has not expired. -/
def isFresh (cookie : SecuritySessionCookie) (now : ℕ) : Bool :=
  (cookie.credentials.bind (·.expiryTime)).any fun expiryTime => decide ((now : ℚ) < expiryTime)

/-- The cookie object that a failed renewal leaves behind is not used any more. -/
def isValidCookie (cookie : SecuritySessionCookie) (request : Request) :
    Proc Queue JsError (Bool × SecuritySessionCookie) := do
  let queue ← get
  if !isUsable server cookie request queue then pure (false, cookie)
  else if isFresh cookie request.now then pure (true, cookie)
  else match (cookie.credentials.bind (·.refresh_token)).filter (· != "") with
    | some refresh_token => do
      match ← Proc.attempt (renew server environment cookie request refresh_token) with
      | .ok result => pure result
      | .error _ => pure (false, cookie)
    | none => pure (false, cookie)

def handleUnauthedRequest (request : Request) : Refusal :=
  if isPageRequest request then
    .redirected
      (server.serverBasePath ++ "/auth/openid/captureUrlFragment?nextUrl=" ++
        generateNextUrl server request)
      (some (clearOldVersionCookieValue server))
  else .unauthorized none

def buildAuthHeaderFromCookie (cookie : SecuritySessionCookie) (request : Request)
    (queue : Queue) : Except JsError HeaderObject :=
  match cookie.credentials with
  | none => .error (.error
    "Cannot read properties of undefined (reading 'authHeaderValueExtra')")
  | some credentials =>
    if credentials.authHeaderValueExtra then
      .ok (Js.Assigned.empty.set "authorization" (.str
        (ExtraStorage.value server (getExtraAuthStorageOptions server) request cookie queue)))
    else if credentials.authHeaderValue.truthy then
      .ok (Js.Assigned.empty.set "authorization" credentials.authHeaderValue)
    else .ok .empty

end OpenIdAuthentication

def OpenIdAuthentication (server : Server) (environment : Environment) : AuthenticationType where
  requestIncludesAuthInfo := OpenIdAuthentication.requestIncludesAuthInfo
  getAdditionalAuthHeader _ := .ok .empty
  getCookie := OpenIdAuthentication.getCookie server
  isValidCookie := OpenIdAuthentication.isValidCookie server environment
  getKeepAliveExpiry _ request := pure (some (request.now + server.config.session.ttl))
  buildAuthHeaderFromCookie cookie request := do
    Proc.ofExcept (OpenIdAuthentication.buildAuthHeaderFromCookie server cookie request (← get))
  handleUnauthedRequest := OpenIdAuthentication.handleUnauthedRequest server

end SecurityDashboards
