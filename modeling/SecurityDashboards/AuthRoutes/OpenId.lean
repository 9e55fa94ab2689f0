import SecurityDashboards.AuthRoutes.Common

/-!
# Routes of the OpenID type

`auth/types/openid/routes.ts` and the functions of `openid/helper.ts` that it uses.
-/

namespace SecurityDashboards

/-- `error.toString()` -/
def JsError.toString (error : JsError) : String := "Error: " ++ error.message

namespace OpenIdAuthRoutes

open World

variable (setup : RouteSetup)

def getRootUrl (request : Request) : String :=
  let httpHost := setup.serverInfo.hostname ++ ":" ++ Nat.repr setup.serverInfo.port
  let xForwardedHost := request.headers.own "x-forwarded-host"
  let xForwardedProto := request.headers.own "x-forwarded-proto"
  let trust := setup.server.config.openid.trust_dynamic_headers
  let httpHost := if trust && truthyString xForwardedHost then xForwardedHost.getD "" else httpHost
  let protocol := if trust && truthyString xForwardedProto then xForwardedProto.getD ""
    else setup.serverInfo.protocol
  protocol ++ "://" ++ httpHost

def getBaseRedirectUrl (request : Request) : String :=
  let baseRedirectUrl := setup.server.config.openid.base_redirect_url
  if baseRedirectUrl ≠ "" then
    if Js.endsWith baseRedirectUrl "/" then String.ofList baseRedirectUrl.toList.dropLast
    else baseRedirectUrl
  else getRootUrl setup request ++ setup.server.serverBasePath

def getNextUrl (request : Request) : String :=
  match (request.url.queryString "nextUrl").filter (· != "") with
  | some nextUrl => nextUrl
  | none =>
    if getBaseRedirectUrl setup request = "" then "/" else getBaseRedirectUrl setup request

/-- Parameters of the configuration do not overwrite those of the query. -/
def includeAdditionalParameters (query : QueryObject) : QueryObject :=
  setup.server.config.openid.additional_parameters.foldl (fun query parameter =>
    if (query.own parameter.1).join.isNone && !Js.objectPrototype.contains parameter.1 then
      query.set parameter.1 (some parameter.2)
    else query) query

def redirectToLogin : Proc World JsError RouteResponse := do
  clearSession
  pure (.backToLogin (setup.server.serverBasePath ++ OPENID_AUTH_LOGIN))

def options : ExtraAuthStorageOptions :=
  OpenIdAuthentication.getExtraAuthStorageOptions setup.server

/-- The query of the login route. -/
def loginSchema : QuerySchema where
  fields := [("code", maybeString), ("nextUrl", nextUrlSchema setup.server),
    ("redirectHash", maybeString), ("state", maybeString), ("refresh", maybeString)]
  unknowns := true

/-- "Sign-in initialization" -/
def startLogin (nonce : String) (request : Request) : Proc World JsError RouteResponse := do
  let query := Js.Assigned.empty
    |>.set "client_id" setup.server.config.openid.client_id
    |>.set "response_type" (some AUTH_RESPONSE_TYPE)
    |>.set "redirect_uri" (some (getBaseRedirectUrl setup request ++ OPENID_AUTH_LOGIN))
    |>.set "state" (some nonce)
    |>.set "scope" (some setup.openIdAuthConfig.scope)
  let queryString := setup.stringify (includeAdditionalParameters setup query)
  setSession
    { oidc := some
        { state := some nonce
          nextUrl := some (getNextUrl setup request)
          redirectHash := request.url.queryString "redirectHash" == some "true" }
      authType := some OPEN_ID }
  pure (.redirected (setup.openIdAuthConfig.authorizationEndpoint ++ "?" ++ queryString))

/-- The query of the exchange of the code. -/
def codeQuery (request : Request) : QueryObject :=
  includeAdditionalParameters setup (Js.Assigned.empty
    |>.set "grant_type" (some AUTH_GRANT_TYPE)
    |>.set "code" (request.url.queryString "code")
    |>.set "redirect_uri" (some (getBaseRedirectUrl setup request ++ OPENID_AUTH_LOGIN))
    |>.set "client_id" setup.server.config.openid.client_id
    |>.set "client_secret" (some setup.server.config.openid.client_secret))

/-- Where a completed login leads. -/
def nextLocation (oidc : OidcLogin) : String :=
  let nextUrl := oidc.nextUrl.getD "undefined"
  if oidc.redirectHash then
    setup.server.serverBasePath ++ "/auth/openid/redirectUrlFragment?nextUrl=" ++
      Js.escape nextUrl
  else nextUrl

/-- The session cookie of a completed login. -/
def sessionOf (request : Request) (user : User) (tokenResponse : TokenResponse)
    (expiryTime : Option ℚ) : SecuritySessionCookie where
  username := user.username
  credentials := some
    { authHeaderValueExtra := true
      expiryTime
      refresh_token :=
        if setup.server.config.openid.refresh_tokens then tokenResponse.refreshToken.filter (· != "")
        else none }
  authType := some OPEN_ID
  expiryTime := some (request.now + setup.server.config.session.ttl)

/-- The `try` of the authentication callback. -/
def completeLogin (request : Request) (oidc : OidcLogin) : Proc World JsError RouteResponse := do
  let tokenResponse ← Proc.ofExcept (callTokenEndpoint setup.exchangeCode (codeQuery setup request))
  let authorization := "Bearer " ++ tokenResponse.idToken.getD "undefined"
  let user ← authenticateWithHeader setup request setup.openIdAuthConfig.authHeaderName
    (some authorization)
  let expiryTime ← Proc.ofExcept
    (tokenExpirationDate setup.server.runtime request.now (some tokenResponse))
  onQueue (ExtraStorage.store setup.server (options setup) (.str authorization))
  setSession (sessionOf setup request user tokenResponse expiryTime)
  pure (.redirected (nextLocation setup oidc))

/-- The pending login that this request completes. -/
def pendingLogin (request : Request) : Option OidcLogin :=
  match request.session with
  | .error _ => none
  | .ok cookie =>
    (cookie.bind (·.oidc)).filter fun oidc =>
      truthyString oidc.state && oidc.state == request.url.queryString "state"

/-- "Authentication callback" -/
def callback (request : Request) : Proc World JsError RouteResponse :=
  match pendingLogin request with
  | none => redirectToLogin setup
  | some oidc => do
    match ← Proc.attempt (completeLogin setup request oidc) with
    | .ok response => pure response
    | .error error =>
      if Js.includes (setup.server.runtime.toLowerCase error.toString) "authentication exception"
      then pure (.unauthorized none)
      else redirectToLogin setup

def login (nonce : String) (request : Request) : Proc World JsError RouteResponse :=
  if truthyString (request.url.queryString "code") then callback setup request
  else startLogin setup nonce request

/-- The token in a header value like `Bearer <auth_token>`. -/
def tokenOf (authHeaderValue : String) : Option String := (Js.split authHeaderValue ' ')[1]?

/-- The token of the session, for the IdP. -/
def tokenHint (cookie : Option SecuritySessionCookie) (tokenFromExtraStorage : String) :
    Except JsError (Option String) :=
  if tokenFromExtraStorage ≠ "" then .ok (tokenOf tokenFromExtraStorage)
  else match cookie with
    | none => .ok none
    | some cookie =>
      match cookie.credentials.map Credentials.authHeaderValue with
      | some (.str authHeaderValue) => .ok (tokenOf authHeaderValue)
      | _ => .error (.error "Cannot read properties of undefined (reading 'split')")

def composeLogoutUrl (additionalQueryParams : List (String × String)) : Except JsError String :=
  let logoutEndpoint :=
    if setup.server.config.openid.logout_url ≠ "" then setup.server.config.openid.logout_url
    else setup.openIdAuthConfig.endSessionEndpoint.getD "undefined"
  match setup.urlWithParams logoutEndpoint additionalQueryParams with
  | some url => .ok url
  | none => .error (.error "Invalid URL")

def logout (request : Request) : Proc World JsError RouteResponse := do
  let cookie ← Proc.ofExcept request.session
  let w ← get
  let tokenFromExtraStorage ← Proc.ofExcept <|
    if (cookie.bind (·.credentials)).any (·.authHeaderValueExtra) then
      getExtraAuthStorageValue setup.server.runtime request w.queue.states (options setup)
    else .ok ""
  onQueue (Proc.update fun queue =>
    { queue with states := clearSplitCookies request queue.states (options setup) })
  clearSession
  let token ← Proc.ofExcept (tokenHint cookie tokenFromExtraStorage)
  let endSessionUrl ← Proc.ofExcept (composeLogoutUrl setup
    [("post_logout_redirect_uri", getBaseRedirectUrl setup request),
      ("id_token_hint", token.getD "undefined")])
  pure (.redirected endSessionUrl)

/-- The query of the page that captures the fragment of a URL. -/
def captureUrlFragmentSchema : QuerySchema where
  fields := [("nextUrl", nextUrlSchema setup.server)]

def captureUrlFragment (_request : Request) : Proc World JsError RouteResponse := do
  clearSession
  pure (.rendered .captureUrlFragment)

/-- The query of the page that appends the fragment; `nextUrl` is not validated. -/
def redirectUrlFragmentSchema : QuerySchema where
  fields := [("nextUrl", .any)]

def redirectUrlFragment (_request : Request) : Proc World JsError RouteResponse :=
  pure (.rendered .redirectUrlFragment)

end OpenIdAuthRoutes

end SecurityDashboards
