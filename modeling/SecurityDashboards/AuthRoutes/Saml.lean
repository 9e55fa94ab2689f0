import SecurityDashboards.AuthRoutes.Common

/-!
# Routes of the SAML type

`auth/types/saml/routes.ts`, with `getSamlHeader` of `SecurityClient`.
-/

namespace SecurityDashboards

/-! ## The SAML header -/

def isLineTerminator (c : Char) : Bool :=
  c = '\n' || c = '\r' || c.toNat = 0x2028 || c.toNat = 0x2029

/-- `(.*?)"` at the start of the text. -/
def untilQuote (l : List Char) : Option (List Char) :=
  let inner := l.takeWhile fun c => c ≠ '"' && !isLineTerminator c
  match l.drop inner.length with
  | '"' :: _ => some inner
  | _ => none

/-- The group of the first match of `name="(.*?)"`. -/
def quotedAttribute (name : List Char) : List Char → Option (List Char)
  | [] => none
  | c :: l =>
    match (if (name ++ ['=', '"']).isPrefixOf (c :: l) then
        untilQuote ((c :: l).drop (name.length + 2)) else none) with
    | some inner => some inner
    | none => quotedAttribute name l

structure SamlHeader where
  location : String
  requestId : String

/-- `SecurityClient.getSamlHeader`: the answer is expected to be an error. -/
def getSamlHeader (challenge : Option SamlChallenge) : Except JsError SamlHeader :=
  match challenge with
  | none => .error (.error "Invalid SAML configuration.")
  | some challenge =>
    match challenge.wwwAuthenticateDirective.filter (· != "") with
    | none => .error (.error challenge.message)
    | some directive =>
      match quotedAttribute "location".toList directive.toList,
        quotedAttribute "requestId".toList directive.toList with
      | some location, some requestId =>
        .ok ⟨String.ofList location, String.ofList requestId⟩
      | _, _ => .error (.error "Error: failed parsing SAML config")

/-! ## Routes -/

namespace SamlAuthRoutes

open World

variable (setup : RouteSetup)

def options : ExtraAuthStorageOptions :=
  SamlAuthentication.getExtraAuthStorageOptions setup.server

def homeLocation : String := setup.server.serverBasePath ++ "/app/wz-home"

/-- The query of the login route. -/
def loginSchema : QuerySchema where
  fields := [("nextUrl", nextUrlSchema setup.server), ("redirectHash", .string)]

def login (isAuthenticated : Bool) (request : Request) : Proc World JsError RouteResponse :=
  if isAuthenticated then pure (.redirected (homeLocation setup))
  else match getSamlHeader (setup.samlChallenge request) with
    | .error _ => pure .internalError
    | .ok samlHeader => do
      setSession
        { saml := some
            { nextUrl := request.url.queryString "nextUrl"
              requestId := some samlHeader.requestId
              redirectHash := request.url.queryString "redirectHash" == some "true" } }
      pure (.redirected samlHeader.location)

/-- The expiry time of a new session: the one of the token, if it has one. -/
def expiryTimeOf (now : ℕ) (authorization : String) : Except JsError (Option ℚ) :=
  match (Js.split authorization '.')[1]? with
  | none => .error (.error ("The first argument must be of type string or an instance of Buffer, " ++
      "ArrayBuffer, or Array or an Array-like Object. Received undefined"))
  | some payloadEncoded =>
    match setup.server.runtime.payloadExp payloadEncoded with
    | .error message => .error (.error message)
    | .ok exp =>
      if exp.truthy then .ok ((exp.parseInt setup.server.runtime.firstDigit).map (· * 1000))
      else .ok (some (now + setup.server.config.session.ttl))

/-- The session that both `acs` routes start. -/
def startSession (request : Request) (body : AuthTokenBody) : Proc World JsError Unit := do
  let credentials ← Proc.ofExcept
    ((setup.authToken body).mapError fun _ => .error "failed to get token")
  let user ← authenticateWithHeader setup request "authorization" credentials
  match credentials with
  | none => throw (.error "Cannot read properties of undefined (reading 'split')")
  | some authorization => do
    let expiryTime ← Proc.ofExcept (expiryTimeOf setup request.now authorization)
    onQueue (ExtraStorage.store setup.server (options setup) (.str authorization))
    setSession
      { username := user.username
        credentials := some { authHeaderValueExtra := true }
        authType := some SAML
        expiryTime }

/-- Where a login that was started by this server leads. -/
def nextLocation (saml : SamlLogin) : String :=
  let nextUrl := (saml.nextUrl.filter (· != "")).getD (homeLocation setup)
  if saml.redirectHash then
    setup.server.serverBasePath ++ "/auth/saml/redirectUrlFragment?nextUrl=" ++
      Js.escape nextUrl
  else nextUrl

/-- `/_opendistro/_security/saml/acs` -/
def acs (request : Request) (samlResponse : String) : Proc World JsError RouteResponse :=
  match request.session with
  | .error _ => pure (.badRequest none)
  | .ok cookie =>
    match (cookie.bind (·.saml)).filter fun saml => truthyString saml.requestId with
    | none => pure (.badRequest (some "Invalid requestId"))
    | some saml => do
      match ← Proc.attempt (startSession setup request
          { RequestId := saml.requestId, SAMLResponse := samlResponse, acsEndpoint := none }) with
      | .ok _ => pure (.redirected (nextLocation setup saml))
      | .error _ => pure .internalError

/-- `/_opendistro/_security/saml/acs/idpinitiated` -/
def idpInitiated (request : Request) (samlResponse : String) :
    Proc World JsError RouteResponse := do
  let acsEndpoint := setup.server.serverBasePath ++ "/_opendistro/_security/saml/acs/idpinitiated"
  match ← Proc.attempt (startSession setup request
      { RequestId := none, SAMLResponse := samlResponse, acsEndpoint := some acsEndpoint }) with
  | .ok _ => pure (.redirected (homeLocation setup))
  | .error _ => pure .internalError

/-- The query of the page that captures the fragment of a URL. -/
def captureUrlFragmentSchema : QuerySchema where
  fields := [("nextUrl", nextUrlSchema setup.server)]

def captureUrlFragment (_request : Request) : Proc World JsError RouteResponse := do
  clearSession
  pure (.rendered .captureUrlFragment)

/-- The query of the page that appends the fragment; `nextUrl` is not validated. -/
def redirectUrlFragmentSchema : QuerySchema where
  fields := [("nextUrl", .any)]

def redirectUrlFragment (_request : Request) : Proc World JsError RouteResponse :=
  pure (.rendered .redirectUrlFragment)

/-- The location after the logout. -/
def logoutLocation (authInfo : AuthInfo) : String :=
  match authInfo.sso_logout_url.filter (· != "") with
  | some url => url
  | none => if setup.server.serverBasePath = "" then "/" else setup.server.serverBasePath

def logout (request : Request) : Proc World JsError RouteResponse := do
  match ← Proc.attempt (authinfo setup.environment request .empty) with
  | .error _ => pure (.badRequest none)
  | .ok authInfo =>
    onQueue (Proc.update fun queue =>
      { queue with states := clearSplitCookies request queue.states (options setup) })
    clearSession
    pure (.redirected (logoutLocation setup authInfo))

end SamlAuthRoutes

end SecurityDashboards
