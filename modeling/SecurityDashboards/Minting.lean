import SecurityDashboards.AuthTypes.Multi

/-!
# Sessions minted from a request

A request that carries authentication data starts a session: `getCookie` mints a session cookie and
queues split cookies, and later requests of the browser bring both back. This file names what a
minted session should do: `isValidCookie` accepts it until it expires, and
`buildAuthHeaderFromCookie` replays the headers of the request that started it.
-/

namespace SecurityDashboards

/-- The request carries authentication data, and `getCookie` mints `cookie` for it and leaves the
queue `queue`. -/
def AuthenticationType.Mints (self : AuthenticationType) (request : Request) (authInfo : AuthInfo)
    (cookie : SecuritySessionCookie) (queue : Queue) : Prop :=
  self.requestIncludesAuthInfo request = true ∧
    (self.getCookie request authInfo).exec {} = (.ok cookie, queue)

/-- The session cookie as it comes back with a later request. `authHandler` sets its tenant. -/
def SecuritySessionCookie.written (cookie : SecuritySessionCookie) (tenant : Option String) :
    SecuritySessionCookie :=
  ({ cookie with tenant } : SecuritySessionCookie).stored

/-- The request `later` comes from the browser that got the minted cookies. -/
def Follows (request later : Request) (cookie : SecuritySessionCookie) (queue : Queue)
    (tenant : Option String) : Prop :=
  later.cookies =
    request.cookies.after { queue, session := some (some { cookie with tenant }) }

namespace AuthType

variable (server : Server) (request : Request)

/-- The header value that the type keeps in split cookies, and where. -/
def splitValue : AuthType → Option (ExtraAuthStorageOptions × HeaderValue)
  | jwt => some (JwtAuthentication.getExtraAuthStorageOptions server,
      (JwtAuthentication.getBearerToken server request).or (.str ""))
  | openId => some (OpenIdAuthentication.getExtraAuthStorageOptions server,
      request.header "authorization")
  | saml => some (SamlAuthentication.getExtraAuthStorageOptions server,
      request.header AUTH_HEADER_NAME)
  | basic | proxy => none

/-- The value fits into the split cookies. -/
def Fits (authType : AuthType) : Prop :=
  ∀ options content, authType.splitValue server request = some (options, .str content) →
    (Buffer.toBase64 (server.runtime.deflateSync content)).length ≤
      options.additionalCookies * maxLengthPerCookie

end AuthType

/-- The type that mints the cookie for this request. -/
def Scheme.mintedBy (server : Server) (environment : Environment) (request : Request) :
    Scheme → Option AuthType
  | single authType => some authType
  | multiple authHandlers => MultipleAuthentication.claimant server environment authHandlers request

/-! ## Acceptance -/

/-- `isValidCookie` accepts the cookie without calling the token endpoint. -/
def AuthenticationType.Accepts (self : AuthenticationType) (cookie : SecuritySessionCookie)
    (request : Request) : Prop :=
  ∃ cookie', (self.isValidCookie cookie request).exec {} = (.ok (true, cookie'), {})

/-! ## Replay -/

/-- The value of a header of the request, without inherited properties. -/
def Request.sent (request : Request) (name : String) : HeaderValue :=
  match request.headers.own name with
  | some s => .str s
  | none => .undefined

/-- The value of a header that is handed to the backend. -/
def HeaderObject.sent (headers : HeaderObject) (name : String) : HeaderValue :=
  (headers.own name).getD .undefined

/-- The authentication headers of a request. For JWT the configured header has the token of the URL
parameter, if there is one. -/
def AuthType.original (server : Server) (request : Request) (name : String) :
    AuthType → HeaderValue
  | jwt =>
    if name = JwtAuthentication.authHeaderName server then
      JwtAuthentication.getBearerToken server request
    else .undefined
  | openId | saml | basic => if name = "authorization" then request.sent name else .undefined
  | proxy =>
    if name ∈ [ProxyAuthentication.userHeaderName server, ProxyAuthentication.roleHeaderName server,
        ProxyAuthentication.XFF, "authorization"] ∧ name ≠ "" then request.sent name
    else .undefined

/-- `buildAuthHeaderFromCookie` gives exactly the authentication headers of `request`. -/
def AuthType.Replays (authType : AuthType) (server : Server) (environment : Environment)
    (request : Request) (cookie : SecuritySessionCookie) (later : Request) : Prop :=
  ∃ headers queue,
    ((authType.handler server environment).buildAuthHeaderFromCookie cookie later).exec {} =
      (.ok headers, queue) ∧
    ∀ name, HeaderObject.sent headers name = authType.original server request name

/-- The proxy type stores and restores a header of this name: it has a value, or there is no
property of that name at all. -/
def Request.Restorable (request : Request) (name : String) : Prop :=
  (∃ s, request.headers.own name = some s ∧ s ≠ "") ∨
    (request.headers.own name = none ∧ (name ∉ Js.objectPrototype ∨ name = "__proto__"))

/-- When a type replays the headers: JWT only under the name `authorization`, and the proxy type
neither empty headers nor an authorization header beside the user header. -/
def AuthType.CanReplay (server : Server) (request : Request) : AuthType → Prop
  | jwt => JwtAuthentication.authHeaderName server = "authorization"
  | proxy =>
    let user := ProxyAuthentication.userHeaderName server
    let role := ProxyAuthentication.roleHeaderName server
    user ≠ "" ∧ request.Restorable user ∧ (role = "" ∨ request.Restorable role) ∧
      (request.headers.own "authorization" = none ∨ user = "authorization" ∨
        role = "authorization")
  | openId | saml | basic => True

end SecurityDashboards
