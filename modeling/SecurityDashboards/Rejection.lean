import SecurityDashboards.Sessions

/-!
# Sessions that the backend rejects

The backend is asked about a stored session when the tenant is resolved, or else at the end of
`authHandler`. This file says how a rejection is to be answered.
-/

namespace SecurityDashboards

/-- No error comes out of reading the expiry time of this header value: it is a string, and if it is
a bearer token of three parts, the second one can be parsed. -/
def ReadableToken (runtime : Runtime) (authHeader : HeaderValue) : Prop :=
  authHeader ≠ .inherited ∧
    ∀ s header payload signature, authHeader = .str s → Js.startsWith s "Bearer " = true →
      Js.split ((Js.split s ' ').getD 1 "") '.' = [header, payload, signature] →
      ∃ exp, runtime.payloadExp payload = .ok exp

/-- If the session of the cookie is kept alive by its token, the token can be read. -/
def Scheme.KeepsAlive (server : Server) (request : Request) (cookie : SecuritySessionCookie)
    (scheme : Scheme) : Prop :=
  server.config.session.keepalive = true → scheme.validatedBy server cookie = some .jwt →
    ∀ headers, JwtAuthentication.buildAuthHeaderFromCookie server cookie request {} = .ok headers →
      ReadableToken server.runtime (headers.get (JwtAuthentication.authHeaderName server))

/-- A request to a route that requires authentication comes without authentication data, but with a
cookie that `isValidCookie` accepts. It leaves `accepted` and `queue` behind. -/
structure AcceptedSession (server : Server) (environment : Environment) (scheme : Scheme)
    (request : Request) (cookie accepted : SecuritySessionCookie) (queue : Queue) : Prop where
  required : authNotRequired server.config request = false
  noAuthInfo : (scheme.authentication server environment).requestIncludesAuthInfo request = false
  stored : request.session = .ok (some cookie)
  valid : ((scheme.authentication server environment).isValidCookie cookie request).exec {} =
    (.ok (true, accepted), queue)

/-- The backend rejects the credentials of the session. -/
structure RejectedSession (server : Server) (environment : Environment) (scheme : Scheme)
    (request : Request) (cookie accepted : SecuritySessionCookie) (queue : Queue) : Prop extends
    AcceptedSession server environment scheme request cookie accepted queue where
  rejected : ∀ headers,
    (((scheme.authentication server environment).cookieHeaders accepted request).exec
      { queue }).1 = .ok headers →
    ∃ message, environment.authinfo [] request headers = .error message

/-- The request is answered like one without a session: an asset is not handled, anything else
clears the session cookie. -/
def AnsweredUnauthenticated (auth : AuthenticationType) (request : Request)
    (outcome : Except JsError AuthResult × World) : Prop :=
  if isBundleRequest request then outcome.1 = .ok (.refused .notHandled)
  else outcome.1 = .ok (.refused (auth.handleUnauthedRequest request)) ∧
    outcome.2.session = some none

/-- What `authHandler` does with the request. -/
def Scheme.handle (server : Server) (environment : Environment) (scheme : Scheme)
    (request : Request) : Except JsError AuthResult × World :=
  ((scheme.authentication server environment).authHandler server environment request).exec {}

end SecurityDashboards
