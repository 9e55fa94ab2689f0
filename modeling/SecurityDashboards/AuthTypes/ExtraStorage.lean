import SecurityDashboards.AuthenticationType

/-!
# Credentials in split cookies

What the JWT, OpenID and SAML types have in common: they keep the authorization header in the split
cookies and only a mark in the session cookie.
-/

namespace SecurityDashboards

namespace ExtraStorage

variable (server : Server) (options : ExtraAuthStorageOptions)

/-- `setExtraAuthStorage` in a method. -/
def store (content : HeaderValue) : Proc Queue JsError Unit := do
  let queue ← get
  let states ← Proc.ofExcept
    (setExtraAuthStorage server.runtime queue.states content options)
  Proc.update fun queue => { queue with states }

/-- The method `getExtraAuthStorageValue` of the three types: an error counts as no value. -/
def value (request : Request) (cookie : SecuritySessionCookie) (queue : Queue) : String :=
  if cookie.credentials.any (·.authHeaderValueExtra) then
    match getExtraAuthStorageValue server.runtime request queue.states options with
    | .ok content => content
    | .error _ => ""
  else ""

/-- The cookie has a header value of its own, or one in the split cookies. -/
def hasAuthHeaderValue (request : Request) (cookie : SecuritySessionCookie) (queue : Queue) :
    Bool :=
  cookie.credentials.any (·.authHeaderValue.truthy) || value server options request cookie queue != ""

end ExtraStorage

end SecurityDashboards
