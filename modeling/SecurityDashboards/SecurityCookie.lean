import SecurityDashboards.Common
import SecurityDashboards.Lib.PlainObject

/-!
# The session cookie

`SecuritySessionCookie` and the validation of `session/security_cookie.ts`. The cookie travels as
sealed JSON: what the server reads on the next request is `SecuritySessionCookie.stored`.
-/

namespace SecurityDashboards

/-- What a property read off a header object (or off `credentials`) gives: nothing, a string, or a
function or object that a plain object inherits from `Object.prototype`. -/
inductive HeaderValue where
  | undefined
  | str (s : String)
  | inherited
deriving DecidableEq

namespace HeaderValue

/-- Truthiness. -/
def truthy : HeaderValue → Bool
  | undefined => false
  | str s => s != ""
  | inherited => true

/-- `v || w` -/
def or (v w : HeaderValue) : HeaderValue := if v.truthy then v else w

/-- JSON keeps the strings and drops the other values. -/
def isString : HeaderValue → Bool
  | str _ => true
  | _ => false

end HeaderValue

/-- An object of request headers that the code builds. -/
abbrev HeaderObject := Js.Assigned HeaderValue

/-- `headers[name]` on an object of header values. -/
def HeaderObject.get (headers : HeaderObject) (name : String) : HeaderValue :=
  match headers.own name with
  | some v => v
  | none => if name ∈ Js.objectPrototype then .inherited else .undefined

/-- The `credentials` of a session cookie. The proxy type stores headers under their own names, all
other types use the named fields. An absent number and `NaN` are both `none`: every test of the code
treats them alike. -/
structure Credentials where
  authHeaderValue : HeaderValue := .undefined
  authHeaderValueExtra : Bool := false
  refresh_token : Option String := none
  expiryTime : Option ℚ := none
  headers : HeaderObject := .empty
deriving DecidableEq

/-- A pending OpenID login. -/
structure OidcLogin where
  state : Option String := none
  nextUrl : Option String := none
  redirectHash : Bool := false
deriving DecidableEq

/-- A pending SAML login. -/
structure SamlLogin where
  requestId : Option String := none
  nextUrl : Option String := none
  redirectHash : Bool := false
deriving DecidableEq

structure SecuritySessionCookie where
  username : Option String := none
  credentials : Option Credentials := none
  authType : Option String := none
  isAnonymousAuth : Bool := false
  expiryTime : Option ℚ := none
  tenant : Option String := none
  oidc : Option OidcLogin := none
  saml : Option SamlLogin := none
deriving DecidableEq

/-- Truthiness of an optional string. -/
def truthyString : Option String → Bool
  | some s => s != ""
  | none => false

/-- Truthiness of an optional number. -/
def truthyNumber : Option ℚ → Bool
  | some q => q != 0
  | none => false

/-- The credentials after a round trip through JSON. -/
def Credentials.stored (c : Credentials) : Credentials :=
  { c with
    authHeaderValue := if c.authHeaderValue.isString then c.authHeaderValue else .undefined
    headers := c.headers.filterValues HeaderValue.isString }

/-- The session cookie as the browser keeps it. -/
def SecuritySessionCookie.stored (c : SecuritySessionCookie) : SecuritySessionCookie :=
  { c with credentials := c.credentials.map Credentials.stored }

/-- `validate` of `getSecurityCookieOptions`: a cookie with a pending login is always valid, any
other one until its expiry time. -/
def SecuritySessionCookie.validate (sessionStorage : SecuritySessionCookie) (now : ℕ) : Bool :=
  if (sessionStorage.saml.any fun saml => truthyString saml.requestId) then true
  else if sessionStorage.oidc.isSome then true
  else match sessionStorage.expiryTime with
    | none => false
    | some expiryTime => !decide (expiryTime < now)

end SecurityDashboards
