import SecurityDashboards.AuthRoutes.Basic
import SecurityDashboards.Lib.Machine
import SecurityDashboards.LoginFlow

/-!
# Where logins lead

One browser on the pages and routes of the login, in any order and with any queries. A step gives
the locations that the browser is sent to because of a `nextUrl` in a query.
-/

namespace SecurityDashboards

open Whatwg

/-- A base path that stands in a URL as it is. -/
def UrlPath (basePath : String) : Prop :=
  ∃ path : List (List Char), (∀ segment ∈ path, IsSegment segment) ∧
    basePath = String.ofList (pathText path)

/-- A location that derives from a `nextUrl`: the URL, and what a fragment page appends to it. -/
structure Departure where
  url : String
  appended : String := ""
deriving DecidableEq

/-- The types that log in through an IdP. -/
inductive IdpType where
  | openId
  | saml
deriving DecidableEq

namespace IdpType

def capturePath : IdpType → String
  | openId => OPENID_AUTH_LOGIN_WITH_FRAGMENT
  | saml => SAML_AUTH_LOGIN_WITH_FRAGMENT

def appendPath : IdpType → String
  | openId => "/auth/openid/redirectUrlFragment"
  | saml => "/auth/saml/redirectUrlFragment"

def capturePage : IdpType → Request → Proc World JsError RouteResponse
  | openId => OpenIdAuthRoutes.captureUrlFragment
  | saml => SamlAuthRoutes.captureUrlFragment

def appendPage : IdpType → Request → Proc World JsError RouteResponse
  | openId => OpenIdAuthRoutes.redirectUrlFragment
  | saml => SamlAuthRoutes.redirectUrlFragment

def captureSchema (setup : RouteSetup) : IdpType → QuerySchema
  | openId => OpenIdAuthRoutes.captureUrlFragmentSchema setup
  | saml => SamlAuthRoutes.captureUrlFragmentSchema setup

def appendSchema : IdpType → QuerySchema
  | openId => OpenIdAuthRoutes.redirectUrlFragmentSchema
  | saml => SamlAuthRoutes.redirectUrlFragmentSchema

end IdpType

/-- The browser between two steps: the session cookie and the hashes in the local storage. `started`
is the `nextUrl` of the request that started the latest OpenID login. -/
structure Navigation where
  session : Option SecuritySessionCookie := none
  stored : IdpType → Option String := fun _ => none
  started : Option String := none

inductive LoginStep where
  /-- A login with username and password on the login page. -/
  | passwordLogin (page : Location) (savedTenant : Option String)
  /-- The button of a type on the login page. -/
  | loginButton (idpType : IdpType) (page : Location)
  | anonymousLogin (request : Request)
  /-- The login route of the OpenID type, which is the callback as well. -/
  | openIdLogin (nonce : String) (request : Request)
  | samlLogin (isAuthenticated : Bool) (request : Request)
  | samlAcs (request : Request) (samlResponse : String)
  | captureUrlFragment (idpType : IdpType) (page : Location)
  /-- The page is shown only to a browser that is authenticated. -/
  | redirectUrlFragment (idpType : IdpType) (page : Location)
  /-- The session changes in any other way, which keeps a pending login or drops it. -/
  | other (session : Option SecuritySessionCookie) (keepsPending : Bool)

namespace Navigation

variable (nav : Navigation)

/-- A request with the session cookie of the browser. -/
def request (request : Request) : Request :=
  { request with cookies := { request.cookies with session := nav.session } }

/-- The browser after an answer. -/
def after (w : World) : Navigation :=
  { nav with
    session := match w.session with
      | some session => session.map SecuritySessionCookie.stored
      | none => nav.session }

/-- The browser on a page that a handler renders. -/
def on (handler : Request → Proc World JsError RouteResponse) (page : Location) : Navigation :=
  nav.after ((handler (nav.request { url := Url.ofLocation page })).exec {}).2

/-- The answer to a request whose query the schema lets through. -/
def ask (schema : QuerySchema) (handler : Request → Proc World JsError RouteResponse)
    (request : Request) : Option RouteResponse × Navigation :=
  if schema.accepts request.url then
    let (result, w) := (handler (nav.request request)).exec {}
    (result.toOption, nav.after w)
  else (none, nav)

/-- The session in a write that starts no login. -/
def withSession (session : Option SecuritySessionCookie) (keepsPending : Bool) : Navigation :=
  { nav with
    session := session.map fun cookie =>
      { cookie with
        oidc := if keepsPending then nav.session.bind (·.oidc) else none
        saml := if keepsPending then nav.session.bind (·.saml) else none } }

end Navigation

/-- The location of an answer, if it derives from `nextUrl`. -/
def departureOf (nextUrl : Option String) : Option RouteResponse → List Departure
  | some (.redirected location) => if truthyString nextUrl then [{ url := location }] else []
  | some (.backToLogin location) => if truthyString nextUrl then [{ url := location }] else []
  | _ => []

section Steps

variable (setup : RouteSetup)

def passwordLogin (page : Location) (savedTenant : Option String) (nav : Navigation) :
    List Departure × Navigation :=
  if (BasicAuthRoutes.loginPageSchema setup).accepts (Url.ofLocation page) then
    (if (usableNextUrl page).isSome then
        [{ url := getNextPath setup.server.serverBasePath page savedTenant }]
      else [],
      nav.on BasicAuthRoutes.loginPage page)
  else ([], nav)

def loginButton (idpType : IdpType) (page : Location) (nav : Navigation) :
    List Departure × Navigation :=
  if (BasicAuthRoutes.loginPageSchema setup).accepts (Url.ofLocation page) then
    (if (usableNextUrl page).isSome then
        [{ url := setup.server.serverBasePath ++ idpType.capturePath ++
            extractNextUrlFromWindowLocation page }]
      else [],
      nav.on BasicAuthRoutes.loginPage page)
  else ([], nav)

/-- The location derives from the `nextUrl` of the request itself. -/
def anonymousLogin (request : Request) (nav : Navigation) : List Departure × Navigation :=
  let (response, nav) := nav.ask uncheckedQuery (BasicAuthRoutes.anonymousLogin setup) request
  (departureOf (request.url.param "nextUrl") response, nav)

/-- The location after the callback derives from the `nextUrl` of the request that started the
login. Its failure leads to the login route without one. -/
def openIdLogin (nonce : String) (request : Request) (nav : Navigation) :
    List Departure × Navigation :=
  let (response, after) :=
    nav.ask (OpenIdAuthRoutes.loginSchema setup) (OpenIdAuthRoutes.login setup nonce) request
  if truthyString (request.url.queryString "code") then
    (match response with
      | some (.redirected _) => departureOf nav.started response
      | _ => [], after)
  else ([], match response with
    | some _ => { after with started := request.url.queryString "nextUrl" }
    | none => after)

def samlLogin (isAuthenticated : Bool) (request : Request) (nav : Navigation) :
    List Departure × Navigation :=
  ([], (nav.ask (SamlAuthRoutes.loginSchema setup) (SamlAuthRoutes.login setup isAuthenticated)
    request).2)

/-- The location derives from the `nextUrl` in the cookie. -/
def samlAcs (request : Request) (samlResponse : String) (nav : Navigation) :
    List Departure × Navigation :=
  let (response, after) := nav.ask uncheckedQuery
    (fun request => SamlAuthRoutes.acs setup request samlResponse) request
  (departureOf ((nav.session.bind (·.saml)).bind (·.nextUrl)) response, after)

/-- The page is one of the type's route, and its query is let through. -/
def Shows (path : String) (schema : QuerySchema) (page : Location) : Prop :=
  page.pathname = setup.server.serverBasePath ++ path ∧ schema.accepts (Url.ofLocation page) = true

instance (path : String) (schema : QuerySchema) (page : Location) :
    Decidable (Shows setup path schema page) :=
  inferInstanceAs (Decidable (_ ∧ _))

def captureUrlFragment (idpType : IdpType) (page : Location) (nav : Navigation) :
    List Departure × Navigation :=
  if Shows setup idpType.capturePath (idpType.captureSchema setup) page then
    let (stored, url) := captureUrlFragmentScript page (nav.stored idpType)
    (if truthyString (nextUrlOf page) then
        ((page.locate url).map fun location => { url := String.ofList location.text }).toList
      else [],
      { nav.on idpType.capturePage page with
        stored := Function.update nav.stored idpType stored })
  else ([], nav)

def redirectUrlFragment (idpType : IdpType) (page : Location) (nav : Navigation) :
    List Departure × Navigation :=
  if Shows setup idpType.appendPath idpType.appendSchema page then
    (match nextUrlOf page with
      | some nextUrl => [{ url := nextUrl, appended := orNull (nav.stored idpType) }]
      | none => [],
      { nav.on idpType.appendPage page with
        stored := Function.update nav.stored idpType none })
  else ([], nav)

def loginStep : LoginStep → Navigation → List Departure × Navigation
  | .passwordLogin page savedTenant => passwordLogin setup page savedTenant
  | .loginButton idpType page => loginButton setup idpType page
  | .anonymousLogin request => anonymousLogin setup request
  | .openIdLogin nonce request => openIdLogin setup nonce request
  | .samlLogin isAuthenticated request => samlLogin setup isAuthenticated request
  | .samlAcs request samlResponse => samlAcs setup request samlResponse
  | .captureUrlFragment idpType page => captureUrlFragment setup idpType page
  | .redirectUrlFragment idpType page => redirectUrlFragment setup idpType page
  | .other session keepsPending => fun nav => ([], nav.withSession session keepsPending)

/-- The validator lets the URL through. -/
def IsValidNextUrl (nextUrl : Option String) : Prop :=
  validateNextUrl nextUrl (some setup.server.serverBasePath) = none

/-- The validator lets each of the URLs through. -/
def AllValid (departures : List Departure) : Prop :=
  ∀ departure ∈ departures, IsValidNextUrl setup (some departure.url)

/-- The two routes that do not validate their `nextUrl` get a valid one: the anonymous login when it
authenticates the browser, and the pages that append the hash. -/
def GetsValidNextUrl : LoginStep → Navigation → Prop
  | .anonymousLogin request, nav =>
    setup.server.config.auth.anonymous_auth_enabled = true →
      ((authenticateWithHeaders setup (nav.request request) .empty).exec {}).1.isOk = true →
      IsValidNextUrl setup (request.url.param "nextUrl")
  | .redirectUrlFragment idpType page, _ =>
    Shows setup idpType.appendPath idpType.appendSchema page →
      IsValidNextUrl setup (nextUrlOf page)
  | _, _ => True

end Steps

end SecurityDashboards
