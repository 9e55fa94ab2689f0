import SecurityDashboards.AuthRoutes.OpenId
import SecurityDashboards.AuthRoutes.Saml
import SecurityDashboards.AuthTypes.OpenId
import SecurityDashboards.LoginPages

/-!
# The way through a login

What a tab of the browser goes through from a visit without a session, by way of the IdP, to the
page it ends on.
-/

namespace SecurityDashboards

open Whatwg

/-- A tab: its page, the cookies, and the hash in the local storage. -/
structure Tab where
  page : Location
  cookies : Browser := {}
  stored : Option String := none

/-- A route of the server. -/
structure Route where
  path : String
  query : QuerySchema
  handler : Request → Proc World JsError RouteResponse

section Steps

variable (server : Server) (template : Location → Request)

/-- The request of a tab for its page; the rest of the request may depend on the page. -/
def Tab.request (tab : Tab) : Request :=
  { template tab.page with url := Url.ofLocation tab.page, cookies := tab.cookies }

/-- The tab keeps the cookies of an answer. -/
def Tab.answered (tab : Tab) (w : World) : Tab := { tab with cookies := tab.cookies.after w }

/-- The answer of the route to the request of the tab; nothing if the page is of another route, the
query is rejected, or the handler throws. -/
def Route.serve (route : Route) (tab : Tab) : Option (RouteResponse × Tab) :=
  if tab.page.pathname = server.serverBasePath ++ route.path ∧
      route.query.accepts (Url.ofLocation tab.page) then
    match (route.handler (tab.request template)).exec {} with
    | (.ok response, w) => some (response, tab.answered w)
    | (.error _, _) => none
  else none

/-- The tab follows a redirect. -/
def Tab.follow (tab : Tab) (url : String) : Option Tab :=
  (tab.page.redirect url).map fun page => { tab with page }

/-- The tab runs the script of its page. -/
def Tab.run (tab : Tab) (script : Location → Option String → Option String × String) : Option Tab :=
  (tab.page.locate (script tab.page tab.stored).2).map fun page =>
    { tab with page, stored := (script tab.page tab.stored).1 }

/-- The tab comes back from the IdP. -/
def Tab.returnTo (tab : Tab) (page : Location) : Tab := { tab with page }

/-- A redirect is followed, other answers are not. -/
def followResponse : RouteResponse × Tab → Option Tab
  | (.redirected url, tab) => tab.follow url
  | _ => none

/-- The routes of a type that logs in through an IdP: the page that captures the fragment, the login
route, the route that the IdP comes back to, and the page that appends the fragment. -/
structure IdpRoutes where
  capture : Route
  login : Route
  callback : Route
  append : Route

/-- A tab on the page that appends the fragment runs its script. -/
def appendFragment (routes : IdpRoutes) (tab : Tab) : Option Tab :=
  if tab.page.pathname = server.serverBasePath ++ routes.append.path then do
    let (_, tab) ← routes.append.serve server template tab
    tab.run redirectUrlFragmentScript
  else some tab

/-- The whole way of a tab whose visit was refused. `back` is where the IdP sends the browser. -/
def loginFlow (routes : IdpRoutes) (refusal : Refusal) (back : Location) (tab : Tab) :
    Option Tab :=
  match refusal with
  | .redirected url _ => do
    let tab ← tab.follow url
    let (_, tab) ← routes.capture.serve server template tab
    let tab ← tab.run captureUrlFragmentScript
    let (_, tab) ← routes.login.serve server template tab
    let answer ← routes.callback.serve server template (tab.returnTo back)
    let tab ← followResponse answer
    appendFragment server template routes tab
  | _ => none

end Steps

/-- The page of a tab and the URL of its request: the server sees the path without the base path,
which does not start with an empty segment. -/
def Visits (basePath : String) (page : Location) (url : Url) : Prop :=
  ∃ (base : List (List Char)) (served : Location), basePath = String.ofList (pathText base) ∧
    base.head? ≠ some [] ∧ page.path = base ++ served.path ∧ page.query = served.query ∧
    url = Url.ofLocation served

/-! ## OpenID and SAML -/

def OpenIdAuthRoutes.idpRoutes (setup : RouteSetup) (nonce : String) : IdpRoutes where
  capture := ⟨"/auth/openid/captureUrlFragment", captureUrlFragmentSchema setup,
    captureUrlFragment⟩
  login := ⟨OPENID_AUTH_LOGIN, loginSchema setup, OpenIdAuthRoutes.login setup nonce⟩
  callback := ⟨OPENID_AUTH_LOGIN, loginSchema setup, OpenIdAuthRoutes.login setup nonce⟩
  append := ⟨"/auth/openid/redirectUrlFragment", redirectUrlFragmentSchema, redirectUrlFragment⟩

/-- The query of a route that declares none is not checked. -/
def uncheckedQuery : QuerySchema := { fields := [], unknowns := true }

def SamlAuthRoutes.idpRoutes (setup : RouteSetup) (samlResponse : String) : IdpRoutes where
  capture := ⟨"/auth/saml/captureUrlFragment", captureUrlFragmentSchema setup,
    captureUrlFragment⟩
  login := ⟨"/auth/saml/login", loginSchema setup, SamlAuthRoutes.login setup false⟩
  callback := ⟨"/_opendistro/_security/saml/acs", uncheckedQuery,
    fun request => acs setup request samlResponse⟩
  append := ⟨"/auth/saml/redirectUrlFragment", redirectUrlFragmentSchema, redirectUrlFragment⟩

/-- The way of a tab through the OpenID flow, from the request of its first page. -/
def openIdFlow (setup : RouteSetup) (template : Location → Request) (nonce : String)
    (back : Location) (request : Request) (tab : Tab) : Option Tab :=
  loginFlow setup.server template (OpenIdAuthRoutes.idpRoutes setup nonce)
    (OpenIdAuthentication.handleUnauthedRequest setup.server request) back tab

/-- The way of a tab through the SAML flow, from the request of its first page. -/
def samlFlow (setup : RouteSetup) (template : Location → Request) (samlResponse : String)
    (back : Location) (request : Request) (tab : Tab) : Option Tab :=
  loginFlow setup.server template (SamlAuthRoutes.idpRoutes setup samlResponse)
    (SamlAuthentication.handleUnauthedRequest setup.server request) back tab

/-- The way ends on the page, whatever the fragment. -/
def EndsOn (page : Location) (last : Option Tab) : Prop :=
  ∃ tab, last = some tab ∧ tab.page.pathname = page.pathname ∧ tab.page.search = page.search

/-! ## Logins that succeed -/

/-- The IdP sends the browser back with a code and the state of the login, and the tokens are
accepted. -/
structure OpenIdAuthRoutes.Completes (setup : RouteSetup) (template : Location → Request)
    (nonce : String) (back : Location) : Prop where
  path : back.pathname = setup.server.serverBasePath ++ OPENID_AUTH_LOGIN
  accepted : (loginSchema setup).accepts (Url.ofLocation back) = true
  code : truthyString ((Url.ofLocation back).queryString "code") = true
  state : (Url.ofLocation back).queryString "state" = some nonce
  nonce_ne : nonce ≠ ""
  readable : (template back).storageError = none
  succeeds : ∀ (tab : Tab) (oidc : OidcLogin), tab.page = back → ∃ response w,
    (completeLogin setup (tab.request template) oidc).exec {} = (.ok response, w)

/-- The backend knows the IdP, and accepts what the IdP posts. -/
structure SamlAuthRoutes.Completes (setup : RouteSetup) (template : Location → Request)
    (samlResponse : String) (back : Location) : Prop where
  path : back.pathname = setup.server.serverBasePath ++ "/_opendistro/_security/saml/acs"
  challenge : ∀ request, ∃ header, getSamlHeader (setup.samlChallenge request) = .ok header ∧
    header.requestId ≠ ""
  readable : (template back).storageError = none
  succeeds : ∀ (tab : Tab) (requestId : String), tab.page = back → ∃ w,
    (startSession setup (tab.request template)
      { RequestId := some requestId, SAMLResponse := samlResponse, acsEndpoint := none }).exec {} =
      (.ok (), w)

end SecurityDashboards
