import SecurityDashboards.AuthRoutes.Common
import SecurityDashboards.Lib.WhatwgLocation

/-!
# What the login pages run in the browser

The scripts of the fragment pages in `openid/routes.ts` and `saml/routes.ts`, and the functions of
`public/apps/login/login-page.tsx` that choose where a login leads.
-/

namespace SecurityDashboards

open Whatwg

def OPENID_AUTH_LOGIN_WITH_FRAGMENT : String := "/auth/openid/captureUrlFragment"
def SAML_AUTH_LOGIN_WITH_FRAGMENT : String := "/auth/saml/captureUrlFragment"

/-- The URL of a request for a location. -/
def Url.ofLocation (location : Location) : Url where
  pathname := location.pathname
  search := location.search
  searchParams := UrlEncoding.formParse (location.search.toList.drop 1)

/-- The URL of a request to which a redirect with this query leads. The browser encodes the query
and keeps what follows a hash to itself. -/
def Url.ofQuery (query : String) : Url where
  pathname := ""
  searchParams :=
    UrlEncoding.formParse (UrlEncoding.percentEncode inQuerySet (cut '#' query.toList).1)

/-- A character that the value of a parameter may contain. -/
def IsValueChar (c : Char) : Prop := isControlOrSpace c = false ∧ c ≠ '#' ∧ c ≠ '&'

instance (c : Char) : Decidable (IsValueChar c) := inferInstanceAs (Decidable (_ ∧ _))

/-- An encoder of query values, such as `encodeUriQuery`: the form decoder undoes it. -/
structure EncodesUriQuery (encode : String → String) : Prop where
  decodes : ∀ s, UrlEncoding.formDecode (encode s).toList = s.toList
  isValueChar : ∀ s, ∀ c ∈ (encode s).toList, IsValueChar c

/-- `new URLSearchParams(window.location.search).get('nextUrl')` -/
def nextUrlOf (page : Location) : Option String := (Url.ofLocation page).param "nextUrl"

/-! ## The fragment pages -/

/-- `captureUrlFragment.js`: the hash it leaves in the local storage, and where it goes. -/
def captureUrlFragmentScript (page : Location) (stored : Option String) :
    Option String × String :=
  let redirectHash := page.hash != ""
  let finalUrl := "login?redirectHash=" ++
    Js.encodeURIComponent (if redirectHash then "true" else "false")
  (if redirectHash then some page.hash else stored,
    match (nextUrlOf page).filter (· != "") with
    | some nextUrl => finalUrl ++ "&nextUrl=" ++ Js.encodeURIComponent nextUrl
    | none => finalUrl)

/-- What JavaScript adds to a string for an item that may be `null`. -/
def orNull (item : Option String) : String := item.getD "null"

/-- `redirectUrlFragment.js`: the hash is gone from the local storage. -/
def redirectUrlFragmentScript (page : Location) (stored : Option String) :
    Option String × String :=
  (none, orNull (nextUrlOf page) ++ orNull stored)

/-! ## The login page -/

/-- The `nextUrl` of the login page, unless it is to be ignored. -/
def usableNextUrl (page : Location) : Option String :=
  (nextUrlOf page).filter fun nextUrl => nextUrl != "" && !Js.includes nextUrl "//"

def hasTenantParam (url : Url) : Bool :=
  (url.param "security_tenant").isSome || (url.param "securitytenant").isSome ||
    (url.param "securityTenant_").isSome

/-- `url.search` with the saved tenant. -/
def searchWithTenant (location : Location) (savedTenant : Option String) : String :=
  let url := Url.ofLocation location
  match savedTenant.filter (· != "") with
  | some savedTenant =>
    if hasTenantParam url then location.search
    else String.ofList ('?' ::
      UrlEncoding.formSerialize (url.searchParams ++ [("security_tenant", savedTenant)]))
  | none => location.search

/-- `getNextPath`: where a login with username and password leads. -/
def getNextPath (serverBasePath : String) (page : Location) (savedTenant : Option String) :
    String :=
  let nextUrl := (usableNextUrl page).getD (serverBasePath ++ "/")
  -- The host ends where a `nextUrl` begins that the route has let through.
  let url := Location.root.resolve (clean (nextUrl ++ page.hash).toList)
  url.pathname ++ searchWithTenant url savedTenant ++ url.hash

/-- `extractNextUrlFromWindowLocation` -/
def extractNextUrlFromWindowLocation (page : Location) : String :=
  match usableNextUrl page with
  | some nextUrl => "?nextUrl=" ++ Js.encodeURIComponent nextUrl ++ page.hash
  | none => ""

end SecurityDashboards
