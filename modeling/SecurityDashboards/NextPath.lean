import SecurityDashboards.Lib.DotSegments
import SecurityDashboards.Lib.WhatwgAbsolute
import SecurityDashboards.LoginPages

/-!
# Where the login page leads

`getNextPath` of `public/apps/login/login-page.tsx` for any `nextUrl`, also one that does not start
with a path.
-/

namespace SecurityDashboards

open Whatwg

/-- `window.location` on an `http` or `https` page. -/
structure Window where
  origin : Origin
  /-- `window.location.host` -/
  host : List Char
  location : Location
  isHttp : origin.scheme = "http" ∨ origin.scheme = "https"
  isHost : IsHost host

namespace Window

variable (authority : String → List Char → Option Origin) (window : Window)
  (serverBasePath : String)

/-- `window.location.protocol + '//' + window.location.host` -/
def site : List Char := window.origin.scheme.toList ++ "://".toList ++ window.host

/-- The `nextUrl` with the hash of the page; the base path stands in for one that is not used. -/
def nextUrl : String :=
  (usableNextUrl window.location).getD (serverBasePath ++ "/") ++ window.location.hash

/-- `getNextPath`; none if the constructor throws. -/
def getNextPath (savedTenant : Option String) : Option String := do
  let (_, url) ← newURL authority
    (String.ofList (window.site ++ (window.nextUrl serverBasePath).toList))
  some (url.pathname ++ searchWithTenant url savedTenant ++ url.hash)

end Window

/-- The text starts with a single slash, and the browser resolves it on the page's origin. -/
structure StaysOnSite (authority : String → List Char → Option Origin) (origin : Origin)
    (next : String) : Prop where
  singleSlash : ∃ rest, next.toList = '/' :: rest ∧ rest.head? ≠ some '/'
  origin : originOf authority origin next.toList = some origin

end SecurityDashboards
