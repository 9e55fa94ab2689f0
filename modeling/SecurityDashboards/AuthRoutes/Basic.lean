import SecurityDashboards.AuthRoutes.Common

/-!
# Routes of the basic type

`auth/types/basic/routes.ts`
-/

namespace SecurityDashboards

namespace BasicAuthRoutes

open World

variable (setup : RouteSetup)

/-- The query of the login page. -/
def loginPageSchema : QuerySchema where
  fields := [("nextUrl", nextUrlSchema setup.server)]

def loginPage (_request : Request) : Proc World JsError RouteResponse := do
  clearSession
  pure (.rendered .loginApp)

/-- The login with username and password. -/
def login (request : Request) (username password : String) : Proc World JsError RouteResponse := do
  if setup.server.config.auth.forbidden_usernames.contains username then
    pure (.badRequest (some "Invalid username or password"))
  else
    match ← Proc.attempt (authenticate setup request username password) with
    | .error error => pure (.unauthorized (some error.message))
    | .ok user =>
      clearSession
      let encodedCredentials := Buffer.base64 (username ++ ":" ++ password)
      let sessionStorage ← Proc.ofExcept (withTenantOfUser setup request user
        { username := user.username
          credentials := some { authHeaderValue := .str ("Basic " ++ encodedCredentials) }
          authType := some BASIC
          isAnonymousAuth := false
          expiryTime := some (request.now + setup.server.config.session.ttl) })
      setSession sessionStorage
      pure (.ok (some
        { username := user.username
          tenants := user.tenants
          roles := user.roles
          backendroles := user.backendRoles
          selectedTenants := if setup.server.config.multitenancy.enabled then sessionStorage.tenant
            else none }))

def logout (_request : Request) : Proc World JsError RouteResponse := do
  clearSession
  pure (.ok none)

/-- The login page with the location to go to afterwards. -/
def anonymousFailureLocation (nextUrl : Option String) : String :=
  setup.server.serverBasePath ++ LOGIN_PAGE_URI ++
    match nextUrl.filter (· != "") with
    | some redirectUrl => "?nextUrl=" ++ setup.server.platform.encodeUriQuery redirectUrl
    | none => ""

/-- Where an anonymous login leads; `nextUrl` is not validated. -/
def anonymousRedirectUrl (nextUrl : Option String) : String :=
  match nextUrl.filter (· != "") with
  | some nextUrl => nextUrl
  | none => if setup.server.serverBasePath = "" then "/" else setup.server.serverBasePath

def anonymousLogin (request : Request) : Proc World JsError RouteResponse := do
  if setup.server.config.auth.anonymous_auth_enabled then
    let nextUrl := request.url.param "nextUrl"
    match ← Proc.attempt (authenticateWithHeaders setup request .empty) with
    | .error _ => pure (.backToLogin (anonymousFailureLocation setup nextUrl))
    | .ok user =>
      clearSession
      let sessionStorage ← Proc.ofExcept (withTenantOfUser setup request user
        { username := user.username
          authType := some BASIC
          isAnonymousAuth := true
          expiryTime := some (request.now + setup.server.config.session.ttl) })
      setSession sessionStorage
      pure (.redirected (anonymousRedirectUrl setup nextUrl))
  else pure (.backToLogin (setup.server.serverBasePath ++ LOGIN_PAGE_URI))

end BasicAuthRoutes

end SecurityDashboards
