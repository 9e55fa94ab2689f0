import SecurityDashboards.AuthRoutes.Common

/-!
# Routes of the JWT type

`auth/types/jwt/routes.ts`
-/

namespace SecurityDashboards

namespace JwtAuthRoutes

open World

variable (setup : RouteSetup)

def options : ExtraAuthStorageOptions :=
  JwtAuthentication.getExtraAuthStorageOptions setup.server

def logout (request : Request) : Proc World JsError RouteResponse := do
  onQueue (Proc.update fun queue =>
    { queue with states := clearSplitCookies request queue.states (options setup) })
  clearSession
  pure (.ok none)

end JwtAuthRoutes

end SecurityDashboards
