import SecurityDashboards.AuthRoutes.Common

/-!
# Routes of the proxy type

`auth/types/proxy/routes.ts`
-/

namespace SecurityDashboards

namespace ProxyAuthRoutes

open World

def logout (_request : Request) : Proc World JsError RouteResponse := do
  clearSession
  pure (.ok none)

end ProxyAuthRoutes

end SecurityDashboards
