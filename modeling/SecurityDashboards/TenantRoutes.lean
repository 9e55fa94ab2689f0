import SecurityDashboards.AuthenticationType

/-!
# Routes of the tenant

The routes of `multitenancy/routes.ts` that read and change the tenant of the session. Both require
authentication.
-/

namespace SecurityDashboards

/-- The answer of the routes. The body of `ok` is what `entities.encode` makes of the tenant. -/
inductive TenantResponse where
  | ok (tenant : Option String)
  | badRequest (body : String)
deriving DecidableEq

namespace TenantRoutes

open World

/-- `POST multitenancy/tenant`; `cookie` is what the session storage reads. -/
def postTenant (tenant : String) (cookie : Option SecuritySessionCookie) :
    Proc World JsError TenantResponse :=
  match cookie with
  | none => pure (.badRequest "Invalid cookie")
  | some cookie => do
    setSession { cookie with tenant := some tenant }
    pure (.ok (some tenant))

/-- `GET multitenancy/tenant` -/
def getTenant (cookie : Option SecuritySessionCookie) : TenantResponse :=
  match cookie with
  | none => .badRequest "Invalid cookie."
  | some cookie => .ok cookie.tenant

end TenantRoutes

end SecurityDashboards
