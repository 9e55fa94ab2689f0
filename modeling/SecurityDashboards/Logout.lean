import SecurityDashboards.AuthRoutes.Jwt
import SecurityDashboards.AuthRoutes.OpenId
import SecurityDashboards.AuthRoutes.Saml

/-!
# Logging out

The three routes that end a session with split cookies, and what the browser should hold afterwards.
-/

namespace SecurityDashboards

inductive LogoutRoute where
  | openId
  | saml
  | jwt

namespace LogoutRoute

variable (setup : RouteSetup)

def handler (request : Request) : LogoutRoute → Proc World JsError RouteResponse
  | openId => OpenIdAuthRoutes.logout setup request
  | saml => SamlAuthRoutes.logout setup request
  | jwt => JwtAuthRoutes.logout setup request

/-- The split cookies of the type. -/
def options : LogoutRoute → ExtraAuthStorageOptions
  | openId => OpenIdAuthRoutes.options setup
  | saml => SamlAuthRoutes.options setup
  | jwt => JwtAuthRoutes.options setup

/-- The answer to a logout that is not refused. -/
def Completes : LogoutRoute → RouteResponse → Prop
  | openId, response => ∃ location, response = .redirected location
  | saml, response => ∃ location, response = .redirected location
  | jwt, response => response = .ok none

end LogoutRoute

/-- The browser holds neither the session cookie nor a split cookie. -/
def Browser.LoggedOut (browser : Browser) (options : ExtraAuthStorageOptions) : Prop :=
  browser.session = none ∧
    ∀ i < options.additionalCookies,
      browser.split (splitCookieName options.cookiePrefix i) = none

/-- The cookie came with the request, or the browser would not hold it without the logout either,
for what was queued before. -/
def LogoutReaches (request : Request) (states : States) (cookieName : String) : Prop :=
  (request.cookies.split cookieName).any (!·.isEmpty) = true ∨
    (request.cookies.applyStates states).split cookieName = none

end SecurityDashboards
