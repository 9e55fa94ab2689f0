import SecurityDashboards.Sessions

/-!
# Refresh tokens

`isValidCookie` of the OpenID type, request after request. A token response may bring a new refresh
token or none; beside the cookie, a `RefreshSession` records the one that was issued last.
-/

namespace SecurityDashboards

/-- A request whose cookie is checked, and the services at that time. -/
structure CookieCheck where
  request : Request
  environment : Environment

structure RefreshSession where
  /-- The session cookie, until it is rejected. -/
  cookie : Option SecuritySessionCookie
  /-- The latest refresh token that the IdP has given out. -/
  issued : Option String

/-- The refresh token that a cookie holds. -/
def SecuritySessionCookie.refreshToken (cookie : SecuritySessionCookie) : Option String :=
  cookie.credentials.bind (·.refresh_token)

/-- The session that starts with a cookie. -/
def RefreshSession.start (cookie : SecuritySessionCookie) : RefreshSession where
  cookie := some cookie
  issued := cookie.refreshToken

/-- An accepted refresh. -/
structure Refreshed where
  cookie : SecuritySessionCookie
  issued : Option String

/-- The refresh token issued last, after this response. -/
def issuedAfter (issued : Option String) (tokenResponse : TokenResponse) : Option String :=
  tokenResponse.refreshToken.or issued

/-- One check. Its output is the refresh, if there was one and the cookie was accepted. -/
def refreshStep (server : Server) (check : CookieCheck) (s : RefreshSession) :
    Option Refreshed × RefreshSession :=
  match s.cookie with
  | none => (none, s)
  | some cookie =>
    match ((OpenIdAuthentication server check.environment).isValidCookie cookie
      check.request).exec {} with
    | (.ok (true, cookie'), queue) =>
      match queue.tokenCalls with
      | .ok tokenResponse :: _ =>
        let issued := issuedAfter s.issued tokenResponse
        (some { cookie := cookie', issued }, { cookie := some cookie'.stored, issued })
      | _ => (none, { s with cookie := some cookie'.stored })
    | _ => (none, { s with cookie := none })

/-- The cookie holds the refresh token that was issued last. -/
def Refreshed.HoldsIssued (refreshed : Refreshed) : Prop :=
  refreshed.cookie.refreshToken = refreshed.issued

/-- A refresh that is accepted brings a new refresh token. -/
def BringsRefreshToken (server : Server) (check : CookieCheck) (s : RefreshSession) : Prop :=
  ∀ cookie tokenResponse idToken, s.cookie = some cookie →
    OpenIdAuthentication.Renews server check.environment cookie check.request tokenResponse idToken →
    tokenResponse.refreshToken.isSome = true

end SecurityDashboards
