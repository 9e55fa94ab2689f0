import SecurityDashboards.Logout
import SecurityDashboards.Proofs.CookieSplitterProofs
import SecurityDashboards.Proofs.SessionsProofs

/-!
# Proofs: what a logout leaves

The logout clears the split cookies that came with the request. Those that were queued earlier in the
same request reach the browser.
-/

namespace SecurityDashboards

/-! ## Clearing -/

/-- The latest entry of a split cookie after the first `n` were looked at. -/
theorem lookup_clearSplitCookies (request : Request) (states : States) (cookiePrefix : String)
    (n i : ℕ) :
    (clearSplitCookies request states ⟨cookiePrefix, n⟩).lookup (splitCookieName cookiePrefix i) =
      if i < n ∧ (request.cookies.split (splitCookieName cookiePrefix i)).any (!·.isEmpty) = true
      then some none else states.lookup (splitCookieName cookiePrefix i) := by
  unfold clearSplitCookies
  dsimp only
  induction n with
  | zero => simp
  | succ n ih =>
    rw [List.range_succ, List.foldl_append, List.foldl_cons, List.foldl_nil]
    by_cases hin : i = n
    · subst hin
      rw [if_neg (fun h => absurd h.1 (lt_irrefl i))] at ih
      by_cases hsent :
          (request.cookies.split (splitCookieName cookiePrefix i)).any (!·.isEmpty) = true
      · rw [if_pos hsent, if_pos ⟨Nat.lt_succ_self i, hsent⟩]
        exact List.lookup_cons_self
      · rw [if_neg hsent, if_neg fun h => hsent h.2]
        exact ih
    · have hname : (splitCookieName cookiePrefix i == splitCookieName cookiePrefix n) = false := by
        simpa using fun h => hin (splitCookieName_inj h)
      have hlt : i < n + 1 ↔ i < n := by omega
      simp only [hlt]
      rw [← ih]
      split
      · rw [List.lookup_cons, hname]
      · rfl

/-- After the response a split cookie is gone exactly when the logout reached it. -/
theorem split_cleared_iff {request : Request} {states : States}
    {options : ExtraAuthStorageOptions} {i : ℕ} (hi : i < options.additionalCookies) :
    (request.cookies.applyStates (clearSplitCookies request states options)).split
        (splitCookieName options.cookiePrefix i) = none ↔
      LogoutReaches request states (splitCookieName options.cookiePrefix i) := by
  have hlookup := lookup_clearSplitCookies request states options.cookiePrefix
    options.additionalCookies i
  unfold LogoutReaches Browser.applyStates
  dsimp only
  by_cases hsent :
      (request.cookies.split (splitCookieName options.cookiePrefix i)).any (!·.isEmpty) = true
  · rw [if_pos ⟨hi, hsent⟩] at hlookup
    rw [hlookup]
    exact ⟨fun _ => Or.inl hsent, fun _ => rfl⟩
  · rw [if_neg fun h => hsent h.2] at hlookup
    rw [hlookup]
    exact ⟨Or.inr, fun h => h.resolve_left hsent⟩

/-! ## The routes -/

section Routes

variable {setup : RouteSetup} {request : Request} {w w' : World} {response : RouteResponse}

/-- What a completed logout leaves of the world. -/
structure Cleared (request : Request) (options : ExtraAuthStorageOptions) (w w' : World) :
    Prop where
  session : w'.session = some none
  states : w'.queue.states = clearSplitCookies request w.queue.states options

theorem openId_cleared
    (h : (OpenIdAuthRoutes.logout setup request).exec w = (.ok response, w')) :
    Cleared request (OpenIdAuthRoutes.options setup) w w' := by
  obtain ⟨cookie, w₁, hcookie, h⟩ := Proc.exec_bind_ok h
  rw [Proc.exec_ofExcept, Prod.mk.injEq] at hcookie
  obtain ⟨-, rfl⟩ := hcookie
  rw [Proc.exec_bind_of_ok (Proc.exec_get _)] at h
  obtain ⟨token, w₂, htoken, h⟩ := Proc.exec_bind_ok h
  rw [Proc.exec_ofExcept, Prod.mk.injEq] at htoken
  obtain ⟨-, rfl⟩ := htoken
  obtain ⟨u, w₃, hclear, h⟩ := Proc.exec_bind_ok h
  cases hclear
  rw [Proc.exec_bind_of_ok (World.exec_clearSession _)] at h
  obtain ⟨hint, w₄, hhint, h⟩ := Proc.exec_bind_ok h
  rw [Proc.exec_ofExcept, Prod.mk.injEq] at hhint
  obtain ⟨-, rfl⟩ := hhint
  obtain ⟨url, w₅, hurl, h⟩ := Proc.exec_bind_ok h
  rw [Proc.exec_ofExcept, Prod.mk.injEq] at hurl
  obtain ⟨-, rfl⟩ := hurl
  cases h
  exact ⟨rfl, rfl⟩

theorem saml_cleared {location : String}
    (h : (SamlAuthRoutes.logout setup request).exec w = (.ok (.redirected location), w')) :
    Cleared request (SamlAuthRoutes.options setup) w w' := by
  unfold SamlAuthRoutes.logout at h
  rw [Proc.exec_bind, Proc.exec_attempt, exec_authinfo] at h
  cases hanswer : setup.environment.authinfo w.calls request .empty with
  | error message =>
    rw [hanswer] at h
    cases h
  | ok authInfo =>
    rw [hanswer] at h
    cases h
    exact ⟨rfl, rfl⟩

theorem jwt_cleared (h : (JwtAuthRoutes.logout setup request).exec w = (.ok response, w')) :
    Cleared request (JwtAuthRoutes.options setup) w w' := by
  cases h
  exact ⟨rfl, rfl⟩

theorem cleared_of_completes (route : LogoutRoute)
    (h : (route.handler setup request).exec w = (.ok response, w'))
    (hdone : route.Completes response) : Cleared request (route.options setup) w w' := by
  cases route with
  | openId => exact openId_cleared h
  | saml =>
    obtain ⟨location, rfl⟩ := hdone
    exact saml_cleared h
  | jwt => exact jwt_cleared h

end Routes

/-- After a logout the browser holds neither the session cookie nor a split cookie of the type,
exactly when the logout reaches each split cookie. `w` is whatever the calls earlier in the same
request left. -/
theorem logout_loggedOut_iff (setup : RouteSetup) (route : LogoutRoute) (request : Request)
    (w w' : World) (response : RouteResponse)
    (h : (route.handler setup request).exec w = (.ok response, w'))
    (hdone : route.Completes response) :
    (request.cookies.after w').LoggedOut (route.options setup) ↔
      ∀ i < (route.options setup).additionalCookies,
        LogoutReaches request w.queue.states
          (splitCookieName (route.options setup).cookiePrefix i) := by
  obtain ⟨hsession, hstates⟩ := cleared_of_completes route h hdone
  have hsplit : ∀ i, (request.cookies.after w').split
      (splitCookieName (route.options setup).cookiePrefix i) =
        (request.cookies.applyStates (clearSplitCookies request w.queue.states
          (route.options setup))).split (splitCookieName (route.options setup).cookiePrefix i) := by
    intro i
    rw [← hstates]
    rfl
  constructor
  · rintro ⟨-, hcookies⟩ i hi
    rw [← split_cleared_iff hi, ← hsplit]
    exact hcookies i hi
  · intro hreaches
    refine ⟨?_, fun i hi => ?_⟩
    · unfold Browser.after
      rw [hsession]
      rfl
    · rw [hsplit, split_cleared_iff hi]
      exact hreaches i hi

namespace Sample

/-- alice logs out with the request that brought her token. -/
def logoutRequest : Request := tokenRequest "authorization"

/-- What `authHandler` queued for the token before the route is reached. -/
def loggedIn : World where
  queue :=
    { states := splitValueIntoCookies [] "security_authentication_oidc" tokenText 5 }

/-- A logout from a browser that holds the token. -/
def jwtLogout : Request where
  url := { pathname := "/api/v1/auth/logout" }
  cookies := Browser.applyStates {} [("security_authentication_jwt1", some tokenText)]

theorem jwt_logged_out :
    (jwtLogout.cookies.after ((JwtAuthRoutes.logout (setup bearerServer) jwtLogout).exec
      {}).2).LoggedOut (JwtAuthRoutes.options (setup bearerServer)) := by
  refine (logout_loggedOut_iff (setup bearerServer) .jwt jwtLogout {} _ (.ok none) rfl rfl).mpr ?_
  unfold LogoutReaches
  decide

/-- The token stays in the browser. -/
theorem openId_not_logged_out :
    setExtraAuthStorage runtime [] (.str ("Bearer " ++ token))
        (OpenIdAuthRoutes.options (setup (server {}))) = .ok loggedIn.queue.states ∧
      ∃ w', (OpenIdAuthRoutes.logout (setup (server {})) logoutRequest).exec loggedIn =
          (.ok (.redirected "undefined"), w') ∧
        ¬ (logoutRequest.cookies.after w').LoggedOut
          (OpenIdAuthRoutes.options (setup (server {}))) := by
  refine ⟨by decide +kernel, _, rfl, ?_⟩
  rintro ⟨-, h⟩
  have hfirst := h 0 (by decide)
  revert hfirst
  decide

end Sample

end SecurityDashboards
