import SecurityDashboards.Proofs.AttemptsProofs
import SecurityDashboards.RefreshTokens

/-!
# Proofs: refresh tokens

A step of the session either refreshes nothing, or it puts the refresh token of the response into the
cookie, also if there is none.
-/

namespace SecurityDashboards

section Step

open OpenIdAuthentication

variable {server : Server} {check : CookieCheck} {s : RefreshSession}
  {cookie : SecuritySessionCookie} {r : TokenResponse} {idToken : String}

theorem refreshToken_stored (cookie : SecuritySessionCookie) :
    cookie.stored.refreshToken = cookie.refreshToken := by
  unfold SecuritySessionCookie.refreshToken SecuritySessionCookie.stored
  cases cookie.credentials with
  | none => rfl
  | some credentials => rfl

/-- What a check does to the session. -/
inductive RefreshEffect (server : Server) (check : CookieCheck) (s : RefreshSession) :
    Option Refreshed × RefreshSession → Prop where
  | ended : RefreshEffect server check s (none, { s with cookie := none })
  | kept (cookie : SecuritySessionCookie) (hcookie : s.cookie = some cookie) :
      RefreshEffect server check s (none, { s with cookie := some cookie.stored })
  | refreshed (cookie cookie' : SecuritySessionCookie) (r : TokenResponse) (idToken : String)
      (hcookie : s.cookie = some cookie)
      (hrenews : Renews server check.environment cookie check.request r idToken)
      (hholds : cookie'.refreshToken = r.refreshToken) :
      RefreshEffect server check s
        (some { cookie := cookie', issued := issuedAfter s.issued r },
          { cookie := some cookie'.stored, issued := issuedAfter s.issued r })

theorem refreshStep_effect (server : Server) (check : CookieCheck) (s : RefreshSession) :
    RefreshEffect server check s (refreshStep server check s) := by
  unfold refreshStep
  cases hcookie : s.cookie with
  | none =>
    have hs : s = { s with cookie := none } := by rw [← hcookie]
    rw [hs]
    exact .ended
  | some cookie =>
    dsimp only
    generalize hcheck : ((OpenIdAuthentication server check.environment).isValidCookie cookie
      check.request).exec {} = o
    obtain ⟨result, queue⟩ := o
    rcases openId_isValidCookie_cases hcheck with ⟨-, hnot⟩ | ⟨rfl, rfl, -⟩ |
      ⟨r, idToken, credentials, hrenews, hread, rfl, hcalls, -⟩
    · cases result with
      | error e => exact .ended
      | ok a =>
        obtain ⟨isValid, cookie'⟩ := a
        cases isValid with
        | true => exact absurd rfl (hnot cookie')
        | false => exact .ended
    · exact .kept cookie hcookie
    · dsimp only
      rw [hcalls]
      obtain ⟨expiryTime, -, rfl⟩ := credentialsOf_ok hread
      exact .refreshed cookie _ r idToken hcookie hrenews rfl

/-- A refresh is one of the effect. -/
theorem refreshStep_of_renews (hcookie : s.cookie = some cookie)
    (h : Renews server check.environment cookie check.request r idToken) :
    ∃ cookie', cookie'.refreshToken = r.refreshToken ∧
      (refreshStep server check s).1 =
        some { cookie := cookie', issued := issuedAfter s.issued r } := by
  obtain ⟨accepted, queue, hvalid⟩ := isValidCookie_of_renews h
  rcases openId_isValidCookie_cases hvalid with ⟨-, hnot⟩ | ⟨-, -, hfresh⟩ |
    ⟨r', idToken', credentials, hrenews, hread, hresult, hcalls, -⟩
  · exact absurd rfl (hnot accepted)
  · rw [h.expired] at hfresh
    cases hfresh
  · obtain ⟨rfl, -⟩ := renews_unique h hrenews
    obtain ⟨expiryTime, -, rfl⟩ := credentialsOf_ok hread
    injection hresult with hresult
    injection hresult with _ haccepted
    refine ⟨accepted, ?_, ?_⟩
    · rw [haccepted]
      rfl
    · unfold refreshStep
      rw [hcookie]
      dsimp only
      rw [hvalid]
      dsimp only
      rw [hcalls]

/-- The IdP has given out whatever refresh token the cookie holds. -/
def RefreshSession.Issued (s : RefreshSession) : Prop :=
  ∀ cookie, s.cookie = some cookie → cookie.refreshToken.isSome = true → s.issued.isSome = true

theorem issuedAfter_isSome {issued : Option String}
    (h : r.refreshToken.isSome = true ∨ issued.isSome = true) :
    (issuedAfter issued r).isSome = true := by
  unfold issuedAfter
  cases hr : r.refreshToken with
  | some refresh_token => rfl
  | none =>
    rw [hr] at h
    rcases h with h | h
    · cases h
    · exact h

theorem issued_step (hs : s.Issued) : (refreshStep server check s).2.Issued := by
  have heffect := refreshStep_effect server check s
  generalize refreshStep server check s = o at heffect ⊢
  cases heffect with
  | ended => exact fun cookie h => by cases h
  | kept cookie hcookie =>
    intro cookie' h hholds
    injection h with h
    rw [← h, refreshToken_stored] at hholds
    exact hs cookie hcookie hholds
  | refreshed cookie cookie' r idToken hcookie hrenews hheld =>
    intro cookie'' h hholds
    injection h with h
    rw [← h, refreshToken_stored, hheld] at hholds
    exact issuedAfter_isSome (Or.inl hholds)

/-- A token that is renewed belongs to a cookie with a refresh token. -/
theorem refreshToken_of_renews
    (h : Renews server check.environment cookie check.request r idToken) :
    cookie.refreshToken.isSome = true := by
  obtain ⟨refresh_token, hrefresh, -⟩ := h.answer
  obtain ⟨hsome, -⟩ := Option.filter_eq_some_iff.mp hrefresh
  rw [SecuritySessionCookie.refreshToken, hsome]
  rfl

/-- In an accepted refresh the cookie holds the refresh token issued last, exactly if the response
brings one. -/
theorem holdsIssued_step_iff (hs : s.Issued) :
    (∀ refreshed, (refreshStep server check s).1 = some refreshed → refreshed.HoldsIssued) ↔
      BringsRefreshToken server check s := by
  constructor
  · intro hholds cookie r idToken hcookie hrenews
    obtain ⟨cookie', hheld, hstep⟩ := refreshStep_of_renews hcookie hrenews
    have hissued : r.refreshToken = issuedAfter s.issued r := hheld ▸ hholds _ hstep
    rw [hissued]
    exact issuedAfter_isSome (Or.inr (hs cookie hcookie (refreshToken_of_renews hrenews)))
  · intro hbrings refreshed hstep
    have heffect := refreshStep_effect server check s
    generalize refreshStep server check s = o at heffect hstep
    cases heffect with
    | ended => cases hstep
    | kept cookie hcookie => cases hstep
    | refreshed cookie cookie' r idToken hcookie hrenews hheld =>
      cases hstep
      obtain ⟨refresh_token, hr⟩ :=
        Option.isSome_iff_exists.mp (hbrings cookie r idToken hcookie hrenews)
      rw [Refreshed.HoldsIssued, hheld, issuedAfter, hr]
      rfl

end Step

/-- In a run of checks the cookie holds the refresh token issued last after every accepted refresh,
exactly if every response of such a refresh brings one. -/
theorem refreshTokens_kept_iff (server : Server) (cookie : SecuritySessionCookie)
    (checks : List CookieCheck) :
    (∀ output ∈ Machine.trace (refreshStep server) checks (.start cookie),
        ∀ refreshed, output.2 = some refreshed → refreshed.HoldsIssued) ↔
      Machine.Meets (refreshStep server) (BringsRefreshToken server) checks (.start cookie) := by
  refine Machine.trace_iff_meets (P := fun _ output => ∀ refreshed, output = some refreshed →
    refreshed.HoldsIssued) RefreshSession.Issued (fun _ _ hs => issued_step hs)
    (fun _ _ hs => holdsIssued_step_iff hs) checks ?_
  intro cookie' h hholds
  injection h with h
  rw [← h] at hholds
  exact hholds

namespace Sample

/-- A refresh at second 3. The response has a new token, but no new refresh token. -/
def silentCheck : CookieCheck where
  request := { url := { pathname := "/api/status" }, cookies := openIdBrowser, now := 3000 }
  environment :=
    { aliceBackend with
      tokenEndpoint := fun _ =>
        .ok { statusCode := some 200, payload := .ok { idToken := some laterToken } } }

/-- The refresh token is lost, although the IdP has not replaced it. -/
theorem refreshToken_lost :
    ((refreshStep (server {}) silentCheck (.start staleCookie)).1.map fun refreshed =>
        (refreshed.cookie.refreshToken, refreshed.issued)) = some (none, some "first") ∧
      ¬ ∀ output ∈ Machine.trace (refreshStep (server {})) [silentCheck] (.start staleCookie),
        ∀ refreshed, output.2 = some refreshed → refreshed.HoldsIssued := by
  have hlost : ((refreshStep (server {}) silentCheck (.start staleCookie)).1.map fun refreshed =>
      (refreshed.cookie.refreshToken, refreshed.issued)) = some (none, some "first") := by decide
  refine ⟨hlost, fun hholds => ?_⟩
  have hholds := hholds (silentCheck, (refreshStep (server {}) silentCheck (.start staleCookie)).1)
    List.mem_cons_self
  obtain ⟨refreshed, hout, heq⟩ := Option.map_eq_some_iff.mp hlost
  have hsame : refreshed.cookie.refreshToken = refreshed.issued := hholds refreshed hout
  injection heq with hcookie hissued
  rw [hcookie, hissued] at hsame
  cases hsame

end Sample

end SecurityDashboards
