import SecurityDashboards.AuthRoutes.Basic
import SecurityDashboards.AuthRoutes.Proxy
import SecurityDashboards.Logout
import SecurityDashboards.Proofs.AuthHandlerProofs

/-!
# Proofs: which session cookies the routes write

The cookies of established sessions and those of pending logins, and for each route which of them it
writes.
-/

namespace SecurityDashboards

/-! ## Sessions and pending logins -/

/-- The session has no pending login. -/
def SecuritySessionCookie.NoLogin (cookie : SecuritySessionCookie) : Prop :=
  cookie.oidc = none ∧ cookie.saml = none

/-- The cookie of a session without a pending login that ends at some time. -/
def SecuritySessionCookie.Bounded (cookie : SecuritySessionCookie) : Prop :=
  cookie.NoLogin ∧ cookie.expiryTime.isSome = true

/-- The cookie of a pending login: it authenticates nobody. -/
def SecuritySessionCookie.Pending (cookie : SecuritySessionCookie) : Prop :=
  cookie.username = none ∧ cookie.isAnonymousAuth = false

/-- The cookie of a pending OpenID login with this nonce. -/
structure SecuritySessionCookie.Awaits (cookie : SecuritySessionCookie) (nonce : String) :
    Prop where
  pending : cookie.Pending
  state : cookie.oidc.bind (·.state) = some nonce

/-! ## Procedures that write only some cookies -/

/-- Every session cookie that the procedure writes satisfies `P`. -/
def Writes (P : SecuritySessionCookie → Prop) {α : Type} (x : Proc World JsError α) : Prop :=
  ∀ Q : SecuritySessionCookie → Prop, (∀ cookie, P cookie → Q cookie) →
    Proc.Preserves (fun w => ∀ cookie, w.session = some (some cookie) → Q cookie) x

namespace Writes

open World

variable {P Q : SecuritySessionCookie → Prop} {α β : Type} {setup : RouteSetup} {request : Request}

theorem pure (a : α) : Writes P (Pure.pure a) := fun _ _ => Proc.Preserves.pure a

theorem throw (e : JsError) : Writes P (MonadExcept.throw e : Proc World JsError α) :=
  fun _ _ => Proc.Preserves.throw e

theorem bind {x : Proc World JsError α} {f : α → Proc World JsError β} (hx : Writes P x)
    (hf : ∀ a, Writes P (f a)) : Writes P (x >>= f) :=
  fun Q hQ => Proc.Preserves.bind (hx Q hQ) fun a => hf a Q hQ

theorem attempt {x : Proc World JsError α} (hx : Writes P x) : Writes P (Proc.attempt x) :=
  fun Q hQ => Proc.Preserves.attempt (hx Q hQ)

/-- What follows an outcome that is already there. -/
theorem ofExcept_bind {r : Except JsError α} {f : α → Proc World JsError β}
    (hf : ∀ a, r = .ok a → Writes P (f a)) : Writes P (Proc.ofExcept r >>= f) := by
  cases r with
  | ok a => exact hf a rfl
  | error e => exact fun _ _ => Proc.Preserves.throw e

theorem get_bind {f : World → Proc World JsError β} (hf : ∀ w, Writes P (f w)) :
    Writes P (get >>= f) :=
  fun Q hQ => Proc.Preserves.bind (fun _ h => h) fun w => hf w Q hQ

theorem clearSession : Writes P clearSession :=
  fun _ _ => Proc.Preserves.update fun _ _ cookie h => by cases h

theorem setSession {cookie : SecuritySessionCookie} (h : P cookie) :
    Writes P (setSession cookie) := by
  refine fun Q hQ => Proc.Preserves.update fun _ _ cookie' hcookie => ?_
  injection hcookie with hcookie
  injection hcookie with hcookie
  exact hcookie ▸ hQ cookie h

theorem onQueue (x : Proc Queue JsError α) : Writes P (onQueue x) :=
  fun _ _ => Proc.Preserves.zoom fun _ _ h => h

theorem authinfo (environment : Environment) (headers : HeaderObject) :
    Writes P (authinfo environment request headers) :=
  fun _ _ => authinfo_preserves (fun _ _ h => h) _ _ _

theorem authenticate (username password : String) :
    Writes P (authenticate setup request username password) :=
  bind (authinfo _ _) fun _ => pure _

theorem authenticateWithHeader (headerName : String) (headerValue : Option String) :
    Writes P (authenticateWithHeader setup request headerName headerValue) :=
  bind (authinfo _ _) fun _ => pure _

theorem authenticateWithHeaders (headers : HeaderObject) :
    Writes P (authenticateWithHeaders setup request headers) :=
  bind (authinfo _ _) fun _ => pure _

theorem mono {x : Proc World JsError α} (h : Writes P x) (hPQ : ∀ cookie, P cookie → Q cookie) :
    Writes Q x :=
  fun R hR => h R fun cookie hcookie => hR cookie (hPQ cookie hcookie)

/-- A run: what it leaves was there before, or is as wanted. -/
theorem run {x : Proc World JsError α} (h : Writes P x) {w : World}
    (hw : ∀ cookie, w.session = some (some cookie) → P cookie) {cookie : SecuritySessionCookie}
    (hcookie : (x.exec w).2.session = some (some cookie)) : P cookie :=
  (h P fun _ h => h).exec hw cookie hcookie

/-- A run from the empty world. -/
theorem run_empty {x : Proc World JsError α} (h : Writes P x) {cookie : SecuritySessionCookie}
    (hcookie : (x.exec {}).2.session = some (some cookie)) : P cookie :=
  h.run (fun cookie h => by cases h) hcookie

/-! ## The routes -/

/-- The new session of the basic type differs from `sessionStorage` in the tenant at most. -/
theorem withTenantOfUser_tenant {user : User} {sessionStorage cookie : SecuritySessionCookie}
    (h : withTenantOfUser setup request user sessionStorage = .ok cookie) :
    ∃ tenant, cookie = { sessionStorage with tenant } := by
  unfold withTenantOfUser at h
  split at h
  · split at h
    · cases h
    · rename_i tenants _
      cases hresolved : resolveTenant setup.server.runtime.toLowerCase request
          (user.username.getD "undefined") user.roles tenants setup.server.config sessionStorage
          user.multitenancy_enabled user.private_tenant_enabled user.default_tenant with
      | error e =>
        rw [hresolved] at h
        cases h
      | ok tenant =>
        rw [hresolved] at h
        exact ⟨tenant, (Except.ok.inj h).symm⟩
  · exact ⟨sessionStorage.tenant, (Except.ok.inj h).symm⟩

theorem basicLogin (username password : String) :
    Writes SecuritySessionCookie.Bounded
      (BasicAuthRoutes.login setup request username password) := by
  unfold BasicAuthRoutes.login
  split
  · exact pure _
  · refine bind (attempt (authenticate _ _)) fun r => ?_
    cases r with
    | error error => exact pure _
    | ok user =>
      refine bind clearSession fun _ => ofExcept_bind fun cookie hcookie => ?_
      obtain ⟨tenant, rfl⟩ := withTenantOfUser_tenant hcookie
      exact bind (setSession ⟨⟨rfl, rfl⟩, rfl⟩) fun _ => pure _

theorem anonymousLogin :
    Writes SecuritySessionCookie.Bounded (BasicAuthRoutes.anonymousLogin setup request) := by
  unfold BasicAuthRoutes.anonymousLogin
  split_ifs
  · refine bind (attempt (authenticateWithHeaders _)) fun r => ?_
    cases r with
    | error error => exact pure _
    | ok user =>
      refine bind clearSession fun _ => ofExcept_bind fun cookie hcookie => ?_
      obtain ⟨tenant, rfl⟩ := withTenantOfUser_tenant hcookie
      exact bind (setSession ⟨⟨rfl, rfl⟩, rfl⟩) fun _ => pure _
  · exact pure _

theorem startLogin (nonce : String) :
    Writes (fun cookie => cookie.Awaits nonce)
      (OpenIdAuthRoutes.startLogin setup nonce request) :=
  bind (setSession ⟨⟨rfl, rfl⟩, rfl⟩) fun _ => pure _

theorem callback :
    Writes SecuritySessionCookie.Bounded (OpenIdAuthRoutes.callback setup request) := by
  have hback : Writes SecuritySessionCookie.Bounded (OpenIdAuthRoutes.redirectToLogin setup) :=
    bind clearSession fun _ => pure _
  unfold OpenIdAuthRoutes.callback
  cases OpenIdAuthRoutes.pendingLogin request with
  | none => exact hback
  | some oidc =>
    refine bind (attempt ?_) fun r => ?_
    · unfold OpenIdAuthRoutes.completeLogin
      refine ofExcept_bind fun tokenResponse _ => ?_
      refine bind (authenticateWithHeader _ _) fun user => ?_
      refine ofExcept_bind fun expiryTime _ => ?_
      exact bind (onQueue _) fun _ => bind (setSession ⟨⟨rfl, rfl⟩, rfl⟩) fun _ => pure _
    · cases r with
      | ok response => exact pure _
      | error error =>
        dsimp only
        split_ifs
        · exact pure _
        · exact hback

theorem samlLogin (isAuthenticated : Bool) :
    Writes (fun cookie => cookie.Pending ∧ cookie.oidc = none)
      (SamlAuthRoutes.login setup isAuthenticated request) := by
  unfold SamlAuthRoutes.login
  split_ifs
  · exact pure _
  · split
    · exact pure _
    · exact bind (setSession ⟨⟨rfl, rfl⟩, rfl⟩) fun _ => pure _

/-- A SAML session, as far as what is known of the expiry times of tokens. -/
theorem startSession (body : AuthTokenBody)
    (hP : ∀ authorization expiryTime, setup.authToken body = .ok (some authorization) →
      SamlAuthRoutes.expiryTimeOf setup request.now authorization = .ok expiryTime →
      ∀ username, P
        { username, credentials := some { authHeaderValueExtra := true }, authType := some SAML,
          expiryTime }) :
    Writes P (SamlAuthRoutes.startSession setup request body) := by
  unfold SamlAuthRoutes.startSession
  refine ofExcept_bind fun credentials hcredentials => ?_
  refine bind (authenticateWithHeader _ _) fun user => ?_
  cases credentials with
  | none => exact throw _
  | some authorization =>
    have htoken : setup.authToken body = .ok (some authorization) := by
      cases hanswer : setup.authToken body with
      | ok answer =>
        rw [hanswer] at hcredentials
        rw [Except.ok.inj hcredentials]
      | error message =>
        rw [hanswer] at hcredentials
        cases hcredentials
    refine ofExcept_bind fun expiryTime hexpiry => ?_
    exact bind (onQueue _) fun _ => setSession (hP authorization expiryTime htoken hexpiry _)

theorem openIdLogout : Writes P (OpenIdAuthRoutes.logout setup request) := by
  unfold OpenIdAuthRoutes.logout
  refine ofExcept_bind fun cookie _ => get_bind fun w => ofExcept_bind fun token _ => ?_
  refine bind (onQueue _) fun _ => bind clearSession fun _ => ?_
  exact ofExcept_bind fun hint _ => ofExcept_bind fun url _ => pure _

theorem samlLogout : Writes P (SamlAuthRoutes.logout setup request) := by
  unfold SamlAuthRoutes.logout
  refine bind (attempt (authinfo _ _)) fun r => ?_
  cases r with
  | error error => exact pure _
  | ok authInfo => exact bind (onQueue _) fun _ => bind clearSession fun _ => pure _

theorem acs (samlResponse : String)
    (hP : ∀ body, body.SAMLResponse = samlResponse →
      Writes P (SamlAuthRoutes.startSession setup request body)) :
    Writes P (SamlAuthRoutes.acs setup request samlResponse) := by
  unfold SamlAuthRoutes.acs
  cases request.session with
  | error e => exact pure _
  | ok cookie =>
    dsimp only
    cases (cookie.bind (·.saml)).filter fun saml => truthyString saml.requestId with
    | none => exact pure _
    | some saml =>
      refine bind (attempt (hP _ rfl)) fun r => ?_
      cases r <;> exact pure _

theorem idpInitiated (samlResponse : String)
    (hP : ∀ body, body.SAMLResponse = samlResponse →
      Writes P (SamlAuthRoutes.startSession setup request body)) :
    Writes P (SamlAuthRoutes.idpInitiated setup request samlResponse) := by
  unfold SamlAuthRoutes.idpInitiated
  refine bind (attempt (hP _ rfl)) fun r => ?_
  cases r <;> exact pure _

/-- A handler that only clears the session. -/
theorem clearing (response : RouteResponse) :
    Writes P (do World.clearSession; Pure.pure response) :=
  bind clearSession fun _ => pure _

theorem jwtLogout : Writes P (JwtAuthRoutes.logout setup request) :=
  bind (onQueue _) fun _ => clearing _

end Writes

end SecurityDashboards
