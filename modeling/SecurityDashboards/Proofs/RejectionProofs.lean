import SecurityDashboards.Proofs.RefreshProofs
import SecurityDashboards.Rejection

/-!
# Proofs: how a rejected session is answered

First, what `authHandler` does with a cookie that `isValidCookie` accepted: only keeping the session
of a JWT alive can fail before the tenant is resolved. Then, the answers to a rejection.
-/

namespace SecurityDashboards

/-! ## Reading a token -/

theorem getExpirationDate_ok_iff {runtime : Runtime} {authHeader : HeaderValue} {expiry : ℚ} :
    (∃ expiryTime, getExpirationDate runtime authHeader expiry = .ok expiryTime) ↔
      ReadableToken runtime authHeader := by
  cases authHeader with
  | undefined =>
    have hreadable : ReadableToken runtime .undefined :=
      ⟨(by decide), fun s _ _ _ h => (by cases h)⟩
    exact ⟨fun _ => hreadable, fun _ => ⟨_, rfl⟩⟩
  | inherited =>
    constructor
    · rintro ⟨expiryTime, h⟩
      cases h
    · intro h
      exact absurd rfl h.1
  | str s =>
    have hne : HeaderValue.str s ≠ .inherited := fun h => (by cases h)
    unfold getExpirationDate ReadableToken
    dsimp only
    by_cases hbearer : Js.startsWith s "Bearer " = true
    · rw [if_pos hbearer]
      split
      · rename_i header payload signature hparts
        cases hpayload : runtime.payloadExp payload with
        | error message =>
          constructor
          · rintro ⟨expiryTime, h⟩
            cases h
          · rintro ⟨-, h⟩
            obtain ⟨exp, hexp⟩ := h s header payload signature rfl hbearer hparts
            rw [hpayload] at hexp
            cases hexp
        | ok exp =>
          constructor
          · intro _
            refine ⟨hne, fun s' header' payload' signature' hs _ hparts' => ?_⟩
            cases hs
            rw [hparts] at hparts'
            cases hparts'
            exact ⟨exp, hpayload⟩
          · intro _
            dsimp only
            split <;> exact ⟨_, rfl⟩
      · rename_i hparts
        refine ⟨fun _ => ⟨hne, ?_⟩, fun _ => ⟨_, rfl⟩⟩
        intro s' header payload signature hs _ hparts'
        cases hs
        exact absurd hparts' (hparts header payload signature)
    · rw [if_neg hbearer]
      refine ⟨fun _ => ⟨hne, ?_⟩, fun _ => ⟨_, rfl⟩⟩
      intro s' header payload signature hs hbearer'
      cases hs
      exact absurd hbearer' hbearer

/-! ## Accepted cookies -/

section Accepted

variable {server : Server} {environment : Environment} {scheme : Scheme} {request : Request}
  {cookie accepted : SecuritySessionCookie} {queue : Queue}

/-- A cookie without credentials has no header value. -/
theorem credentials_of_hasAuthHeaderValue {options : ExtraAuthStorageOptions}
    (h : ExtraStorage.hasAuthHeaderValue server options request cookie queue = true) :
    ∃ credentials, cookie.credentials = some credentials := by
  cases hcredentials : cookie.credentials with
  | some credentials => exact ⟨credentials, rfl⟩
  | none => simp [ExtraStorage.hasAuthHeaderValue, ExtraStorage.value, hcredentials] at h

/-- An accepted cookie of a type that reads its headers from `credentials` has them. -/
theorem credentials_of_accepted
    (hvalid : ((scheme.authentication server environment).isValidCookie cookie request).exec {} =
      (.ok (true, accepted), queue))
    (htype : scheme.validatedBy server cookie = some .jwt ∨
      scheme.validatedBy server cookie = some .openId) :
    ∃ credentials, accepted.credentials = some credentials := by
  rcases htype with htype | htype
  · rw [(scheme_methods htype).1] at hvalid
    obtain ⟨rfl, rfl⟩ := accepts_pure hvalid
    have hvalue : JwtAuthentication.isValidCookie server accepted request {} = true := by
      have h := congrArg Prod.fst hvalid
      exact congrArg Prod.fst (Except.ok.inj h)
    simp only [JwtAuthentication.isValidCookie, Bool.and_eq_true] at hvalue
    exact credentials_of_hasAuthHeaderValue hvalue.2
  · rw [(scheme_methods htype).1] at hvalid
    rcases openId_isValidCookie_cases hvalid with ⟨-, hno⟩ | ⟨hresult, -⟩ |
      ⟨r, idToken, credentials, -, -, hresult, -⟩
    · exact absurd rfl (hno accepted)
    · have hvalid' : (OpenIdAuthentication.isValidCookie server environment cookie request).exec {} =
          (.ok (true, accepted), queue) := hvalid
      rw [OpenIdAuthentication.isValidCookie, Proc.exec_bind_of_ok (Proc.exec_get _)] at hvalid'
      cases hresult
      by_cases husable : OpenIdAuthentication.isUsable server cookie request {} = true
      · simp only [OpenIdAuthentication.isUsable, Bool.and_eq_true] at husable
        exact credentials_of_hasAuthHeaderValue husable.2
      · rw [Bool.not_eq_true] at husable
        rw [husable] at hvalid'
        cases hvalid'
    · cases hresult
      exact ⟨credentials, rfl⟩

/-- An accepted cookie is of the type that validated it. -/
theorem validatedBy_accepted
    (hvalid : ((scheme.authentication server environment).isValidCookie cookie request).exec {} =
      (.ok (true, accepted), queue)) :
    scheme.validatedBy server accepted = scheme.validatedBy server cookie ∧
      ∃ authType, scheme.validatedBy server cookie = some authType := by
  constructor
  · rcases scheme_accepts_cases hvalid with ⟨rfl, -⟩ | ⟨r, idToken, credentials, -, -, -, rfl, -⟩
    · rfl
    · cases scheme with
      | single authType => rfl
      | multiple authHandlers => rfl
  · cases htype : scheme.validatedBy server cookie with
    | some authType => exact ⟨authType, rfl⟩
    | none =>
      rw [scheme_isValidCookie_none htype] at hvalid
      cases hvalid

/-- The headers of the type that a stored cookie names can be added without an error. -/
theorem getAdditionalAuthHeader_ok {authType : AuthType}
    (htype : scheme.validatedBy server cookie = some authType)
    (hread : request.session = .ok (some cookie)) :
    ∃ headers, (scheme.authentication server environment).getAdditionalAuthHeader request =
      .ok headers := by
  have hsingle : ∃ headers,
      (authType.handler server environment).getAdditionalAuthHeader request = .ok headers := by
    cases authType <;> exact ⟨_, rfl⟩
  cases scheme with
  | single authType' =>
    cases htype
    exact hsingle
  | multiple authHandlers =>
    change ∃ headers, MultipleAuthentication.getAdditionalAuthHeader server environment authHandlers
      request = .ok headers
    have hhandler : MultipleAuthentication.handlerOf server environment authHandlers (some cookie) =
        some (authType.handler server environment) := by
      rw [handlerOf_eq, htype, Option.map_some]
    rw [MultipleAuthentication.getAdditionalAuthHeader, hread]
    dsimp only [bind, Except.bind]
    rw [hhandler]
    exact hsingle

/-- The type that accepted a cookie builds its headers, whatever the expiry time. -/
theorem buildAuthHeader_accepted {authType : AuthType}
    (htype : scheme.validatedBy server cookie = some authType)
    (hvalid : ((scheme.authentication server environment).isValidCookie cookie request).exec {} =
      (.ok (true, accepted), queue)) :
    ∃ headers, ∀ expiryTime,
      ((authType.handler server environment).buildAuthHeaderFromCookie
        { accepted with expiryTime } request).exec queue = (.ok headers, queue) := by
  have hcredentials := credentials_of_accepted hvalid
  cases authType with
  | basic =>
    exact ⟨BasicAuthentication.buildAuthHeaderFromCookie server accepted, fun _ => rfl⟩
  | saml =>
    exact ⟨SamlAuthentication.buildAuthHeaderFromCookie server accepted request queue,
      fun _ => rfl⟩
  | proxy =>
    exact ⟨ProxyAuthentication.buildAuthHeaderFromCookie server accepted, fun _ => rfl⟩
  | openId =>
    obtain ⟨credentials, hc⟩ := hcredentials (Or.inr htype)
    have hheader : ∃ headers, ∀ expiryTime, OpenIdAuthentication.buildAuthHeaderFromCookie server
        { accepted with expiryTime } request queue = .ok headers := by
      unfold OpenIdAuthentication.buildAuthHeaderFromCookie
      simp only [hc, ExtraStorage.value]
      split
      · exact ⟨_, fun _ => rfl⟩
      · split <;> exact ⟨_, fun _ => rfl⟩
    obtain ⟨headers, hheader⟩ := hheader
    refine ⟨headers, fun expiryTime => ?_⟩
    rw [← hheader expiryTime]
    rfl
  | jwt =>
    obtain ⟨credentials, hc⟩ := hcredentials (Or.inl htype)
    have hheader : ∃ headers, ∀ expiryTime, JwtAuthentication.buildAuthHeaderFromCookie server
        { accepted with expiryTime } request queue = .ok headers := by
      unfold JwtAuthentication.buildAuthHeaderFromCookie
      simp only [hc, ExtraStorage.value]
      split
      · exact ⟨_, fun _ => rfl⟩
      · split <;> exact ⟨_, fun _ => rfl⟩
    obtain ⟨headers, hheader⟩ := hheader
    refine ⟨headers, fun expiryTime => ?_⟩
    rw [← hheader expiryTime]
    rfl

/-- The headers of an accepted cookie can be built, and do not depend on its expiry time. -/
theorem cookieHeaders_accepted
    (h : AcceptedSession server environment scheme request cookie accepted queue) :
    ∃ headers, ∀ expiryTime w, w.queue = queue →
      ((scheme.authentication server environment).cookieHeaders { accepted with expiryTime }
        request).exec w = (.ok headers, w) := by
  obtain ⟨hsame, authType, htype⟩ := validatedBy_accepted h.valid
  obtain ⟨additional, hadditional⟩ : ∃ headers,
      (scheme.authentication server environment).getAdditionalAuthHeader request = .ok headers :=
    getAdditionalAuthHeader_ok htype h.stored
  obtain ⟨headers, hbuild⟩ := buildAuthHeader_accepted htype h.valid
  refine ⟨(Js.Assigned.empty.assign headers).assign additional, fun expiryTime w hw => ?_⟩
  have htype' : scheme.validatedBy server { accepted with expiryTime } = some authType := by
    rw [← htype, ← hsame]
    cases scheme <;> rfl
  have hqueue : (World.onQueue ((scheme.authentication server environment).buildAuthHeaderFromCookie
      { accepted with expiryTime } request)).exec w = (.ok headers, w) := by
    rw [(scheme_methods htype').2.2, World.onQueue, Proc.exec_zoom, hw, hbuild, ← hw]
  unfold AuthenticationType.cookieHeaders
  rw [Proc.exec_bind_of_ok hqueue, hadditional]
  rfl

/-- Only the token of a JWT can keep the expiry time from being renewed. -/
theorem keepAliveExpiry_ok_iff
    (h : AcceptedSession server environment scheme request cookie accepted queue)
    (hkeepalive : server.config.session.keepalive = true) :
    (∃ expiryTime, ((scheme.authentication server environment).getKeepAliveExpiry accepted
      request).exec queue = (.ok expiryTime, queue)) ↔ scheme.KeepsAlive server request cookie := by
  obtain ⟨hsame, authType, htype⟩ := validatedBy_accepted h.valid
  rw [(scheme_methods (hsame.trans htype)).2.1]
  by_cases hjwt : authType = .jwt
  · subst hjwt
    have hvalid := h.valid
    rw [(scheme_methods htype).1] at hvalid
    obtain ⟨rfl, rfl⟩ := accepts_pure hvalid
    obtain ⟨credentials, hc⟩ := credentials_of_accepted h.valid (Or.inl htype)
    have hheader : ∃ headers,
        JwtAuthentication.buildAuthHeaderFromCookie server accepted request {} = .ok headers := by
      unfold JwtAuthentication.buildAuthHeaderFromCookie
      rw [hc]
      dsimp only
      split
      · exact ⟨_, rfl⟩
      · split <;> exact ⟨_, rfl⟩
    obtain ⟨headers, hheader⟩ := hheader
    have hexpiry : ((JwtAuthentication server).getKeepAliveExpiry accepted request).exec {} =
        (getExpirationDate server.runtime (headers.get (JwtAuthentication.authHeaderName server))
          (request.now + server.config.session.ttl), {}) := by
      have hget : JwtAuthentication.getKeepAliveExpiry server accepted request {} =
          getExpirationDate server.runtime (headers.get (JwtAuthentication.authHeaderName server))
            (request.now + server.config.session.ttl) := by
        rw [JwtAuthentication.getKeepAliveExpiry, hheader]
        rfl
      rw [← hget]
      rfl
    have hok : (∃ expiryTime, ((JwtAuthentication server).getKeepAliveExpiry accepted
        request).exec {} = (.ok expiryTime, {})) ↔ ∃ expiryTime,
          getExpirationDate server.runtime (headers.get (JwtAuthentication.authHeaderName server))
            (request.now + server.config.session.ttl) = .ok expiryTime := by
      rw [hexpiry]
      simp only [Prod.mk.injEq, and_true]
    refine hok.trans (getExpirationDate_ok_iff.trans ⟨fun hread _ _ headers' h' => ?_,
      fun hkeeps => hkeeps hkeepalive htype headers hheader⟩)
    rw [hheader] at h'
    cases h'
    exact hread
  · have hok : ∃ expiryTime, ((authType.handler server environment).getKeepAliveExpiry accepted
        request).exec queue = (.ok expiryTime, queue) := by
      cases authType with
      | jwt => exact absurd rfl hjwt
      | basic => exact ⟨_, rfl⟩
      | openId => exact ⟨_, rfl⟩
      | saml => exact ⟨_, rfl⟩
      | proxy => exact ⟨_, rfl⟩
    refine ⟨fun _ _ htype' => ?_, fun _ => hok⟩
    rw [htype] at htype'
    exact absurd (Option.some.inj htype') hjwt

/-- The request starts with `isValidCookie`. -/
theorem handle_stored
    (h : AcceptedSession server environment scheme request cookie accepted queue) :
    scheme.handle server environment request =
      ((scheme.authentication server environment).keepAlive server accepted request >>=
        fun cookie => (scheme.authentication server environment).cookieHeaders cookie request >>=
          fun headers => (scheme.authentication server environment).withTenant server environment
            request cookie headers none).exec { queue } := by
  have hread : request.session.toOption.join = some cookie := by
    rw [h.stored]
    rfl
  have hqueue : (World.onQueue ((scheme.authentication server environment).isValidCookie cookie
      request)).exec {} = (.ok (true, accepted), { queue }) := by
    simp only [World.onQueue, Proc.exec_zoom, h.valid]
  unfold Scheme.handle AuthenticationType.authHandler
  rw [h.required, h.noAuthInfo, hread]
  dsimp only [Bool.false_eq_true, if_false]
  unfold AuthenticationType.authenticateCookie
  rw [if_neg (by decide), if_neg (by decide), Proc.exec_bind_of_ok hqueue]
  rfl

/-- If the session is kept alive, the request goes on to the tenant. -/
theorem handle_kept
    (h : AcceptedSession server environment scheme request cookie accepted queue)
    (hkeeps : scheme.KeepsAlive server request cookie) {headers : HeaderObject}
    (hheaders : ∀ expiryTime w, w.queue = queue →
      ((scheme.authentication server environment).cookieHeaders { accepted with expiryTime }
        request).exec w = (.ok headers, w)) :
    ∃ expiryTime, scheme.handle server environment request =
      ((scheme.authentication server environment).withTenant server environment request
        { accepted with expiryTime } headers none).exec
          { queue
            session := if server.config.session.keepalive then
              some (some { accepted with expiryTime }) else none } := by
  rw [handle_stored h]
  by_cases hkeepalive : server.config.session.keepalive = true
  · obtain ⟨expiryTime, hexpiry⟩ := (keepAliveExpiry_ok_iff h hkeepalive).mpr hkeeps
    have hqueue : (World.onQueue ((scheme.authentication server environment).getKeepAliveExpiry
        accepted request)).exec { queue } = (.ok expiryTime, { queue }) := by
      simp only [World.onQueue, Proc.exec_zoom, hexpiry]
    have hkeep : ((scheme.authentication server environment).keepAlive server accepted
        request).exec { queue } = (.ok { accepted with expiryTime },
          { queue, session := some (some { accepted with expiryTime }) }) := by
      unfold AuthenticationType.keepAlive
      rw [if_pos hkeepalive, Proc.exec_bind_of_ok hqueue,
        Proc.exec_bind_of_ok (World.exec_setSession _ _)]
      rfl
    refine ⟨expiryTime, ?_⟩
    rw [Proc.exec_bind_of_ok hkeep, Proc.exec_bind_of_ok (hheaders expiryTime _ rfl),
      if_pos hkeepalive]
  · have hkeep : ((scheme.authentication server environment).keepAlive server accepted
        request).exec { queue } = (.ok { accepted with expiryTime := accepted.expiryTime },
          { queue }) := by
      unfold AuthenticationType.keepAlive
      rw [if_neg hkeepalive]
      rfl
    refine ⟨accepted.expiryTime, ?_⟩
    rw [Proc.exec_bind_of_ok hkeep, Proc.exec_bind_of_ok (hheaders accepted.expiryTime _ rfl),
      if_neg hkeepalive]

/-- If it is not, the request ends there with an error. -/
theorem handle_not_kept
    (h : AcceptedSession server environment scheme request cookie accepted queue)
    (hkeeps : ¬ scheme.KeepsAlive server request cookie) :
    ∃ e, scheme.handle server environment request = (.error e, { queue }) := by
  have hkeepalive : server.config.session.keepalive = true := by
    by_contra hoff
    exact hkeeps fun hon => absurd hon hoff
  have hno := fun h' => hkeeps ((keepAliveExpiry_ok_iff h hkeepalive).mp h')
  rw [handle_stored h, Proc.exec_bind]
  cases hkeep : ((scheme.authentication server environment).keepAlive server accepted
      request).exec { queue } with
  | mk r w =>
    rcases AuthenticationType.keepAlive_cases (scheme_framed scheme) hkeep with
      ⟨hoff, -, -⟩ | ⟨-, rfl, e, e', rfl, -⟩ | ⟨-, expiryTime, hexpiry, -, -⟩
    · rw [hkeepalive] at hoff
      cases hoff
    · exact ⟨e, rfl⟩
    · exact absurd ⟨expiryTime, hexpiry⟩ hno

end Accepted

/-! ## Rejected sessions -/

section Rejected

variable {server : Server} {environment : Environment} {scheme : Scheme} {request : Request}
  {cookie accepted : SecuritySessionCookie} {queue : Queue}

/-- With multitenancy the rejection is noticed when the tenant is resolved. -/
theorem withTenant_rejected {auth : AuthenticationType} {headers : HeaderObject} {w : World}
    (henabled : server.config.multitenancy.enabled = true) {message : String}
    (hrejected : environment.authinfo w.calls request headers = .error message) :
    AnsweredUnauthenticated auth request
      ((auth.withTenant server environment request cookie headers none).exec w) := by
  have hresolve : ∃ w', (AuthenticationType.resolveTenant server environment request cookie headers
      none).exec w = (.error (.unauthenticatedError ("Failed authentication: " ++ message)), w') := by
    refine ⟨{ w with calls := .authinfo headers (.error message) :: w.calls }, ?_⟩
    unfold AuthenticationType.resolveTenant AuthenticationType.tenantAuthInfo
    simp only [Proc.exec_bind, Proc.exec_attempt, exec_authinfo, hrejected, Except.mapError]
    rfl
  obtain ⟨w', hresolve⟩ := hresolve
  unfold AnsweredUnauthenticated AuthenticationType.withTenant
  rw [if_pos henabled, Proc.exec_bind, Proc.exec_attempt, hresolve]
  dsimp only
  by_cases hbundle : isBundleRequest request = true
  · rw [if_pos hbundle, if_pos hbundle]
    rfl
  · rw [if_neg hbundle, if_neg hbundle, Proc.exec_bind_of_ok (World.exec_clearSession _)]
    exact ⟨rfl, rfl⟩

/-- Without multitenancy it is noticed at the end, outside of any `try`. -/
theorem withTenant_rejected_disabled {auth : AuthenticationType} {headers : HeaderObject}
    {w : World} (hdisabled : server.config.multitenancy.enabled ≠ true) {message : String}
    (hrejected : environment.authinfo w.calls request headers = .error message) :
    ((auth.withTenant server environment request cookie headers none).exec w).1 =
      .error (.error message) := by
  unfold AuthenticationType.withTenant AuthenticationType.finish AuthenticationType.ensureAuthInfo
  rw [if_neg hdisabled, Proc.exec_bind, exec_authinfo, hrejected]
  rfl

theorem not_answered_of_error {auth : AuthenticationType} {outcome : Except JsError AuthResult × World}
    {e : JsError} (h : outcome.1 = .error e) : ¬ AnsweredUnauthenticated auth request outcome := by
  unfold AnsweredUnauthenticated
  rw [h]
  split
  · intro h'
    cases h'
  · rintro ⟨h', -⟩
    cases h'

end Rejected

/-- A session that the backend rejects is answered like no session at all, exactly when multitenancy
is enabled and keeping the session alive did not fail before. -/
theorem rejected_answered_iff (server : Server) (environment : Environment) (scheme : Scheme)
    (request : Request) (cookie accepted : SecuritySessionCookie) (queue : Queue)
    (h : RejectedSession server environment scheme request cookie accepted queue) :
    AnsweredUnauthenticated (scheme.authentication server environment) request
        (scheme.handle server environment request) ↔
      server.config.multitenancy.enabled = true ∧ scheme.KeepsAlive server request cookie := by
  obtain ⟨headers, hheaders⟩ := cookieHeaders_accepted h.toAcceptedSession
  have hbuilt : (((scheme.authentication server environment).cookieHeaders accepted request).exec
      { queue }).1 = .ok headers :=
    congrArg Prod.fst (hheaders accepted.expiryTime { queue } rfl)
  obtain ⟨message, hrejected⟩ := h.rejected headers hbuilt
  by_cases hkeeps : scheme.KeepsAlive server request cookie
  · obtain ⟨expiryTime, hhandle⟩ := handle_kept h.toAcceptedSession hkeeps hheaders
    rw [hhandle]
    by_cases henabled : server.config.multitenancy.enabled = true
    · exact ⟨fun _ => ⟨henabled, hkeeps⟩, fun _ => withTenant_rejected henabled hrejected⟩
    · refine ⟨fun hanswered => ?_, fun h' => absurd h'.1 henabled⟩
      exact absurd hanswered (not_answered_of_error
        (withTenant_rejected_disabled henabled hrejected))
  · obtain ⟨e, hhandle⟩ := handle_not_kept h.toAcceptedSession hkeeps
    rw [hhandle]
    exact ⟨fun hanswered => absurd hanswered (not_answered_of_error rfl),
      fun h' => absurd h'.2 hkeeps⟩

namespace Sample

/-- alice's session of the basic type. -/
def basicCookie : SecuritySessionCookie where
  username := some "alice"
  credentials := some { authHeaderValue := .str "Basic YWxpY2U6c2VjcmV0" }
  authType := some BASIC
  expiryTime := some 5000

def basicVisit : Request where
  url := { pathname := "/api/status" }
  cookies := { session := some basicCookie }
  now := 1000

/-- alice was locked out. -/
def lockedOut : Environment where
  authinfo _ _ _ := .error "Authentication Exception"
  dashboardsinfo _ _ _ := .ok {}
  tokenEndpoint _ := .error "Not Found"

theorem lockedOut_rejects (config : SecurityPluginConfig)
    (hrequired : authNotRequired config basicVisit = false) :
    RejectedSession (server config) lockedOut (.single .basic) basicVisit basicCookie basicCookie
      {} where
  required := hrequired
  noAuthInfo := rfl
  stored := by decide
  valid := by
    have hvalid : BasicAuthentication.isValidCookie (server config) basicCookie = true := by
      simp [BasicAuthentication.isValidCookie, basicCookie, truthyNumber, truthyString,
        HeaderValue.truthy]
    have hexec : ((BasicAuthentication (server config)).isValidCookie basicCookie basicVisit).exec
        {} = (.ok (BasicAuthentication.isValidCookie (server config) basicCookie, basicCookie),
          {}) := rfl
    rw [hvalid] at hexec
    exact hexec
  rejected _ _ := ⟨_, rfl⟩

/-- With multitenancy alice is sent to the login. -/
theorem lockedOut_answered :
    AnsweredUnauthenticated (BasicAuthentication (server { multitenancy := { enabled := true } }))
      basicVisit ((Scheme.single .basic).handle (server { multitenancy := { enabled := true } })
        lockedOut basicVisit) :=
  (rejected_answered_iff (server { multitenancy := { enabled := true } }) lockedOut (.single .basic)
    basicVisit basicCookie basicCookie {} (lockedOut_rejects _ (by decide))).mpr
    ⟨rfl, fun _ h => (by cases h)⟩

/-- Without it her request ends with a server error. -/
theorem lockedOut_not_answered :
    RejectedSession (server {}) lockedOut (.single .basic) basicVisit basicCookie basicCookie {} ∧
      ¬ AnsweredUnauthenticated (BasicAuthentication (server {})) basicVisit
        ((Scheme.single .basic).handle (server {}) lockedOut basicVisit) := by
  refine ⟨lockedOut_rejects _ (by decide), not_answered_of_error (e := .error
    "Authentication Exception") ?_⟩
  decide

end Sample

end SecurityDashboards
