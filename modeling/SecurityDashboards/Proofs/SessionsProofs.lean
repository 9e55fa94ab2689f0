import SecurityDashboards.Proofs.AuthHandlerProofs
import SecurityDashboards.Proofs.MintingProofs
import SecurityDashboards.Sessions

/-!
# Proofs: what one request does to the cookies

For each authentication type, what its methods leave alone; from that, what `authHandler` does to
the session cookie and the split cookies.
-/

namespace SecurityDashboards

/-! ## The methods of the types -/

/-- What the methods of every type leave alone: only `isValidCookie` asks the token endpoint, and it
queues nothing for a cookie that it does not accept. -/
structure AuthenticationType.Framed (auth : AuthenticationType) : Prop where
  getCookie : ∀ request authInfo,
    ((auth.getCookie request authInfo).exec {}).2.tokenCalls = []
  getKeepAliveExpiry : ∀ cookie request,
    Proc.Keeps id (auth.getKeepAliveExpiry cookie request)
  buildAuthHeaderFromCookie : ∀ cookie request,
    Proc.Keeps id (auth.buildAuthHeaderFromCookie cookie request)
  isValidCookie : ∀ cookie request result queue,
    (auth.isValidCookie cookie request).exec {} = (result, queue) →
      (∀ cookie', result ≠ .ok (true, cookie')) → queue.states = []

/-- Storing a value in the split cookies asks nobody. -/
theorem store_tokenCalls {α : Type} (server : Server) (options : ExtraAuthStorageOptions)
    (v : HeaderValue) {f : Unit → Proc Queue JsError α}
    (hf : ∀ u, Proc.Keeps Queue.tokenCalls (f u)) :
    ((ExtraStorage.store server options v >>= f).exec {}).2.tokenCalls = [] := by
  rw [Proc.Keeps.exec_bind hf]
  cases v <;> rfl

section Types

variable {server : Server} {environment : Environment}

theorem basic_framed : (BasicAuthentication server).Framed where
  getCookie _ _ := rfl
  getKeepAliveExpiry _ _ _ := rfl
  buildAuthHeaderFromCookie _ _ _ := rfl
  isValidCookie _ _ _ _ h _ := by cases h; rfl

theorem proxy_framed : (ProxyAuthentication server).Framed where
  getCookie _ _ := rfl
  getKeepAliveExpiry _ _ _ := rfl
  buildAuthHeaderFromCookie _ _ _ := rfl
  isValidCookie cookie request result queue h _ := by
    have hkeeps : Proc.Keeps Queue.states
        ((ProxyAuthentication server).isValidCookie cookie request) :=
      Proc.Keeps.bind (Proc.Keeps.ofExcept _) fun _ => Proc.Keeps.pure _
    have hstates := hkeeps {}
    rw [h] at hstates
    exact hstates

theorem saml_framed : (SamlAuthentication server).Framed where
  getCookie _ _ := store_tokenCalls server _ _ fun _ => Proc.Keeps.pure _
  getKeepAliveExpiry _ _ _ := rfl
  buildAuthHeaderFromCookie _ _ _ := rfl
  isValidCookie _ _ _ _ h _ := by cases h; rfl

theorem jwt_framed : (JwtAuthentication server).Framed where
  getCookie _ _ := store_tokenCalls server _ _ fun _ =>
    Proc.Keeps.bind (Proc.Keeps.ofExcept _) fun _ => Proc.Keeps.pure _
  getKeepAliveExpiry _ _ _ := rfl
  buildAuthHeaderFromCookie _ _ _ := rfl
  isValidCookie _ _ _ _ h _ := by cases h; rfl

/-! ### OpenID -/

open OpenIdAuthentication

variable {cookie : SecuritySessionCookie} {request : Request}

/-- How a renewal ends: with the new token stored, or with nothing stored. -/
theorem renew_cases {refresh_token : String} {result : Except JsError (Bool × SecuritySessionCookie)}
    {queue : Queue}
    (h : (renew server environment cookie request refresh_token).exec {} = (result, queue)) :
    (queue.states = [] ∧ ∀ cookie', result ≠ .ok (true, cookie')) ∨
      ∃ r idToken credentials,
        callTokenEndpoint environment.tokenEndpoint (query server refresh_token) = .ok r ∧
        r.idToken.filter (· != "") = some idToken ∧
        credentialsOf server request.now r = .ok credentials ∧
        result = .ok (true, { cookie with credentials := some credentials }) ∧
        queue.tokenCalls = [.ok r] ∧
        setExtraAuthStorage server.runtime [] (.str ("Bearer " ++ idToken))
          (getExtraAuthStorageOptions server) = .ok queue.states := by
  have hrefresh : (refresh server environment refresh_token).exec {} =
      (callTokenEndpoint environment.tokenEndpoint (query server refresh_token),
        { tokenCalls :=
            [callTokenEndpoint environment.tokenEndpoint (query server refresh_token)] }) := rfl
  rw [renew, Proc.exec_bind, hrefresh] at h
  cases hanswer : callTokenEndpoint environment.tokenEndpoint (query server refresh_token) with
  | error e =>
    rw [hanswer] at h
    cases h
    exact Or.inl ⟨rfl, fun cookie' h => by cases h⟩
  | ok r =>
    rw [hanswer] at h
    dsimp only at h
    cases hid : r.idToken.filter (· != "") with
    | none =>
      rw [hid] at h
      cases h
      exact Or.inl ⟨rfl, fun cookie' h => by cases h⟩
    | some idToken =>
      rw [hid] at h
      dsimp only at h
      rw [Proc.exec_bind, Proc.exec_ofExcept] at h
      cases hcredentials : credentialsOf server request.now r with
      | error e =>
        rw [hcredentials] at h
        cases h
        exact Or.inl ⟨rfl, fun cookie' h => by cases h⟩
      | ok credentials =>
        rw [hcredentials] at h
        dsimp only at h
        rw [Proc.exec_bind_of_ok (exec_store _ _)] at h
        cases h
        exact Or.inr ⟨r, idToken, credentials, rfl, hid, hcredentials, rfl, rfl, rfl⟩

/-- The three ways in which `isValidCookie` ends. -/
theorem openId_isValidCookie_cases {result : Except JsError (Bool × SecuritySessionCookie)}
    {queue : Queue}
    (h : ((OpenIdAuthentication server environment).isValidCookie cookie request).exec {} =
      (result, queue)) :
    (queue.states = [] ∧ ∀ cookie', result ≠ .ok (true, cookie')) ∨
      (result = .ok (true, cookie) ∧ queue = {} ∧ isFresh cookie request.now = true) ∨
      ∃ r idToken credentials, Renews server environment cookie request r idToken ∧
        credentialsOf server request.now r = .ok credentials ∧
        result = .ok (true, { cookie with credentials := some credentials }) ∧
        queue.tokenCalls = [.ok r] ∧
        setExtraAuthStorage server.runtime [] (.str ("Bearer " ++ idToken))
          (getExtraAuthStorageOptions server) = .ok queue.states := by
  have h' : (OpenIdAuthentication.isValidCookie server environment cookie request).exec {} =
      (result, queue) := h
  rw [OpenIdAuthentication.isValidCookie, Proc.exec_bind_of_ok (Proc.exec_get _)] at h'
  by_cases husable : isUsable server cookie request {} = true
  · rw [husable] at h'
    by_cases hfresh : isFresh cookie request.now = true
    · rw [hfresh] at h'
      cases h'
      exact Or.inr (Or.inl ⟨rfl, rfl, hfresh⟩)
    · rw [Bool.not_eq_true] at hfresh
      rw [hfresh] at h'
      cases hrefresh : (cookie.credentials.bind (·.refresh_token)).filter (· != "") with
      | none =>
        rw [hrefresh] at h'
        cases h'
        exact Or.inl ⟨rfl, fun cookie' h => by cases h⟩
      | some refresh_token =>
        rw [hrefresh] at h'
        simp only [Bool.not_true, Bool.false_eq_true, if_false] at h'
        rw [Proc.exec_bind, Proc.exec_attempt] at h'
        cases hrenew : (renew server environment cookie request refresh_token).exec {} with
        | mk outcome q =>
          rw [hrenew] at h'
          cases outcome with
          | error e =>
            cases h'
            rcases renew_cases hrenew with ⟨hstates, -⟩ | ⟨r, idToken, credentials, -, -, -, h, -⟩
            · exact Or.inl ⟨hstates, fun cookie' h => by cases h⟩
            · cases h
          | ok a =>
            cases h'
            rcases renew_cases hrenew with h | ⟨r, idToken, credentials, hanswer, hid, hread, hrest⟩
            · exact Or.inl h
            · exact Or.inr (Or.inr ⟨r, idToken, credentials,
                ⟨husable, hfresh, ⟨refresh_token, hrefresh, hanswer⟩, hid, ⟨credentials, hread⟩⟩,
                hread, hrest⟩)
  · rw [Bool.not_eq_true] at husable
    rw [husable] at h'
    cases h'
    exact Or.inl ⟨rfl, fun cookie' h => by cases h⟩

theorem openId_framed : (OpenIdAuthentication server environment).Framed where
  getCookie _ _ := store_tokenCalls server _ _ fun _ => Proc.Keeps.pure _
  getKeepAliveExpiry _ _ _ := rfl
  buildAuthHeaderFromCookie _ _ _ := rfl
  isValidCookie cookie request result queue h hno := by
    rcases openId_isValidCookie_cases h with ⟨hstates, -⟩ | ⟨hresult, -⟩ |
      ⟨r, idToken, credentials, -, -, hresult, -⟩
    · exact hstates
    · exact absurd hresult (hno _)
    · exact absurd hresult (hno _)

theorem handler_framed (authType : AuthType) : (authType.handler server environment).Framed := by
  cases authType with
  | basic => exact basic_framed
  | openId => exact openId_framed
  | saml => exact saml_framed
  | proxy => exact proxy_framed
  | jwt => exact jwt_framed

/-! ### Several types -/

theorem handlerOf_eq (authHandlers : List AuthType) :
    MultipleAuthentication.handlerOf server environment authHandlers (some cookie) =
      ((Scheme.multiple authHandlers).validatedBy server cookie).map
        (AuthType.handler server environment) := by
  unfold MultipleAuthentication.handlerOf Scheme.validatedBy
  cases h : cookie.authType.map server.runtime.toLowerCase <;> simp [h]

theorem multiple_framed (authHandlers : List AuthType) :
    (MultipleAuthentication server environment authHandlers).Framed where
  getCookie request authInfo := by
    change ((MultipleAuthentication.getCookie server environment authHandlers request
      authInfo).exec {}).2.tokenCalls = []
    unfold MultipleAuthentication.getCookie
    split
    · exact (handler_framed _).getCookie request authInfo
    · rfl
  getKeepAliveExpiry cookie request := by
    change Proc.Keeps id (MultipleAuthentication.getKeepAliveExpiry server environment authHandlers
      cookie request)
    rw [MultipleAuthentication.getKeepAliveExpiry, handlerOf_eq]
    cases (Scheme.multiple authHandlers).validatedBy server cookie with
    | some authType => exact (handler_framed authType).getKeepAliveExpiry cookie request
    | none => exact Proc.Keeps.pure _
  buildAuthHeaderFromCookie cookie request := by
    change Proc.Keeps id (MultipleAuthentication.buildAuthHeaderFromCookie server environment
      authHandlers cookie request)
    rw [MultipleAuthentication.buildAuthHeaderFromCookie, handlerOf_eq]
    cases (Scheme.multiple authHandlers).validatedBy server cookie with
    | some authType => exact (handler_framed authType).buildAuthHeaderFromCookie cookie request
    | none => exact Proc.Keeps.pure _
  isValidCookie cookie request result queue h hno := by
    change (MultipleAuthentication.isValidCookie server environment authHandlers cookie
      request).exec {} = (result, queue) at h
    rw [MultipleAuthentication.isValidCookie, handlerOf_eq] at h
    cases htype : (Scheme.multiple authHandlers).validatedBy server cookie with
    | some authType =>
      rw [htype] at h
      exact (handler_framed authType).isValidCookie cookie request result queue h hno
    | none =>
      rw [htype] at h
      cases h
      rfl

theorem scheme_framed (scheme : Scheme) : (scheme.authentication server environment).Framed := by
  cases scheme with
  | single authType => exact handler_framed authType
  | multiple authHandlers => exact multiple_framed authHandlers

/-- The methods that get a cookie are those of the type that the cookie names. -/
theorem scheme_methods {scheme : Scheme} {authType : AuthType}
    (h : scheme.validatedBy server cookie = some authType) :
    (scheme.authentication server environment).isValidCookie cookie request =
        (authType.handler server environment).isValidCookie cookie request ∧
      (scheme.authentication server environment).getKeepAliveExpiry cookie request =
        (authType.handler server environment).getKeepAliveExpiry cookie request ∧
      (scheme.authentication server environment).buildAuthHeaderFromCookie cookie request =
        (authType.handler server environment).buildAuthHeaderFromCookie cookie request := by
  cases scheme with
  | single t =>
    cases h
    exact ⟨rfl, rfl, rfl⟩
  | multiple authHandlers =>
    have hhandler : MultipleAuthentication.handlerOf server environment authHandlers (some cookie) =
        some (authType.handler server environment) := by
      rw [handlerOf_eq, h, Option.map_some]
    refine ⟨?_, ?_, ?_⟩
    · change MultipleAuthentication.isValidCookie server environment authHandlers _ _ = _
      rw [MultipleAuthentication.isValidCookie, hhandler]
    · change MultipleAuthentication.getKeepAliveExpiry server environment authHandlers _ _ = _
      rw [MultipleAuthentication.getKeepAliveExpiry, hhandler]
    · change MultipleAuthentication.buildAuthHeaderFromCookie server environment authHandlers _ _ =
        _
      rw [MultipleAuthentication.buildAuthHeaderFromCookie, hhandler]

/-- A cookie that no type validates is rejected. -/
theorem scheme_isValidCookie_none {scheme : Scheme}
    (h : scheme.validatedBy server cookie = none) :
    (scheme.authentication server environment).isValidCookie cookie request =
      pure (false, cookie) := by
  cases scheme with
  | single t => cases h
  | multiple authHandlers =>
    change MultipleAuthentication.isValidCookie server environment authHandlers _ _ = _
    rw [MultipleAuthentication.isValidCookie, handlerOf_eq, h, Option.map_none]

theorem accepts_pure {cookie' : SecuritySessionCookie} {isValid : Bool} {queue : Queue}
    (h : ((Except.ok (isValid, cookie) : Except JsError (Bool × SecuritySessionCookie)),
      ({} : Queue)) = (.ok (true, cookie'), queue)) : cookie' = cookie ∧ queue = {} := by
  simp only [Prod.mk.injEq, Except.ok.injEq] at h
  exact ⟨h.1.2.symm, h.2.symm⟩

/-- Only the OpenID type changes the cookie it accepts, and it does so when it renews the token. -/
theorem scheme_accepts_cases {scheme : Scheme} {cookie' : SecuritySessionCookie} {queue : Queue}
    (h : ((scheme.authentication server environment).isValidCookie cookie request).exec {} =
      (.ok (true, cookie'), queue)) :
    (cookie' = cookie ∧ queue = {}) ∨
      ∃ r idToken credentials, scheme.validatedBy server cookie = some .openId ∧
        Renews server environment cookie request r idToken ∧
        credentialsOf server request.now r = .ok credentials ∧
        cookie' = { cookie with credentials := some credentials } ∧
        queue.tokenCalls = [.ok r] ∧
        setExtraAuthStorage server.runtime [] (.str ("Bearer " ++ idToken))
          (getExtraAuthStorageOptions server) = .ok queue.states := by
  cases htype : scheme.validatedBy server cookie with
  | none =>
    rw [scheme_isValidCookie_none htype] at h
    cases h
  | some authType =>
    rw [(scheme_methods htype).1] at h
    cases authType with
    | basic => exact Or.inl (accepts_pure h)
    | saml => exact Or.inl (accepts_pure h)
    | jwt => exact Or.inl (accepts_pure h)
    | proxy =>
      obtain ⟨isValid, q, hvalid, hrest⟩ := Proc.exec_bind_ok h
      rw [Proc.exec_ofExcept, Prod.mk.injEq] at hvalid
      obtain ⟨-, rfl⟩ := hvalid
      exact Or.inl (accepts_pure hrest)
    | openId =>
      rcases openId_isValidCookie_cases h with ⟨-, hno⟩ | ⟨hresult, hqueue, -⟩ |
        ⟨r, idToken, credentials, hrenews, hread, hresult, hrest⟩
      · exact absurd rfl (hno cookie')
      · cases hresult
        exact Or.inl ⟨rfl, hqueue⟩
      · cases hresult
        exact Or.inr ⟨r, idToken, credentials, rfl, hrenews, hread, rfl, hrest⟩

end Types

/-! ## One request -/

/-- What goes back to the browser. -/
def World.cookies (w : World) : Queue × Option (Option SecuritySessionCookie) :=
  (w.queue, w.session)

theorem World.exec_setSession (cookie : SecuritySessionCookie) (w : World) :
    (World.setSession cookie).exec w = (.ok (), { w with session := some (some cookie) }) :=
  Proc.exec_update _ w

theorem World.exec_clearSession (w : World) :
    World.clearSession.exec w = (.ok (), { w with session := some none }) :=
  Proc.exec_update _ w

namespace AuthenticationType

variable {self : AuthenticationType} {server : Server} {environment : Environment}
  {request : Request}

theorem authinfo_keeps (headers : HeaderObject) :
    Proc.Keeps World.cookies (authinfo environment request headers) := fun _ => rfl

theorem dashboardsinfo_keeps (headers : HeaderObject) :
    Proc.Keeps World.cookies (dashboardsinfo environment request headers) := fun _ => rfl

theorem resolveTenant_keeps (cookie : SecuritySessionCookie) (headers : HeaderObject)
    (authInfo : Option AuthInfo) :
    Proc.Keeps World.cookies
      (resolveTenant server environment request cookie headers authInfo) := by
  have hauthInfo : Proc.Keeps World.cookies
      (tenantAuthInfo environment request headers authInfo) := by
    cases authInfo with
    | some authInfo => exact Proc.Keeps.pure _
    | none =>
      refine Proc.Keeps.bind (Proc.Keeps.attempt (authinfo_keeps headers)) fun r => ?_
      cases r with
      | ok authInfo => exact Proc.Keeps.pure _
      | error error => exact Proc.Keeps.throw _
  refine Proc.Keeps.bind hauthInfo fun authInfo => ?_
  refine Proc.Keeps.bind (dashboardsinfo_keeps headers) fun dashboardsInfo => ?_
  cases authInfo.tenants with
  | none => exact Proc.Keeps.throw _
  | some tenants => exact Proc.Keeps.ofExcept _

theorem finish_keeps (headers : HeaderObject) (authInfo : Option AuthInfo)
    (selectedTenant : Option String) :
    Proc.Keeps World.cookies (finish environment request headers authInfo selectedTenant) := by
  refine Proc.Keeps.bind ?_ fun _ => Proc.Keeps.pure _
  cases authInfo with
  | some authInfo => exact Proc.Keeps.pure _
  | none => exact authinfo_keeps headers

/-- How the end of `authHandler` changes the session cookie `cookie`. -/
inductive TenantEffect (cookie : SecuritySessionCookie) (result : Except JsError AuthResult)
    (w w' : World) : Prop where
  | same (hsession : w'.session = w.session)
  | cleared (hsession : w'.session = some none) (hrefused : isAuthenticated result = false)
  | set (tenant : String) (hsession : w'.session = some (some { cookie with tenant := some tenant }))

/-- With a tenant, the session cookie is written if it has another one. -/
theorem setTenant_effect {cookie : SecuritySessionCookie} {headers : HeaderObject} {tenant : String}
    {authInfo : Option AuthInfo} {w w₁ w' : World} {result : Except JsError AuthResult}
    (hsession : w₁.session = w.session)
    (h : (setTenant cookie tenant >>= fun _ =>
      finish environment request headers authInfo (some tenant)).exec w₁ = (result, w')) :
    w'.queue = w₁.queue ∧ TenantEffect cookie result w w' ∧
      (cookie.tenant ≠ some tenant → w'.session.isSome = true) := by
  have hfinish : Proc.Keeps World.cookies (finish environment request headers authInfo
      (some tenant)) := finish_keeps _ _ _
  unfold setTenant at h
  by_cases hsame : cookie.tenant = some tenant
  · rw [if_pos hsame, Proc.exec_bind_of_ok (Proc.exec_pure _ _)] at h
    have hkept := hfinish w₁
    rw [h] at hkept
    obtain ⟨hqueue', hsession'⟩ := Prod.mk.inj hkept
    exact ⟨hqueue', .same (hsession'.trans hsession), fun hchanges => absurd hsame hchanges⟩
  · rw [if_neg hsame, Proc.exec_bind_of_ok (World.exec_setSession _ _)] at h
    have hkept := hfinish { w₁ with
      session := some (some { cookie with tenant := some tenant }) }
    rw [h] at hkept
    obtain ⟨hqueue', hsession'⟩ := Prod.mk.inj hkept
    refine ⟨hqueue', .set tenant hsession', fun _ => ?_⟩
    rw [hsession']
    rfl

/-- What `withTenant` does to the cookies. If the tenant changes, the session cookie is written. -/
theorem withTenant_effect {cookie : SecuritySessionCookie} {headers : HeaderObject}
    {authInfo : Option AuthInfo} {w w' : World} {result : Except JsError AuthResult}
    (h : (self.withTenant server environment request cookie headers authInfo).exec w =
      (result, w')) :
    w'.queue = w.queue ∧ TenantEffect cookie result w w' ∧
      (server.config.multitenancy.enabled = true →
        TenantChanges request cookie
          ((resolveTenant server environment request cookie headers authInfo).exec w).1 →
        w'.session.isSome = true) := by
  unfold withTenant at h
  by_cases henabled : server.config.multitenancy.enabled = true
  · rw [if_pos henabled, Proc.exec_bind, Proc.exec_attempt] at h
    have hkeep : ((resolveTenant server environment request cookie headers authInfo).exec w).2.cookies
        = w.cookies := resolveTenant_keeps cookie headers authInfo w
    generalize (resolveTenant server environment request cookie headers authInfo).exec w = o
      at h hkeep ⊢
    obtain ⟨r, w₁⟩ := o
    obtain ⟨hqueue, hsession⟩ := Prod.mk.inj hkeep
    dsimp only at h hqueue hsession
    cases r with
    | error error =>
      cases error with
      | error message =>
        cases h
        exact ⟨hqueue, .same hsession, fun _ hchanges => absurd hchanges id⟩
      | unauthenticatedError message =>
        dsimp only at h
        by_cases hbundle : isBundleRequest request = true
        · rw [if_pos hbundle] at h
          cases h
          refine ⟨hqueue, .same hsession, fun _ hchanges => ?_⟩
          rw [TenantChanges, hbundle] at hchanges
          cases hchanges
        · rw [if_neg hbundle, Proc.exec_bind_of_ok (World.exec_clearSession _)] at h
          cases h
          exact ⟨hqueue, .cleared rfl rfl, fun _ _ => rfl⟩
    | ok tenant =>
      cases tenant with
      | none =>
        cases h
        exact ⟨hqueue, .same hsession, fun _ hchanges => absurd hchanges id⟩
      | some tenant =>
        obtain ⟨hqueue', heffect, hset⟩ := setTenant_effect hsession h
        exact ⟨hqueue'.trans hqueue, heffect, fun _ hchanges => hset hchanges⟩
  · rw [if_neg henabled] at h
    have hkept : ((finish environment request headers authInfo none).exec w).2.cookies =
        w.cookies := finish_keeps headers authInfo none w
    rw [h] at hkept
    obtain ⟨hqueue, hsession⟩ := Prod.mk.inj hkept
    exact ⟨hqueue, .same hsession, fun h => absurd h henabled⟩

/-- Of the world only the log of backend calls decides on the tenant, and of the cookie its
tenant. -/
theorem resolveTenant_congr {cookie cookie' : SecuritySessionCookie} {headers : HeaderObject}
    (w w' : World) (hcalls : w.calls = w'.calls) (htenant : cookie.tenant = cookie'.tenant) :
    ((resolveTenant server environment request cookie headers none).exec w).1 =
      ((resolveTenant server environment request cookie' headers none).exec w').1 := by
  have hselected : ∀ multitenancyEnabled defaultTenant,
      selectedTenantOf request cookie multitenancyEnabled defaultTenant =
        selectedTenantOf request cookie' multitenancyEnabled defaultTenant := by
    intro multitenancyEnabled defaultTenant
    simp only [selectedTenantOf, htenant]
  unfold resolveTenant tenantAuthInfo
  simp only [Proc.exec_bind, Proc.exec_attempt, exec_authinfo, hcalls]
  cases environment.authinfo w'.calls request headers with
  | error message => rfl
  | ok authInfo =>
    simp only [Except.mapError, Proc.exec_pure, exec_dashboardsinfo]
    cases environment.dashboardsinfo (.authinfo headers (.ok authInfo) :: w'.calls) request
      headers with
    | error message => rfl
    | ok dashboardsInfo =>
      cases htenants : authInfo.tenants with
      | none => rfl
      | some tenants =>
        simp only [Proc.exec_ofExcept, SecurityDashboards.resolveTenant, hselected]

theorem tenantWrites_congr {cookie cookie' : SecuritySessionCookie} {headers : HeaderObject}
    (htenant : cookie.tenant = cookie'.tenant)
    (h : TenantWrites server environment request cookie headers) :
    TenantWrites server environment request cookie' headers := by
  obtain ⟨henabled, hchanges⟩ := h
  rw [resolveTenant_congr {} {} rfl htenant] at hchanges
  refine ⟨henabled, ?_⟩
  generalize ((resolveTenant server environment request cookie' headers none).exec {}).1 = outcome
    at hchanges ⊢
  cases outcome with
  | ok tenant =>
    cases tenant with
    | none => exact hchanges
    | some tenant =>
      intro hsame
      exact hchanges (htenant.trans hsame)
  | error error => cases error <;> exact hchanges

/-- The three ways in which `keepAlive` ends. -/
theorem keepAlive_cases (hframed : self.Framed) {cookie : SecuritySessionCookie} {w w' : World}
    {result : Except JsError SecuritySessionCookie}
    (h : (self.keepAlive server cookie request).exec w = (result, w')) :
    (server.config.session.keepalive = false ∧ result = .ok cookie ∧ w' = w) ∨
      (server.config.session.keepalive = true ∧ w' = w ∧ ∃ e e', result = .error e ∧
        (self.getKeepAliveExpiry cookie request).exec w.queue = (.error e', w.queue)) ∨
      (server.config.session.keepalive = true ∧ ∃ expiryTime,
        (self.getKeepAliveExpiry cookie request).exec w.queue = (.ok expiryTime, w.queue) ∧
        result = .ok { cookie with expiryTime } ∧
        w' = { w with session := some (some { cookie with expiryTime }) }) := by
  unfold keepAlive at h
  by_cases hkeepalive : server.config.session.keepalive = true
  · rw [if_pos hkeepalive, Proc.exec_bind] at h
    have hqueue := hframed.getKeepAliveExpiry cookie request w.queue
    simp only [World.onQueue, Proc.exec_zoom] at h
    generalize (self.getKeepAliveExpiry cookie request).exec w.queue = o at h hqueue ⊢
    obtain ⟨r, queue⟩ := o
    obtain rfl : queue = w.queue := hqueue
    cases r with
    | error e =>
      cases h
      exact Or.inr (Or.inl ⟨hkeepalive, rfl, e, e, rfl, rfl⟩)
    | ok expiryTime =>
      cases h
      exact Or.inr (Or.inr ⟨hkeepalive, expiryTime, rfl, rfl, rfl⟩)
  · rw [if_neg hkeepalive] at h
    cases h
    exact Or.inl ⟨by simpa using hkeepalive, rfl, rfl⟩

theorem cookieHeaders_keeps (hframed : self.Framed) (cookie : SecuritySessionCookie) :
    Proc.Keeps id (self.cookieHeaders cookie request) := by
  refine Proc.Keeps.bind ?_ fun _ => Proc.Keeps.bind (Proc.Keeps.ofExcept _) fun _ =>
    Proc.Keeps.pure _
  intro w
  have hqueue := hframed.buildAuthHeaderFromCookie cookie request w.queue
  simp only [World.onQueue, Proc.exec_zoom, id] at hqueue ⊢
  rw [hqueue]

/-- What a request does to the session cookie after `isValidCookie` accepted it and left `cookie`
behind. -/
structure CookieEffect (auth : AuthenticationType) (server : Server) (environment : Environment)
    (request : Request) (cookie : SecuritySessionCookie) (result : Except JsError AuthResult)
    (w : World) : Prop where
  session : w.session = none ∨ (w.session = some none ∧ isAuthenticated result = false) ∨
    ∃ expiryTime tenant, w.session = some (some { cookie with expiryTime, tenant }) ∧
      (expiryTime = cookie.expiryTime ∨ server.config.session.keepalive = true ∧
        (auth.getKeepAliveExpiry cookie request).exec w.queue = (.ok expiryTime, w.queue))
  keepalive : server.config.session.keepalive = true →
    ∀ expiryTime, (auth.getKeepAliveExpiry cookie request).exec w.queue =
      (.ok expiryTime, w.queue) → w.session.isSome = true
  tenant : server.config.session.keepalive = false → ∀ headers,
    ((auth.cookieHeaders cookie request).exec { queue := w.queue }).1 = .ok headers →
      TenantWrites server environment request cookie headers → w.session.isSome = true

/-- The end of `authHandler`, from the world that `keepAlive` leaves. -/
theorem cookieHeaders_withTenant_effect (hframed : self.Framed) {cookie : SecuritySessionCookie}
    {w w' : World} {result : Except JsError AuthResult}
    (h : (self.cookieHeaders cookie request >>= fun headers =>
      self.withTenant server environment request cookie headers none).exec w = (result, w')) :
    w'.queue = w.queue ∧ TenantEffect cookie result w w' ∧
      (w.calls = [] → ∀ headers, ((self.cookieHeaders cookie request).exec w).1 = .ok headers →
        TenantWrites server environment request cookie headers → w'.session.isSome = true) := by
  rw [Proc.exec_bind] at h
  have hkeeps : ((self.cookieHeaders cookie request).exec w).2 = w :=
    cookieHeaders_keeps hframed cookie w
  generalize (self.cookieHeaders cookie request).exec w = o at h hkeeps ⊢
  obtain ⟨r, w₁⟩ := o
  obtain rfl : w₁ = w := hkeeps
  cases r with
  | error e =>
    cases h
    exact ⟨rfl, .same rfl, fun _ headers h => by cases h⟩
  | ok headers =>
    obtain ⟨hqueue, heffect, hchanges⟩ := withTenant_effect h
    refine ⟨hqueue, heffect, fun hcalls headers' h hwrites => ?_⟩
    cases h
    refine hchanges hwrites.1 ?_
    rw [resolveTenant_congr w₁ {} hcalls rfl]
    exact hwrites.2

theorem authenticateCookie_effect (hframed : self.Framed) {cookie cookie' : SecuritySessionCookie}
    {queue : Queue} {w : World} {result : Except JsError AuthResult}
    (hvalid : (self.isValidCookie cookie request).exec {} = (.ok (true, cookie'), queue))
    (h : (self.authenticateCookie server environment cookie request).exec {} = (result, w)) :
    w.queue = queue ∧ CookieEffect self server environment request cookie' result w := by
  have hqueue : (World.onQueue (self.isValidCookie cookie request)).exec {} =
      (.ok (true, cookie'), { queue }) := by
    simp only [World.onQueue, Proc.exec_zoom, hvalid]
  unfold authenticateCookie at h
  rw [Proc.exec_bind_of_ok hqueue] at h
  dsimp only [if_true] at h
  rw [if_pos rfl, Proc.exec_bind] at h
  cases hkeep : (self.keepAlive server cookie' request).exec { queue } with
  | mk r w₁ =>
    rw [hkeep] at h
    rcases keepAlive_cases hframed hkeep with ⟨hoff, rfl, rfl⟩ | ⟨hon, rfl, e, e', rfl, hfails⟩ |
      ⟨hon, expiryTime, hexpiry, rfl, rfl⟩
    · obtain ⟨hq, heffect, htenant⟩ := cookieHeaders_withTenant_effect hframed h
      refine ⟨hq, ⟨?_, fun hon => absurd (hoff.symm.trans hon) (by decide), ?_⟩⟩
      · rcases heffect with hs | ⟨hs, hno⟩ | ⟨tenant, hs⟩
        · exact Or.inl hs
        · exact Or.inr (Or.inl ⟨hs, hno⟩)
        · exact Or.inr (Or.inr ⟨cookie'.expiryTime, some tenant, hs, Or.inl rfl⟩)
      · intro _ headers hheaders hwrites
        rw [hq] at hheaders
        exact htenant rfl headers hheaders hwrites
    · cases h
      refine ⟨rfl, ⟨Or.inl rfl, fun _ expiryTime hexpiry => ?_,
        fun hoff => absurd (hon.symm.trans hoff) (by decide)⟩⟩
      rw [hfails] at hexpiry
      cases hexpiry
    · obtain ⟨hq, heffect, -⟩ := cookieHeaders_withTenant_effect hframed h
      have hset : w.session = some (some { cookie' with expiryTime }) ∨
          (w.session = some none ∧ isAuthenticated result = false) ∨
          ∃ tenant, w.session = some (some { cookie' with expiryTime, tenant }) := by
        rcases heffect with hs | ⟨hs, hno⟩ | ⟨tenant, hs⟩
        · exact Or.inl hs
        · exact Or.inr (Or.inl ⟨hs, hno⟩)
        · exact Or.inr (Or.inr ⟨some tenant, hs⟩)
      have hkept : server.config.session.keepalive = true ∧
          (self.getKeepAliveExpiry cookie' request).exec w.queue = (.ok expiryTime, w.queue) := by
        rw [hq]
        exact ⟨hon, hexpiry⟩
      refine ⟨hq, ⟨?_, fun _ _ _ => ?_, fun hoff => absurd (hon.symm.trans hoff) (by decide)⟩⟩
      · rcases hset with hs | hs | ⟨tenant, hs⟩
        · exact Or.inr (Or.inr ⟨expiryTime, cookie'.tenant, hs, Or.inr hkept⟩)
        · exact Or.inr (Or.inl hs)
        · exact Or.inr (Or.inr ⟨expiryTime, tenant, hs, Or.inr hkept⟩)
      · rcases hset with hs | ⟨hs, -⟩ | ⟨tenant, hs⟩ <;> rw [hs] <;> rfl

theorem keepTenant_eq (cookie : SecuritySessionCookie)
    (browserCookie : Option SecuritySessionCookie) :
    ∃ tenant, keepTenant cookie browserCookie = { cookie with tenant } := by
  unfold keepTenant
  split
  · exact ⟨_, rfl⟩
  · exact ⟨cookie.tenant, rfl⟩

theorem authenticateRequest_cases (hframed : self.Framed) {w : World}
    {result : Except JsError (SecuritySessionCookie × HeaderObject × AuthInfo)}
    (h : (self.authenticateRequest environment request).exec {} = (result, w)) :
    ((∃ e, result = .error e) ∧ w.session = none ∧ w.queue.tokenCalls = []) ∨
      ∃ authInfo cookie tenant headers,
        (self.getCookie request authInfo).exec {} = (.ok cookie, w.queue) ∧
        result = .ok ({ cookie with tenant }, headers, authInfo) ∧
        w.session = some (some { cookie with tenant }) ∧
        self.AcceptsLogin environment request authInfo := by
  unfold authenticateRequest at h
  rw [Proc.exec_bind, Proc.exec_ofExcept] at h
  cases hheader : self.getAdditionalAuthHeader request with
  | error e =>
    rw [hheader] at h
    cases h
    exact Or.inl ⟨⟨e, rfl⟩, rfl, rfl⟩
  | ok header =>
    rw [hheader] at h
    dsimp only at h
    rw [Proc.exec_bind, exec_authinfo] at h
    cases hanswer : environment.authinfo ({} : World).calls request header with
    | error message =>
      rw [hanswer] at h
      cases h
      exact Or.inl ⟨⟨_, rfl⟩, rfl, rfl⟩
    | ok authInfo =>
      rw [hanswer] at h
      dsimp only [Except.mapError] at h
      rw [Proc.exec_bind, World.onQueue, Proc.exec_zoom] at h
      have hcalls := hframed.getCookie request authInfo
      dsimp only at h
      generalize hmint : (self.getCookie request authInfo).exec {} = o at h hcalls
      obtain ⟨r, queue⟩ := o
      dsimp only at h hcalls
      cases r with
      | error e =>
        cases h
        exact Or.inl ⟨⟨e, rfl⟩, rfl, hcalls⟩
      | ok cookie =>
        dsimp only at h
        rw [Proc.exec_bind, Proc.exec_ofExcept] at h
        cases hsession : request.session with
        | error e =>
          rw [hsession] at h
          cases h
          exact Or.inl ⟨⟨e, rfl⟩, rfl, hcalls⟩
        | ok browserCookie =>
          rw [hsession] at h
          dsimp only at h
          obtain ⟨tenant, hkeep⟩ := keepTenant_eq cookie browserCookie
          rw [hkeep, Proc.exec_bind_of_ok (World.exec_setSession _ _)] at h
          cases h
          exact Or.inr ⟨authInfo, cookie, tenant, _, hmint, rfl, rfl, header, hheader, hanswer⟩

/-- What a request does to the cookies. -/
inductive Effect (self : AuthenticationType) (server : Server) (environment : Environment)
    (request : Request) (result : Except JsError AuthResult) (w : World) : Prop where
  | nothing (hstates : w.queue.states = []) (hsession : w.session = none)
  | failedLogin (hincl : self.requestIncludesAuthInfo request = true)
    (hstates : w.queue.states ≠ []) (hcalls : w.queue.tokenCalls = []) (hsession : w.session = none)
  | login (authInfo : AuthInfo) (cookie : SecuritySessionCookie) (tenant : Option String)
    (hmint : self.Mints request authInfo cookie w.queue)
    (hsession : w.session = some none ∨ w.session = some (some { cookie with tenant }))
    (haccepts : self.AcceptsLogin environment request authInfo)
  | cleared (hincl : self.requestIncludesAuthInfo request = false) (hstates : w.queue.states = [])
    (hsession : w.session = some none)
  | accepted (cookie cookie' : SecuritySessionCookie)
    (hrequired : authNotRequired server.config request = false)
    (hincl : self.requestIncludesAuthInfo request = false)
    (hread : request.session = .ok (some cookie))
    (hvalid : (self.isValidCookie cookie request).exec {} = (.ok (true, cookie'), w.queue))
    (heffect : CookieEffect self server environment request cookie' result w)

theorem rejectCookie_session (w : World) :
    ((self.rejectCookie request).exec w).2 = { w with session := some none } := rfl

/-- A cookie that is not accepted is cleared, unless the check fails. -/
theorem rejectedCookie_effect (hincl : self.requestIncludesAuthInfo request = false)
    {cookie : SecuritySessionCookie} {r : Except JsError (Bool × SecuritySessionCookie)}
    {queue : Queue} (hvalid : (self.isValidCookie cookie request).exec {} = (r, queue))
    (hstates : queue.states = []) (hrejected : ∀ cookie', r ≠ .ok (true, cookie'))
    {result : Except JsError AuthResult} {w : World}
    (h : (self.authenticateCookie server environment cookie request).exec {} = (result, w)) :
    Effect self server environment request result w := by
  unfold authenticateCookie at h
  rw [Proc.exec_bind, World.onQueue, Proc.exec_zoom] at h
  dsimp only at h
  rw [hvalid] at h
  cases r with
  | error e =>
    cases h
    exact .nothing hstates rfl
  | ok a =>
    obtain ⟨isValid, cookie'⟩ := a
    cases isValid with
    | true => exact absurd rfl (hrejected cookie')
    | false =>
      cases h
      exact .cleared hincl hstates rfl

/-- The path of a request with authentication data of its own. -/
theorem headerPath_effect (hframed : self.Framed)
    (hrequired : authNotRequired server.config request = false)
    (hincl : self.requestIncludesAuthInfo request = true)
    {result : Except JsError AuthResult} {w : World}
    (h : (self.authHandler server environment request).exec {} = (result, w)) :
    Effect self server environment request result w := by
  unfold authHandler at h
  rw [hrequired, if_neg Bool.false_ne_true, if_pos hincl, Proc.exec_bind, Proc.exec_attempt] at h
  cases hlogin : (self.authenticateRequest environment request).exec {} with
  | mk r w₁ =>
    rw [hlogin] at h
    dsimp only at h
    rcases authenticateRequest_cases hframed hlogin with ⟨⟨e, rfl⟩, hsession, hcalls⟩ |
      ⟨authInfo, cookie, tenant, headers, hmint, rfl, hsession, haccepts⟩
    · cases h
      by_cases hstates : w.queue.states = []
      · exact .nothing hstates hsession
      · exact .failedLogin hincl hstates hcalls hsession
    · obtain ⟨hqueue, heffect, -⟩ := withTenant_effect h
      rw [← hqueue] at hmint
      rcases heffect with hs | ⟨hs, -⟩ | ⟨tenant', hs⟩
      · exact .login authInfo cookie tenant ⟨hincl, hmint⟩ (Or.inr (hs.trans hsession)) haccepts
      · exact .login authInfo cookie tenant ⟨hincl, hmint⟩ (Or.inl hs) haccepts
      · exact .login authInfo cookie (some tenant') ⟨hincl, hmint⟩ (Or.inr hs) haccepts

/-- The path of a request that has the session cookie only. -/
theorem cookiePath_effect (hframed : self.Framed)
    (hrequired : authNotRequired server.config request = false)
    (hincl : self.requestIncludesAuthInfo request = false)
    {result : Except JsError AuthResult} {w : World}
    (h : (self.authHandler server environment request).exec {} = (result, w)) :
    Effect self server environment request result w := by
  unfold authHandler at h
  rw [hrequired, if_neg Bool.false_ne_true, hincl, if_neg Bool.false_ne_true] at h
  cases hread : request.session.toOption.join with
  | none =>
    rw [hread] at h
    have hw : ((self.rejectCookie request).exec {}).2 = { session := some none } :=
      rejectCookie_session {}
    dsimp only at h
    rw [h] at hw
    exact .cleared hincl (congrArg (fun w => w.queue.states) hw) (congrArg World.session hw)
  | some cookie =>
    rw [hread] at h
    dsimp only at h
    have hsession : request.session = .ok (some cookie) := by
      cases hs : request.session with
      | error e => rw [hs] at hread; cases hread
      | ok o => rw [hs] at hread; exact congrArg Except.ok hread
    cases hvalid : (self.isValidCookie cookie request).exec {} with
    | mk r queue =>
      by_cases haccepted : ∃ cookie', r = .ok (true, cookie')
      · obtain ⟨cookie', rfl⟩ := haccepted
        obtain ⟨rfl, heffect⟩ := authenticateCookie_effect hframed hvalid h
        exact .accepted cookie cookie' hrequired hincl hsession hvalid heffect
      · have hrejected : ∀ cookie', r ≠ .ok (true, cookie') := fun cookie' h =>
          haccepted ⟨cookie', h⟩
        exact rejectedCookie_effect hincl hvalid
          (hframed.isValidCookie cookie request r queue hvalid hrejected) hrejected h

theorem authHandler_effect (hframed : self.Framed) {result : Except JsError AuthResult} {w : World}
    (h : (self.authHandler server environment request).exec {} = (result, w)) :
    Effect self server environment request result w := by
  cases hrequired : authNotRequired server.config request with
  | true =>
    unfold authHandler at h
    rw [hrequired, if_pos rfl] at h
    cases h
    exact .nothing rfl rfl
  | false =>
    cases hincl : self.requestIncludesAuthInfo request with
    | true => exact headerPath_effect hframed hrequired hincl h
    | false => exact cookiePath_effect hframed hrequired hincl h

end AuthenticationType

/-! ## The browser after a request -/

theorem writes_of_states {w : World} (h : w.queue.states ≠ []) : w.writes = true := by
  cases hstates : w.queue.states with
  | nil => exact absurd hstates h
  | cons state states => simp [World.writes, hstates]

theorem writes_of_session {w : World} (h : w.session.isSome = true) : w.writes = true := by
  rw [World.writes, h, Bool.or_true]

/-- Without new split cookies the browser keeps those it has. -/
theorem after_split {browser : Browser} {w : World} (h : w.queue.states = []) :
    (browser.after w).split = browser.split := by
  unfold Browser.after Browser.applyStates
  rw [h]
  rfl

/-- A session cookie of the browser is the one it had or the one that was written. -/
theorem after_session {browser : Browser} {w : World} {cookie : SecuritySessionCookie}
    (h : (browser.after w).session = some cookie) :
    (w.session = none ∧ browser.session = some cookie) ∨
      ∃ written, w.session = some (some written) ∧ cookie = written.stored := by
  unfold Browser.after at h
  cases hw : w.session with
  | none =>
    rw [hw] at h
    exact Or.inl ⟨rfl, h⟩
  | some session =>
    rw [hw] at h
    cases session with
    | none => cases h
    | some written =>
      cases h
      exact Or.inr ⟨written, rfl, rfl⟩

/-- The session storage reads the browser's cookie if that passes its validation. -/
theorem session_read_iff {request : Request} {cookie : SecuritySessionCookie} :
    request.session = .ok (some cookie) ↔ request.storageError = none ∧
      request.cookies.session = some cookie ∧ cookie.validate request.now = true := by
  unfold Request.session
  cases request.storageError with
  | some message => simp
  | none => simp [Option.filter_eq_some_iff]

theorem session_of_read {request : Request} {cookie : SecuritySessionCookie}
    (h : request.session = .ok (some cookie)) : request.cookies.session = some cookie :=
  (session_read_iff.mp h).2.1

theorem session_of_request {v : Visit} {s : History} {cookie : SecuritySessionCookie}
    (h : (v.sent s).session = .ok (some cookie)) : s.browser.session = some cookie :=
  session_of_read h

end SecurityDashboards
