import SecurityDashboards.Proofs.SessionWritesProofs
import SecurityDashboards.Proofs.SessionsProofs
import SecurityDashboards.SessionLifecycle

/-!
# Proofs: the session cookie from login to logout

Every route writes cookies of one of two shapes, pending logins and bounded sessions, and only the
latter authenticate. OpenID sessions come from logins that this browser started.
-/

namespace SecurityDashboards

/-! ## Expiry times -/

section Expiry

variable {server : Server} {environment : Environment} {request : Request}

theorem ExpClaim.number_of_truthy {exp : ExpClaim} (h : exp.IsNumeric) (htruthy : exp.truthy = true) :
    ∃ q, exp = .num q := by
  cases exp with
  | absent => cases htruthy
  | num q => exact ⟨q, rfl⟩
  | other truthy number => exact h.elim

theorem getExpirationDate_isSome {runtime : Runtime} {header : HeaderValue}
    (hnumeric : NumericToken runtime header) {defaultExpiry : ℚ} {expiryTime : Option ℚ}
    (h : getExpirationDate runtime header defaultExpiry = .ok expiryTime) :
    expiryTime.isSome = true := by
  unfold getExpirationDate at h
  split at h
  · cases h
    rfl
  · cases h
  · split at h
    · split at h
      · rename_i hsplit
        split at h
        · cases h
        · rename_i exp hexp
          have hexpNumeric := hnumeric _ _ _ _ _ rfl hsplit hexp
          split at h
          · rename_i htruthy
            obtain ⟨q, rfl⟩ := ExpClaim.number_of_truthy hexpNumeric htruthy
            cases h
            rfl
          · cases h
            rfl
      · cases h
        rfl
    · cases h
      rfl

theorem expiryTimeOf_isSome {setup : RouteSetup} {now : ℕ} {authorization : String}
    {expiryTime : Option ℚ}
    (hnumeric : ∀ payload exp, (Js.split authorization '.')[1]? = some payload →
      setup.server.runtime.payloadExp payload = .ok exp → exp.IsNumeric)
    (h : SamlAuthRoutes.expiryTimeOf setup now authorization = .ok expiryTime) :
    expiryTime.isSome = true := by
  unfold SamlAuthRoutes.expiryTimeOf at h
  split at h
  · cases h
  · rename_i payload hpayload
    split at h
    · cases h
    · rename_i exp hexp
      split at h
      · rename_i htruthy
        obtain ⟨q, rfl⟩ := ExpClaim.number_of_truthy (hnumeric _ _ hpayload hexp) htruthy
        cases h
        rw [Option.isSome_map]
        exact ExpClaim.isSome_parseInt_num _ q
      · cases h
        rfl

end Expiry

/-! ## Plain routes -/

section Plain

variable {setup : RouteSetup} {request : Request}

theorem openIdLogin_callback {nonce : String}
    (h : truthyString (request.url.queryString "code") = true) :
    OpenIdAuthRoutes.login setup nonce request = OpenIdAuthRoutes.callback setup request :=
  if_pos h

theorem openIdLogin_start {nonce : String}
    (h : ¬ truthyString (request.url.queryString "code") = true) :
    OpenIdAuthRoutes.login setup nonce request = OpenIdAuthRoutes.startLogin setup nonce request :=
  if_neg h

/-- Every SAML session that the backend's tokens allow for ends at some time. -/
def SamlBounded (setup : RouteSetup) (request : Request) : Prop :=
  ∀ body authorization expiryTime, setup.authToken body = .ok (some authorization) →
    SamlAuthRoutes.expiryTimeOf setup request.now authorization = .ok expiryTime →
    expiryTime.isSome = true

/-- The cookies that a plain route writes. -/
inductive PlainRoute.Written (setup : RouteSetup) (request : Request) (route : PlainRoute)
    (cookie : SecuritySessionCookie) : Prop where
  | session (hlogin : cookie.NoLogin)
    (hexpiry : SamlBounded setup request → cookie.expiryTime.isSome = true)
  | samlLogin (hpending : cookie.Pending) (hoidc : cookie.oidc = none)
  | openIdLogin (nonce : String) (hroute : route = .openIdLogin nonce)
    (hstart : ¬ truthyString (request.url.queryString "code") = true)
    (hawaits : cookie.Awaits nonce)

theorem PlainRoute.Written.of_bounded {route : PlainRoute} {cookie : SecuritySessionCookie}
    (h : cookie.Bounded) : route.Written setup request cookie :=
  .session h.1 fun _ => h.2

theorem PlainRoute.writes (route : PlainRoute) :
    Writes (route.Written setup request) (route.handler setup request) := by
  have hsession : ∀ (route : PlainRoute) body, Writes (route.Written setup request)
      (SamlAuthRoutes.startSession setup request body) := fun route body =>
    Writes.startSession body fun authorization expiryTime htoken h username =>
      .session ⟨rfl, rfl⟩ fun hbounded => hbounded body authorization expiryTime htoken h
  cases route with
  | loginPage => exact Writes.clearing _
  | basicLogin username password =>
    exact (Writes.basicLogin username password).mono fun _ => .of_bounded
  | basicLogout => exact Writes.clearing _
  | anonymousLogin => exact Writes.anonymousLogin.mono fun _ => .of_bounded
  | openIdLogin nonce =>
    by_cases hcode : truthyString (request.url.queryString "code") = true
    · rw [handler, openIdLogin_callback hcode]
      exact Writes.callback.mono fun _ => .of_bounded
    · rw [handler, openIdLogin_start hcode]
      exact (Writes.startLogin nonce).mono fun _ h => .openIdLogin nonce rfl hcode h
  | openIdCapture => exact Writes.clearing _
  | samlLogin isAuthenticated =>
    exact (Writes.samlLogin isAuthenticated).mono fun _ h => .samlLogin h.1 h.2
  | samlAcs samlResponse => exact Writes.acs samlResponse fun body _ => hsession _ body
  | samlIdpInitiated samlResponse => exact Writes.idpInitiated samlResponse fun body _ => hsession _ body
  | samlCapture => exact Writes.clearing _
  | jwtLogout => exact Writes.jwtLogout

/-- A guarded route writes the cookie that the session storage reads, with another tenant. -/
theorem GuardedRoute.writes (route : GuardedRoute) {P : SecuritySessionCookie → Prop}
    {cookie : Except JsError (Option SecuritySessionCookie)}
    (hP : ∀ read tenant, cookie = .ok (some read) → P { read with tenant := some tenant }) :
    Writes P (route.handler setup request cookie) := by
  cases route with
  | postTenant tenant =>
    refine Writes.ofExcept_bind fun read hread => ?_
    cases read with
    | none => exact Writes.bind (Writes.pure _) fun _ => Writes.pure _
    | some read =>
      exact Writes.bind (Writes.bind (Writes.setSession (hP read tenant hread)) fun _ =>
        Writes.pure _) fun _ => Writes.pure _
  | openIdLogout => exact Writes.bind Writes.openIdLogout fun _ => Writes.pure _
  | samlLogout => exact Writes.bind Writes.samlLogout fun _ => Writes.pure _
  | proxyLogout => exact Writes.bind (Writes.clearing _) fun _ => Writes.pure _
  | other => exact Writes.pure _

end Plain

/-! ## `authHandler` -/

section Handler

variable {server : Server} {environment : Environment} {scheme : Scheme} {request : Request}
  {authInfo : AuthInfo} {cookie : SecuritySessionCookie} {queue : Queue}

/-- The cookies that a type mints are bounded; for a JWT, as far as its token is. -/
theorem handler_mints {authType : AuthType}
    (h : (authType.handler server environment).Mints request authInfo cookie queue) :
    cookie.NoLogin ∧
      (NumericToken server.runtime (JwtAuthentication.getBearerToken server request) →
        cookie.expiryTime.isSome = true) := by
  obtain ⟨-, h⟩ := h
  cases authType with
  | basic =>
    have hcookie : BasicAuthentication.getCookie server request authInfo = cookie := by
      cases h
      rfl
    rw [← hcookie, BasicAuthentication.getCookie]
    split_ifs
    · exact ⟨⟨rfl, rfl⟩, fun _ => rfl⟩
    · exact ⟨⟨rfl, rfl⟩, fun _ => rfl⟩
  | openId =>
    obtain ⟨_, _, -, h⟩ := Proc.exec_bind_ok h
    cases h
    exact ⟨⟨rfl, rfl⟩, fun _ => rfl⟩
  | saml =>
    obtain ⟨_, _, -, h⟩ := Proc.exec_bind_ok h
    cases h
    exact ⟨⟨rfl, rfl⟩, fun _ => rfl⟩
  | proxy =>
    cases h
    exact ⟨⟨rfl, rfl⟩, fun _ => rfl⟩
  | jwt =>
    obtain ⟨-, expiryTime, hexpiry, rfl⟩ := jwt_getCookie_ok h
    exact ⟨⟨rfl, rfl⟩, fun hnumeric => getExpirationDate_isSome hnumeric hexpiry⟩

/-- The same for a server of several types; a request that none of them claims would get an empty
cookie. -/
theorem scheme_mints
    (h : (scheme.authentication server environment).Mints request authInfo cookie queue) :
    cookie.NoLogin ∧
      ((NumericToken server.runtime (JwtAuthentication.getBearerToken server request) →
        cookie.expiryTime.isSome = true) ∨ cookie.Pending) := by
  cases scheme with
  | single authType =>
    obtain ⟨hlogin, hexpiry⟩ := handler_mints h
    exact ⟨hlogin, Or.inl hexpiry⟩
  | multiple authHandlers =>
    cases hby : MultipleAuthentication.claimant server environment authHandlers request with
    | some authType =>
      obtain ⟨hlogin, hexpiry⟩ := handler_mints (mints_of_claimant hby h).2
      exact ⟨hlogin, Or.inl hexpiry⟩
    | none =>
      have hmint : (MultipleAuthentication.getCookie server environment authHandlers request
          authInfo).exec {} = (.ok cookie, queue) := h.2
      rw [MultipleAuthentication.getCookie, hby] at hmint
      cases hmint
      exact ⟨⟨rfl, rfl⟩, Or.inr ⟨rfl, rfl⟩⟩

/-! ### Stored cookies -/

theorem isValid_of_accepted {cookie' : SecuritySessionCookie} {isValid : Bool}
    (h : ((Except.ok (isValid, cookie) : Except JsError (Bool × SecuritySessionCookie)),
      ({} : Queue)) = (.ok (true, cookie'), queue)) : isValid = true :=
  (Prod.mk.inj (Except.ok.inj (Prod.mk.inj h).1)).1

/-- The cookie of a pending login names no user. -/
theorem not_pending_of_username (h : truthyString cookie.username = true) : ¬ cookie.Pending := by
  rintro ⟨huser, -⟩
  rw [huser] at h
  cases h

/-- A type accepts cookies of its own name, and none of a pending login. -/
theorem handler_accepts {authType : AuthType} {cookie' : SecuritySessionCookie}
    (h : ((authType.handler server environment).isValidCookie cookie request).exec {} =
      (.ok (true, cookie'), queue)) :
    cookie.authType = some authType.key ∧ ¬ cookie.Pending := by
  cases authType with
  | basic =>
    have hvalid : BasicAuthentication.isValidCookie server cookie = true := isValid_of_accepted h
    simp only [BasicAuthentication.isValidCookie, Bool.and_eq_true, Bool.or_eq_true,
      beq_iff_eq] at hvalid
    refine ⟨hvalid.1.1, ?_⟩
    rintro ⟨huser, hanonymous⟩
    rw [huser, hanonymous] at hvalid
    rcases hvalid.2 with huser | hanonymous
    · cases huser.1
    · cases hanonymous.2
  | openId =>
    have husable : OpenIdAuthentication.isUsable server cookie request {} = true := by
      obtain ⟨queue', _, hqueue, h⟩ := Proc.exec_bind_ok h
      cases hqueue
      cases husable : OpenIdAuthentication.isUsable server cookie request {} with
      | true => rfl
      | false =>
        rw [husable] at h
        cases h
    simp only [OpenIdAuthentication.isUsable, Bool.and_eq_true, beq_iff_eq] at husable
    exact ⟨husable.1.1.1, not_pending_of_username husable.1.1.2⟩
  | saml =>
    have hvalid : SamlAuthentication.isValidCookie server cookie request {} = true :=
      isValid_of_accepted h
    simp only [SamlAuthentication.isValidCookie, Bool.and_eq_true, beq_iff_eq] at hvalid
    exact ⟨hvalid.1.1.1, not_pending_of_username hvalid.1.1.2⟩
  | proxy =>
    obtain ⟨isValid, _, hvalid, h⟩ := Proc.exec_bind_ok h
    cases h
    have hvalid : ProxyAuthentication.isValidCookie server cookie = .ok true :=
      congrArg Prod.fst hvalid
    unfold ProxyAuthentication.isValidCookie at hvalid
    split at hvalid
    · rename_i hcookie
      simp only [Bool.and_eq_true, beq_iff_eq] at hcookie
      exact ⟨hcookie.1.1, not_pending_of_username hcookie.1.2⟩
    · cases hvalid
  | jwt =>
    have hvalid : JwtAuthentication.isValidCookie server cookie request {} = true :=
      isValid_of_accepted h
    simp only [JwtAuthentication.isValidCookie, Bool.and_eq_true, beq_iff_eq] at hvalid
    exact ⟨hvalid.1.1.1, not_pending_of_username hvalid.1.1.2⟩

/-- The same for a server of several types. -/
theorem scheme_accepts {cookie' : SecuritySessionCookie}
    (h : ((scheme.authentication server environment).isValidCookie cookie request).exec {} =
      (.ok (true, cookie'), queue)) :
    (∃ authType, scheme.validatedBy server cookie = some authType ∧
      cookie.authType = some authType.key) ∧ ¬ cookie.Pending := by
  cases htype : scheme.validatedBy server cookie with
  | none =>
    rw [scheme_isValidCookie_none htype] at h
    cases h
  | some authType =>
    rw [(scheme_methods htype).1] at h
    obtain ⟨hkey, hlogin⟩ := handler_accepts h
    exact ⟨⟨authType, rfl, hkey⟩, hlogin⟩

/-- The cookie that the OpenID type gives back with its answer. -/
theorem openId_credentials (cookie : SecuritySessionCookie) :
    Proc.Triple (fun _ => True)
      (OpenIdAuthentication.isValidCookie server environment cookie request)
      (fun r _ => ∃ credentials, r.2 = { cookie with credentials }) fun _ _ => True := by
  have hsame : ∃ credentials, cookie = { cookie with credentials } := ⟨cookie.credentials, rfl⟩
  have hrenew : ∀ refresh_token, Proc.Triple (fun _ => True)
      (OpenIdAuthentication.renew server environment cookie request refresh_token)
      (fun r _ => ∃ credentials, r.2 = { cookie with credentials }) fun _ _ => True := by
    intro refresh_token
    refine Proc.Triple.bind (Proc.Triple.any _ _) fun tokenResponse => ?_
    cases tokenResponse.idToken.filter (· != "") with
    | none => exact Proc.Triple.pure fun _ _ => hsame
    | some idToken =>
      refine Proc.Triple.bind (Proc.Triple.any _ _) fun credentials => ?_
      exact Proc.Triple.bind (Proc.Triple.any _ _) fun _ =>
        Proc.Triple.pure fun _ _ => ⟨some credentials, rfl⟩
  refine Proc.Triple.bind (Proc.Triple.any _ _) fun queue' => ?_
  split_ifs
  · exact Proc.Triple.pure fun _ _ => hsame
  · exact Proc.Triple.pure fun _ _ => hsame
  · cases (cookie.credentials.bind (·.refresh_token)).filter (· != "") with
    | none => exact Proc.Triple.pure fun _ _ => hsame
    | some refresh_token =>
      refine Proc.Triple.bind (R := fun r _ => ∀ a, r = Except.ok a →
        ∃ credentials, a.2 = { cookie with credentials }) (Proc.Triple.attempt
          ((hrenew refresh_token).conseq (fun _ h => h) (fun r _ h a ha => Except.ok.inj ha ▸ h)
            fun _ _ _ a ha => (by cases ha))) fun r => ?_
      cases r with
      | ok result => exact Proc.Triple.pure fun _ h => h result rfl
      | error error => exact Proc.Triple.pure fun _ _ => hsame

/-- `isValidCookie` changes nothing but the credentials of the cookie. -/
theorem valid_credentials {isValid : Bool} {cookie' : SecuritySessionCookie}
    (h : ((scheme.authentication server environment).isValidCookie cookie request).exec {} =
      (.ok (isValid, cookie'), queue)) : ∃ credentials, cookie' = { cookie with credentials } := by
  have hsame : ∀ {isValid' : Bool} {queue' : Queue},
      ((.ok (isValid', cookie) : Except JsError (Bool × SecuritySessionCookie)), queue') =
        (.ok (isValid, cookie'), queue) → ∃ credentials, cookie' = { cookie with credentials } := by
    intro isValid' queue' hpair
    cases hpair
    exact ⟨cookie.credentials, rfl⟩
  cases htype : scheme.validatedBy server cookie with
  | none =>
    rw [scheme_isValidCookie_none htype] at h
    exact hsame h
  | some authType =>
    rw [(scheme_methods htype).1] at h
    cases authType with
    | basic => exact hsame h
    | saml => exact hsame h
    | jwt => exact hsame h
    | proxy =>
      obtain ⟨isValid', q, -, hrest⟩ := Proc.exec_bind_ok h
      exact hsame hrest
    | openId => exact (openId_credentials cookie).ok trivial h

/-- The type that validates a cookie does not depend on its credentials. -/
theorem validatedBy_credentials (credentials : Option Credentials) :
    scheme.validatedBy server { cookie with credentials } = scheme.validatedBy server cookie := by
  cases scheme <;> rfl

/-- Keeping a session alive gives it an expiry time; for a JWT, as far as its token has one. -/
theorem keepAliveExpiry_isSome {cookie' : SecuritySessionCookie} {queue' : Queue}
    {expiryTime : Option ℚ}
    (hvalid : ((scheme.authentication server environment).isValidCookie cookie request).exec {} =
      (.ok (true, cookie'), queue))
    (hbounded : cookie.expiryTime.isSome = true)
    (hnumeric : cookie.authType = some JWT → ∀ headers,
      JwtAuthentication.buildAuthHeaderFromCookie server cookie request {} = .ok headers →
        NumericToken server.runtime (headers.get (JwtAuthentication.authHeaderName server)))
    (h : ((scheme.authentication server environment).getKeepAliveExpiry cookie' request).exec
      queue = (.ok expiryTime, queue')) : expiryTime.isSome = true := by
  obtain ⟨credentials, rfl⟩ := valid_credentials hvalid
  obtain ⟨⟨authType, htype, hauthType⟩, -⟩ := scheme_accepts hvalid
  rw [(scheme_methods htype).1] at hvalid
  rw [(scheme_methods ((validatedBy_credentials credentials).trans htype)).2.1] at h
  cases authType with
  | basic => cases h; rfl
  | openId => cases h; rfl
  | proxy => cases h; rfl
  | saml => cases h; exact hbounded
  | jwt =>
    obtain ⟨hsame, rfl⟩ := accepts_pure hvalid
    have hexpiry : JwtAuthentication.getKeepAliveExpiry server cookie request {} =
        .ok expiryTime := by
      rw [← hsame]
      exact congrArg Prod.fst h
    unfold JwtAuthentication.getKeepAliveExpiry at hexpiry
    cases hheaders : JwtAuthentication.buildAuthHeaderFromCookie server cookie request {} with
    | error e =>
      rw [hheaders] at hexpiry
      cases hexpiry
    | ok headers =>
      rw [hheaders] at hexpiry
      exact getExpirationDate_isSome (hnumeric hauthType headers hheaders) hexpiry

/-- The session cookies that `authHandler` writes: one that was minted for the request, or the stored
one that it accepted. -/
inductive HandlerWritten (server : Server) (environment : Environment) (scheme : Scheme)
    (request : Request) (cookie : SecuritySessionCookie) : Prop where
  | minted (authInfo : AuthInfo) (minted : SecuritySessionCookie) (queue : Queue)
    (tenant : Option String)
    (hmint : (scheme.authentication server environment).Mints request authInfo minted queue)
    (haccepts : (scheme.authentication server environment).AcceptsLogin environment request authInfo)
    (hcookie : cookie = { minted with tenant })
  | kept (stored accepted : SecuritySessionCookie) (queue : Queue) (expiryTime : Option ℚ)
    (tenant : Option String)
    (hincl : (scheme.authentication server environment).requestIncludesAuthInfo request = false)
    (hread : request.session = .ok (some stored))
    (hvalid : ((scheme.authentication server environment).isValidCookie stored request).exec {} =
      (.ok (true, accepted), queue))
    (hexpiry : expiryTime = accepted.expiryTime ∨
      ((scheme.authentication server environment).getKeepAliveExpiry accepted request).exec queue =
        (.ok expiryTime, queue))
    (hcookie : cookie = { accepted with expiryTime, tenant })

theorem authHandler_written {result : Except JsError AuthResult} {w : World}
    (h : ((scheme.authentication server environment).authHandler server environment request).exec
      {} = (result, w)) (hcookie : w.session = some (some cookie)) :
    HandlerWritten server environment scheme request cookie := by
  cases AuthenticationType.authHandler_effect (scheme_framed scheme) h with
  | nothing hstates hsession => exact absurd (hsession.symm.trans hcookie) (by simp)
  | failedLogin hincl hstates hcalls hsession =>
    exact absurd (hsession.symm.trans hcookie) (by simp)
  | login authInfo minted tenant hmint hsession haccepts =>
    rcases hsession with hs | hs
    · exact absurd (hs.symm.trans hcookie) (by simp)
    · exact .minted authInfo minted w.queue tenant hmint haccepts
        (Option.some.inj (Option.some.inj (hcookie.symm.trans hs)))
  | cleared hincl hstates hsession => exact absurd (hsession.symm.trans hcookie) (by simp)
  | accepted stored accepted hrequired hincl hread hvalid heffect =>
    rcases heffect.session with hs | ⟨hs, -⟩ | ⟨expiryTime, tenant, hs, hexpiry⟩
    · exact absurd (hs.symm.trans hcookie) (by simp)
    · exact absurd (hs.symm.trans hcookie) (by simp)
    · exact .kept stored accepted w.queue expiryTime tenant hincl hread hvalid
        (hexpiry.imp id fun h => h.2)
        (Option.some.inj (Option.some.inj (hcookie.symm.trans hs)))

/-- What the session storage reads after `authHandler` is the stored cookie up to its credentials, or
what `authHandler` wrote. -/
theorem sessionAfter_cases {w : World} {read : SecuritySessionCookie}
    (h : (scheme.authentication server environment).sessionAfter server request w =
      .ok (some read)) :
    ∃ stored, request.session = .ok (some stored) ∧
      ((∃ credentials, read = { stored with credentials }) ∨ w.session = some (some read)) := by
  unfold AuthenticationType.sessionAfter at h
  cases hsession : request.session with
  | error e =>
    rw [hsession] at h
    cases h
  | ok o =>
    rw [hsession] at h
    obtain ⟨hmap, -⟩ := Option.filter_eq_some_iff.mp (Except.ok.inj h)
    obtain ⟨stored, rfl, hread⟩ := Option.map_eq_some_iff.mp hmap
    refine ⟨stored, rfl, ?_⟩
    split at hread
    · exact Or.inl ⟨stored.credentials, hread.symm⟩
    · split at hread
      · rename_i written hw
        exact Or.inr (hread ▸ hw)
      · refine Or.inl ?_
        cases hvalid : ((scheme.authentication server environment).isValidCookie stored
            request).exec {} with
        | mk r queue =>
          rw [hvalid] at hread
          cases r with
          | error e => exact ⟨stored.credentials, hread.symm⟩
          | ok a =>
            obtain ⟨isValid, cookie'⟩ := a
            obtain ⟨credentials, hcookie'⟩ := valid_credentials hvalid
            exact ⟨credentials, hread.symm.trans hcookie'⟩

end Handler

/-! ## Calls of routes -/

section Calls

variable {server : Server} {scheme : Scheme} {a : Action} {c : Client}
  {cookie : SecuritySessionCookie}

theorem run_plain {route : PlainRoute} (hroute : a.route = .plain route)
    (h : (a.run server scheme c).2.session = some (some cookie)) :
    route.Written (a.services server) (a.sent c) cookie := by
  unfold Action.run at h
  rw [hroute] at h
  exact route.writes.run_empty h

/-- A guarded route writes what `authHandler` writes, or the stored cookie with other credentials or
another tenant. -/
theorem run_guarded {route : GuardedRoute} (hroute : a.route = .guarded route)
    {P : SecuritySessionCookie → Prop}
    (hwritten : ∀ cookie,
      HandlerWritten server a.setup.environment scheme (a.sent c) cookie → P cookie)
    (hstored : ∀ stored credentials, (a.sent c).session = .ok (some stored) →
      P { stored with credentials })
    (htenant : ∀ cookie tenant, P cookie → P { cookie with tenant })
    (h : (a.run server scheme c).2.session = some (some cookie)) : P cookie := by
  cases hauth : a.authenticate server scheme c with
  | mk result w =>
    have hw : ∀ cookie, w.session = some (some cookie) → P cookie := fun cookie hcookie =>
      hwritten cookie (authHandler_written hauth hcookie)
    unfold Action.run at h
    rw [hroute] at h
    dsimp only at h
    rw [hauth] at h
    dsimp only at h
    by_cases hauthenticated : isAuthenticated result = true
    · rw [if_pos hauthenticated] at h
      refine (route.writes fun read tenant hread => ?_).run hw h
      refine htenant read _ ?_
      obtain ⟨stored, hsession, ⟨credentials, rfl⟩ | hwrote⟩ := sessionAfter_cases hread
      · exact hstored stored credentials hsession
      · exact hw read hwrote
    · rw [if_neg hauthenticated] at h
      exact hw cookie h

/-! ### The shape of the cookie -/

/-- The cookie of a bounded session or of a pending login. -/
def SecuritySessionCookie.Shaped (cookie : SecuritySessionCookie) : Prop :=
  cookie.Bounded ∨ cookie.Pending

theorem HandlerWritten.shaped (hnumeric : a.NumericTokens server scheme c)
    (hstored : ∀ stored, (a.sent c).session = .ok (some stored) → stored.Shaped)
    (h : HandlerWritten server a.setup.environment scheme (a.sent c) cookie) : cookie.Shaped := by
  cases h with
  | minted authInfo minted queue tenant hmint haccepts hcookie =>
    obtain ⟨hlogin, hexpiry | hpending⟩ := scheme_mints hmint
    · rw [hcookie]
      exact Or.inl ⟨hlogin, hexpiry (hnumeric.jwtLogin authInfo haccepts)⟩
    · rw [hcookie]
      exact Or.inr hpending
  | kept stored accepted queue expiryTime tenant hincl hread hvalid hexpiry hcookie =>
    rcases hstored stored hread with ⟨hlogin, hbounded⟩ | hpending
    · obtain ⟨credentials, rfl⟩ := valid_credentials hvalid
      rw [hcookie]
      refine Or.inl ⟨hlogin, ?_⟩
      rcases hexpiry with rfl | hkept
      · exact hbounded
      · exact keepAliveExpiry_isSome hvalid hbounded
          (fun htype headers hheaders => hnumeric.jwtSession stored headers hread htype hheaders)
          hkept
    · exact absurd hpending (scheme_accepts hvalid).2

/-- Every cookie of the browser has one of the two shapes. -/
def Client.Shaped (c : Client) : Prop :=
  ∀ cookie, c.browser.session = some cookie → cookie.Shaped

theorem clientStep_shaped (hnumeric : a.NumericTokens server scheme c) (hc : c.Shaped) :
    (clientStep server scheme a c).2.Shaped := by
  intro cookie hcookie
  have hstored : ∀ stored, (a.sent c).session = .ok (some stored) → stored.Shaped :=
    fun stored hread => hc stored (session_of_read hread)
  have hafter : (c.browser.after (a.run server scheme c).2).session = some cookie := hcookie
  rcases after_session hafter with ⟨-, hkept⟩ | ⟨written, hwritten, rfl⟩
  · exact hc cookie hkept
  have hshaped : written.Shaped := by
    cases hroute : a.route with
    | plain route =>
      cases run_plain hroute hwritten with
      | session hlogin hexpiry =>
        refine Or.inl ⟨hlogin, hexpiry fun body authorization expiryTime htoken h => ?_⟩
        have hclaims : ∀ payload exp, (Js.split authorization '.')[1]? = some payload →
            (a.services server).server.runtime.payloadExp payload = .ok exp → exp.IsNumeric :=
          fun payload exp => hnumeric.saml body authorization payload exp htoken
        exact expiryTimeOf_isSome hclaims h
      | samlLogin hpending hoidc => exact Or.inr hpending
      | openIdLogin nonce hroute hstart hawaits => exact Or.inr hawaits.pending
    | guarded route =>
      exact run_guarded hroute (fun cookie h => h.shaped hnumeric hstored)
        (fun stored credentials hread => hstored stored hread) (fun _ _ h => h) hwritten
  exact hshaped

/-- A cookie through which `authHandler` authenticates was accepted by its type. -/
theorem Action.AuthenticatesWith.accepted (h : a.AuthenticatesWith server scheme c cookie) :
    ∃ cookie' queue, ((scheme.authentication server a.setup.environment).isValidCookie cookie
      (a.sent c)).exec {} = (.ok (true, cookie'), queue) := by
  obtain ⟨auth, hauth⟩ := h.authenticated
  have hread : (a.sent c).session.toOption.join = some cookie := by
    rw [h.read]
    rfl
  unfold Action.authenticate AuthenticationType.authHandler at hauth
  rw [h.required, h.stored, hread] at hauth
  change (((scheme.authentication server a.setup.environment).authenticateCookie server
    a.setup.environment cookie (a.sent c)).exec {}).1 = _ at hauth
  unfold AuthenticationType.authenticateCookie at hauth
  cases hvalid : ((scheme.authentication server a.setup.environment).isValidCookie cookie
      (a.sent c)).exec {} with
  | mk r queue =>
    have hqueue : (World.onQueue ((scheme.authentication server a.setup.environment).isValidCookie
        cookie (a.sent c))).exec {} = (r, { queue }) := by
      simp only [World.onQueue, Proc.exec_zoom, hvalid]
    rw [Proc.exec_bind, hqueue] at hauth
    cases r with
    | error e => cases hauth
    | ok result =>
      obtain ⟨isValid, cookie'⟩ := result
      cases isValid with
      | true => exact ⟨cookie', queue, rfl⟩
      | false =>
        change (Except.ok (if isBundleRequest (a.sent c) then _ else if authOptional (a.sent c)
          then _ else _) : Except JsError AuthResult) = _ at hauth
        split_ifs at hauth <;> cases hauth

theorem SecuritySessionCookie.Shaped.wellFormed (h : cookie.Shaped) : cookie.WellFormed := by
  intro huser
  rcases h with ⟨⟨hoidc, hsaml⟩, hexpiry⟩ | ⟨hnone, -⟩
  · exact ⟨hexpiry, hoidc, hsaml⟩
  · rw [hnone] at huser
    cases huser

/-- A session cookie is valid until its expiry time. -/
theorem SecuritySessionCookie.Bounded.validate_iff (h : cookie.Bounded) {now : ℕ} :
    cookie.validate now = true ↔ ∃ expiryTime, cookie.expiryTime = some expiryTime ∧
      now ≤ expiryTime := by
  obtain ⟨⟨hoidc, hsaml⟩, hexpiry⟩ := h
  obtain ⟨expiryTime, hexpiry⟩ := Option.isSome_iff_exists.mp hexpiry
  unfold SecuritySessionCookie.validate
  rw [hoidc, hsaml, hexpiry]
  simp

theorem Client.Shaped.sessionEnds (hc : c.Shaped) : c.SessionEnds server scheme where
  wellFormed cookie hcookie := (hc cookie hcookie).wellFormed
  ends a cookie h := by
    obtain ⟨-, hcookie, hvalid⟩ := session_read_iff.mp h.read
    rcases hc cookie hcookie with hbounded | hpending
    · exact hbounded.validate_iff.mp hvalid
    · obtain ⟨cookie', queue, haccepted⟩ := h.accepted
      exact absurd hpending (scheme_accepts haccepted).2

/-- Whatever routes a browser calls, its session has an end and no request is authenticated through
the cookie after that. -/
theorem session_ends (server : Server) (scheme : Scheme) {actions : List Action}
    (hnumeric : Machine.Meets (clientStep server scheme)
      (fun a c => a.NumericTokens server scheme c) actions {}) :
    (Machine.exec (clientStep server scheme) actions {}).SessionEnds server scheme := by
  have hempty : ({} : Client).Shaped := fun cookie h => by cases h
  have hshaped : (Machine.exec (clientStep server scheme) actions {}).Shaped :=
    Machine.exec_of_meets Client.Shaped (fun a c hnumeric hc => clientStep_shaped hnumeric hc)
      hnumeric hempty
  exact hshaped.sessionEnds

/-! ### OpenID logins -/

/-- The login that a callback completes is the one that the cookie has pending and the query names. -/
theorem pendingLogin_nonce {oidc : OidcLogin}
    (h : OpenIdAuthRoutes.pendingLogin (a.sent c) = some oidc) :
    ∃ nonce, a.request.url.queryString "state" = some nonce ∧ c.pendingNonce = some nonce := by
  unfold OpenIdAuthRoutes.pendingLogin at h
  cases hread : (a.sent c).session with
  | error e =>
    rw [hread] at h
    cases h
  | ok cookie =>
    rw [hread] at h
    obtain ⟨hoidc, hstate⟩ := Option.filter_eq_some_iff.mp h
    rw [Bool.and_eq_true, beq_iff_eq] at hstate
    obtain ⟨htruthy, hstate⟩ := hstate
    obtain ⟨cookie, rfl, hoidc⟩ := Option.bind_eq_some_iff.mp hoidc
    have hbrowser : c.browser.session = some cookie := session_of_read hread
    cases hnonce : oidc.state with
    | none =>
      rw [hnonce] at htruthy
      cases htruthy
    | some nonce =>
      refine ⟨nonce, hstate.symm.trans hnonce, ?_⟩
      have hoidc : cookie.oidc = some oidc := hoidc
      simp only [Client.pendingNonce, hbrowser, Option.bind_some, hoidc, hnonce]

theorem establishedState_some {state : Option String}
    (h : a.establishedState (a.run server scheme c).2 = some state) :
    truthyString (a.request.url.queryString "code") = true ∧
      ∃ nonce, state = some nonce ∧ c.pendingNonce = some nonce := by
  unfold Action.establishedState at h
  split at h
  · rename_i hroute
    split at h
    · rename_i hestablished
      rw [Bool.and_eq_true] at hestablished
      obtain ⟨hcode, hsession⟩ := hestablished
      refine ⟨hcode, ?_⟩
      rw [← Option.some.inj h]
      have hsent : truthyString ((a.sent c).url.queryString "code") = true := hcode
      unfold Action.run at hsession
      rw [hroute] at hsession
      dsimp only [PlainRoute.handler] at hsession
      rw [openIdLogin_callback hsent, OpenIdAuthRoutes.callback] at hsession
      cases hpending : OpenIdAuthRoutes.pendingLogin (a.sent c) with
      | none =>
        rw [hpending] at hsession
        cases hsession
      | some oidc => exact pendingLogin_nonce hpending
    · cases h
  · cases h

theorem startedNonce_some {nonce : String} (h : a.startedNonce = some nonce) :
    a.route = .plain (.openIdLogin nonce) ∧
      ¬ truthyString (a.request.url.queryString "code") = true := by
  unfold Action.startedNonce at h
  split at h
  · split at h
    · cases h
    · rename_i hroute hcode
      obtain rfl := Option.some.inj h
      exact ⟨hroute, hcode⟩
  · cases h

/-- A login that is started is pending afterwards. -/
theorem pendingNonce_of_started {nonce : String} (h : a.startedNonce = some nonce) :
    (clientStep server scheme a c).2.pendingNonce = some nonce := by
  obtain ⟨hroute, hcode⟩ := startedNonce_some h
  have hsent : ¬ truthyString ((a.sent c).url.queryString "code") = true := hcode
  unfold clientStep Action.run
  rw [hroute]
  dsimp only [PlainRoute.handler]
  rw [openIdLogin_start hsent]
  rfl

/-- The cookie that `authHandler` writes has the pending login of the stored one, or none. -/
theorem HandlerWritten.pendingLogin
    (h : HandlerWritten server a.setup.environment scheme (a.sent c) cookie) :
    cookie.oidc = none ∨ cookie.oidc.bind (·.state) = c.pendingNonce := by
  cases h with
  | minted authInfo minted queue tenant hmint haccepts hcookie =>
    rw [hcookie]
    exact Or.inl (scheme_mints hmint).1.1
  | kept stored accepted queue expiryTime tenant hincl hread hvalid hexpiry hcookie =>
    obtain ⟨credentials, rfl⟩ := valid_credentials hvalid
    have hbrowser : c.browser.session = some stored := session_of_read hread
    rw [hcookie, Client.pendingNonce, hbrowser]
    exact Or.inr rfl

theorem establishedState_unwritten {w : World} (h : w.session = none) :
    a.establishedState w = none := by
  unfold Action.establishedState
  split
  · rw [h]
    exact if_neg (by simp)
  · rfl

theorem establishedState_guarded {route : GuardedRoute} (h : a.route = .guarded route) {w : World} :
    a.establishedState w = none := by
  unfold Action.establishedState
  rw [h]

theorem establishedState_started {nonce : String} (h : a.startedNonce = some nonce) {w : World} :
    a.establishedState w = none := by
  obtain ⟨hroute, hcode⟩ := startedNonce_some h
  unfold Action.establishedState
  rw [hroute]
  exact if_neg (by simp [hcode])

/-- After a request no login is pending, or the one from before, or the one that it started. -/
theorem clientStep_pendingNonce {nonce : String}
    (h : (clientStep server scheme a c).2.pendingNonce = some nonce) :
    (c.pendingNonce = some nonce ∧ a.establishedState (a.run server scheme c).2 = none) ∨
      (a.startedNonce = some nonce ∧ a.establishedState (a.run server scheme c).2 = none) := by
  obtain ⟨cookie, hcookie, hnonce⟩ := Option.bind_eq_some_iff.mp h
  have hafter : (c.browser.after (a.run server scheme c).2).session = some cookie := hcookie
  rcases after_session hafter with ⟨hnone, hkept⟩ | ⟨written, hwritten, rfl⟩
  · refine Or.inl ⟨?_, ?_⟩
    · rw [Client.pendingNonce, hkept]
      exact hnonce
    · exact establishedState_unwritten hnone
  have hwrote : written.oidc.bind (·.state) = some nonce := hnonce
  cases hroute : a.route with
  | plain route =>
    cases run_plain hroute hwritten with
    | session hlogin hexpiry =>
      rw [hlogin.1] at hwrote
      cases hwrote
    | samlLogin hpending hoidc =>
      rw [hoidc] at hwrote
      cases hwrote
    | openIdLogin started hlogin hcode hawaits =>
      obtain rfl : started = nonce := Option.some.inj (hawaits.state.symm.trans hwrote)
      have hstarted : a.startedNonce = some started := by
        unfold Action.startedNonce
        rw [hroute, hlogin]
        exact if_neg hcode
      exact Or.inr ⟨hstarted, establishedState_started hstarted⟩
  | guarded route =>
    have hkept : written.oidc = none ∨ written.oidc.bind (·.state) = c.pendingNonce := by
      refine run_guarded hroute (fun cookie h => h.pendingLogin) (fun stored _ hread => ?_)
        (fun _ _ h => h) hwritten
      have hbrowser : c.browser.session = some stored := session_of_read hread
      rw [Client.pendingNonce, hbrowser]
      exact Or.inr rfl
    rcases hkept with hnone | hsame
    · rw [hnone] at hwrote
      cases hwrote
    · exact Or.inl ⟨hsame.symm.trans hwrote, establishedState_guarded hroute⟩

/-- The login that is pending was started and has established no session; a login establishes one
session at most. -/
structure Client.LoginsOnce (c : Client) : Prop where
  pending : ∀ nonce, c.pendingNonce = some nonce →
    nonce ∈ c.issued ∧ some nonce ∉ c.established
  issued : ∀ state ∈ c.established, ∃ nonce ∈ c.issued, state = some nonce
  once : c.established.Nodup

theorem clientStep_loginsOnce (hfresh : a.Fresh c) (hc : c.LoginsOnce) :
    (clientStep server scheme a c).2.LoginsOnce := by
  have hsub : ∀ nonce ∈ c.issued, nonce ∈ (clientStep server scheme a c).2.issued :=
    fun nonce h => List.mem_append_right _ h
  cases hestablished : a.establishedState (a.run server scheme c).2 with
  | none =>
    have hsame : (clientStep server scheme a c).2.established = c.established := by
      change (a.establishedState (a.run server scheme c).2).toList ++ c.established = _
      rw [hestablished]
      rfl
    refine ⟨fun nonce hnonce => ?_, ?_, ?_⟩
    · rw [hsame]
      rcases clientStep_pendingNonce hnonce with ⟨hpending, -⟩ | ⟨hstarted, -⟩
      · obtain ⟨hissued, hnew⟩ := hc.pending nonce hpending
        exact ⟨hsub nonce hissued, hnew⟩
      · refine ⟨?_, fun hmem => ?_⟩
        · change nonce ∈ a.startedNonce.toList ++ c.issued
          rw [hstarted]
          exact List.mem_cons_self
        · obtain ⟨nonce', hissued, heq⟩ := hc.issued _ hmem
          obtain rfl := Option.some.inj heq
          exact hfresh nonce hstarted hissued
    · rw [hsame]
      intro state hstate
      obtain ⟨nonce, hissued, heq⟩ := hc.issued state hstate
      exact ⟨nonce, hsub nonce hissued, heq⟩
    · rw [hsame]
      exact hc.once
  | some state =>
    have hcons : (clientStep server scheme a c).2.established = state :: c.established := by
      change (a.establishedState (a.run server scheme c).2).toList ++ c.established = _
      rw [hestablished]
      rfl
    obtain ⟨-, nonce, rfl, hpending⟩ := establishedState_some hestablished
    obtain ⟨hissued, hnew⟩ := hc.pending nonce hpending
    refine ⟨fun nonce' hnonce' => ?_, ?_, ?_⟩
    · rcases clientStep_pendingNonce hnonce' with ⟨-, hnone⟩ | ⟨-, hnone⟩
      · exact absurd (hestablished.symm.trans hnone) (by simp)
      · exact absurd (hestablished.symm.trans hnone) (by simp)
    · rw [hcons]
      intro state hstate
      rcases List.mem_cons.mp hstate with rfl | hstate
      · exact ⟨nonce, hsub nonce hissued, rfl⟩
      · obtain ⟨nonce', hissued', heq⟩ := hc.issued state hstate
        exact ⟨nonce', hsub nonce' hissued', heq⟩
    · rw [hcons]
      exact List.Nodup.cons hnew hc.once

theorem exec_loginsOnce {actions : List Action}
    (hfresh : Machine.Meets (clientStep server scheme) Action.Fresh actions {}) :
    (Machine.exec (clientStep server scheme) actions {}).LoginsOnce := by
  refine Machine.exec_of_meets Client.LoginsOnce
    (fun a c hfresh hc => clientStep_loginsOnce hfresh hc) hfresh ⟨?_, ?_, List.nodup_nil⟩
  · intro nonce h
    cases h
  · intro state h
    cases h

/-- The nonces that the client counts are those of the logins of the run. -/
theorem startedIn_of_issued {actions : List Action} {nonce : String}
    (h : nonce ∈ (Machine.exec (clientStep server scheme) actions {}).issued) :
    StartedIn server scheme actions nonce := by
  induction actions using List.reverseRecOn with
  | nil => cases h
  | append_singleton actions a ih =>
    rw [Machine.exec_append] at h
    rcases List.mem_append.mp h with hstarted | hissued
    · have hstarted : a.startedNonce = some nonce := Option.mem_toList.mp hstarted
      refine ⟨actions, a, [], rfl, hstarted, ?_⟩
      rw [Machine.exec_append]
      exact pendingNonce_of_started hstarted
    · obtain ⟨before, start, between, rfl, hstarted, hpending⟩ := ih hissued
      exact ⟨before, start, between ++ [a], by simp, hstarted, hpending⟩

/-- Whatever routes a browser calls with whatever parameters, the callback is bound to the logins it
started. -/
theorem callbacks_bound (server : Server) (scheme : Scheme) {actions : List Action}
    (hfresh : Machine.Meets (clientStep server scheme) Action.Fresh actions {}) :
    CallbacksBound server scheme actions where
  bound earlier a later state hactions hestablished := by
    rw [hactions] at hfresh
    have hearlier := exec_loginsOnce (Machine.meets_append.mp hfresh).1
    obtain ⟨-, nonce, hstate, hpending⟩ := establishedState_some hestablished
    exact ⟨nonce, hstate, hpending, startedIn_of_issued (hearlier.pending nonce hpending).1⟩
  once := (exec_loginsOnce hfresh).once

/-! ### SAML sessions -/

/-- The session of an `acs` route ends when its token does. -/
theorem run_acs {samlResponse : String} (hlogin : a.samlResponse = some samlResponse)
    (h : (a.run server scheme c).2.session = some (some cookie)) :
    cookie.authType = some SAML ∧ ∃ body authorization, body.SAMLResponse = samlResponse ∧
      a.setup.authToken body = .ok (some authorization) ∧
      SamlAuthRoutes.expiryTimeOf (a.services server) (a.sent c).now authorization =
        .ok cookie.expiryTime := by
  let P : SecuritySessionCookie → Prop := fun cookie =>
    cookie.authType = some SAML ∧ ∃ body authorization, body.SAMLResponse = samlResponse ∧
      a.setup.authToken body = .ok (some authorization) ∧
      SamlAuthRoutes.expiryTimeOf (a.services server) (a.sent c).now authorization =
        .ok cookie.expiryTime
  have hstart : ∀ body : AuthTokenBody, body.SAMLResponse = samlResponse →
      Writes P (SamlAuthRoutes.startSession (a.services server) (a.sent c) body) :=
    fun body hbody => Writes.startSession body fun authorization expiryTime htoken hexpiry _ =>
      ⟨rfl, body, authorization, hbody, htoken, hexpiry⟩
  unfold Action.samlResponse at hlogin
  unfold Action.run at h
  split at hlogin
  · rename_i hroute
    cases hlogin
    rw [hroute] at h
    exact (Writes.acs samlResponse hstart).run_empty h
  · rename_i hroute
    cases hlogin
    rw [hroute] at h
    exact (Writes.idpInitiated samlResponse hstart).run_empty h
  · cases hlogin

theorem setsExpiry {samlResponse : String} (hlogin : a.samlResponse = some samlResponse)
    (h : (a.run server scheme c).2.session = some (some cookie)) :
    a.SetsExpiry server c samlResponse cookie.expiryTime := by
  obtain ⟨-, body, authorization, hbody, htoken, hexpiry⟩ := run_acs hlogin h
  unfold SamlAuthRoutes.expiryTimeOf at hexpiry
  split at hexpiry
  · cases hexpiry
  · rename_i payload hpayload
    split at hexpiry
    · cases hexpiry
    · rename_i exp hexp
      refine ⟨body, authorization, payload, exp, hbody, htoken, hpayload, hexp, ?_, ?_, ?_⟩
      · intro htruthy
        rw [if_pos htruthy] at hexpiry
        exact (Except.ok.inj hexpiry).symm
      · intro n hsmall hzero hn
        have htruthy : exp.truthy = true := by
          rw [hn]
          simpa [ExpClaim.truthy] using hzero
        rw [if_pos htruthy, hn] at hexpiry
        rw [ExpClaim.parseInt_whole _ hsmall] at hexpiry
        exact (Except.ok.inj hexpiry).symm
      · intro hfalsy
        rw [if_neg (by simp [hfalsy])] at hexpiry
        exact (Except.ok.inj hexpiry).symm

/-- The cookie is the one of a SAML session that ends at this time. -/
def SecuritySessionCookie.SamlUntil (expiryTime : Option ℚ) (cookie : SecuritySessionCookie) :
    Prop :=
  cookie.authType = some SAML ∧ cookie.expiryTime = expiryTime

theorem HandlerWritten.samlUntil {expiryTime : Option ℚ}
    (hincl : (scheme.authentication server a.setup.environment).requestIncludesAuthInfo
      (a.sent c) = false)
    (hstored : ∀ stored, (a.sent c).session = .ok (some stored) → stored.SamlUntil expiryTime)
    (h : HandlerWritten server a.setup.environment scheme (a.sent c) cookie) :
    cookie.SamlUntil expiryTime := by
  cases h with
  | minted authInfo minted queue tenant hmint haccepts hcookie =>
    exact absurd (hincl.symm.trans hmint.1) (by decide)
  | kept stored accepted queue expiryTime' tenant _ hread hvalid hexpiry hcookie =>
    obtain ⟨hsaml, hstoredExpiry⟩ := hstored stored hread
    obtain ⟨⟨authType, htype, hkey⟩, -⟩ := scheme_accepts hvalid
    obtain rfl : authType = .saml :=
      AuthType.key_inj (Option.some.inj (hkey.symm.trans hsaml))
    obtain ⟨credentials, rfl⟩ := valid_credentials hvalid
    rw [hcookie]
    refine ⟨hsaml, ?_⟩
    rcases hexpiry with rfl | hkept
    · exact hstoredExpiry
    · rw [(scheme_methods ((validatedBy_credentials credentials).trans htype)).2.1] at hkept
      cases hkept
      exact hstoredExpiry

/-- Requests that are authenticated by the cookie of a SAML session do not change when it ends. -/
theorem clientStep_samlUntil {expiryTime : Option ℚ} (hby : a.ByCookie server scheme c)
    (hc : ∀ cookie, c.browser.session = some cookie → cookie.SamlUntil expiryTime) :
    ∀ cookie, (clientStep server scheme a c).2.browser.session = some cookie →
      cookie.SamlUntil expiryTime := by
  intro cookie hcookie
  obtain ⟨⟨route, hroute⟩, hincl⟩ := hby
  have hstored : ∀ stored, (a.sent c).session = .ok (some stored) → stored.SamlUntil expiryTime :=
    fun stored hread => hc stored (session_of_read hread)
  have hafter : (c.browser.after (a.run server scheme c).2).session = some cookie := hcookie
  rcases after_session hafter with ⟨-, hkept⟩ | ⟨written, hwritten, rfl⟩
  · exact hc cookie hkept
  · have huntil : written.SamlUntil expiryTime :=
      run_guarded hroute (fun cookie h => h.samlUntil hincl hstored)
        (fun stored _ hread => hstored stored hread) (fun _ _ h => h) hwritten
    exact huntil

/-- The end of a SAML session is the one that the `acs` route set, whatever requests its cookie
authenticates. -/
theorem saml_expiry_kept (server : Server) (scheme : Scheme) {login : Action} {c : Client}
    {samlResponse : String} {cookie₀ : SecuritySessionCookie}
    (hlogin : login.samlResponse = some samlResponse)
    (hsession : (login.run server scheme c).2.session = some (some cookie₀))
    {actions : List Action}
    (hactions : Machine.Meets (clientStep server scheme) (Action.ByCookie server scheme) actions
      (clientStep server scheme login c).2) :
    login.SetsExpiry server c samlResponse cookie₀.expiryTime ∧
      ∀ cookie, (Machine.exec (clientStep server scheme) actions
          (clientStep server scheme login c).2).browser.session = some cookie →
        cookie.authType = some SAML ∧ cookie.expiryTime = cookie₀.expiryTime := by
  refine ⟨setsExpiry hlogin hsession, ?_⟩
  refine Machine.exec_of_meets
    (fun c : Client => ∀ cookie, c.browser.session = some cookie →
      cookie.SamlUntil cookie₀.expiryTime)
    (fun a c hby hc => clientStep_samlUntil hby hc) hactions ?_
  intro cookie hcookie
  have hafter : (c.browser.after (login.run server scheme c).2).session = some cookie := hcookie
  rcases after_session hafter with ⟨hnone, -⟩ | ⟨written, hwritten, rfl⟩
  · exact absurd (hsession.symm.trans hnone) (by simp)
  · obtain rfl : cookie₀ = written :=
      Option.some.inj (Option.some.inj (hsession.symm.trans hwritten))
    exact ⟨(run_acs hlogin hsession).1, rfl⟩

end Calls

namespace Sample

/-- A login of alice with her password. -/
def aliceLogin : Action where
  route := .plain (.basicLogin "alice" "secret")
  request := { url := { pathname := "/auth/login" } }
  setup := setup bearerServer

theorem aliceLogin_numeric :
    aliceLogin.NumericTokens bearerServer (.single .basic) {} where
  saml body authorization payload exp h := by cases h
  jwtLogin authInfo h := by
    intro authHeader first payload signature exp hheader
    cases hheader
  jwtSession cookie headers h := by cases h

theorem aliceLogin_ends :
    (Machine.exec (clientStep bearerServer (.single .basic)) [aliceLogin] {}).SessionEnds
      bearerServer (.single .basic) :=
  session_ends bearerServer (.single .basic) ⟨aliceLogin_numeric, trivial⟩

/-- A request to the login route of the OpenID type with these parameters. -/
def openIdVisit (searchParams : List (String × String)) : Action where
  route := .plain (.openIdLogin "nonce-1")
  request := { url := { pathname := "/auth/openid/login", searchParams } }
  setup := loginSetup

def openIdRun : List Action :=
  [openIdVisit [], openIdVisit [("code", "code-1"), ("state", "nonce-1")],
    openIdVisit [("code", "code-2"), ("state", "nonce-1")]]

/-- The second callback comes too late. -/
theorem openIdRun_bound :
    (Machine.exec (clientStep bearerServer (.single .openId)) openIdRun {}).established =
        [some "nonce-1"] ∧
      CallbacksBound bearerServer (.single .openId) openIdRun := by
  refine ⟨by decide +kernel, callbacks_bound bearerServer (.single .openId) ?_⟩
  refine ⟨fun nonce _ h => ?_, ?_, ?_, trivial⟩
  · cases h
  · intro nonce h
    cases h
  · intro nonce h
    cases h

/-- The IdP sends the browser to the server with a response that was not asked for. -/
def samlArrival : Action where
  route := .plain (.samlIdpInitiated "response")
  request := { url := { pathname := "/_opendistro/_security/saml/acs/idpinitiated" } }
  setup := loginSetup

/-- The user then picks a tenant. -/
def tenantPick : Action where
  route := .guarded (.postTenant "analysts")
  request := { url := { pathname := "/api/v1/multitenancy/tenant" } }
  elapsed := 1
  setup := loginSetup

/-- alice's session. -/
def samlSession : SecuritySessionCookie where
  username := some "alice"
  credentials := some { authHeaderValueExtra := true }
  authType := some SAML
  expiryTime := some 2000

theorem tenantPick_keepsExpiry :
    samlArrival.SetsExpiry bearerServer {} "response" samlSession.expiryTime ∧
      ∀ cookie, (Machine.exec (clientStep bearerServer (.multiple [.basic, .saml])) [tenantPick]
          (clientStep bearerServer (.multiple [.basic, .saml]) samlArrival {}).2).browser.session =
            some cookie →
        cookie.authType = some SAML ∧ cookie.expiryTime = samlSession.expiryTime :=
  saml_expiry_kept bearerServer (.multiple [.basic, .saml]) rfl (by decide +kernel)
    ⟨⟨⟨_, rfl⟩, by decide⟩, trivial⟩

/-- A server whose backend gives tokens that expire at second 1.5. -/
def fractionServer : Server :=
  { bearerServer with runtime := { runtime with parseExp := fun _ => .ok (.num (3 / 2)) } }

/-- The session ends half a second before its token. -/
theorem fraction_dropped :
    ∃ cookie, (Machine.exec (clientStep fractionServer (.single .saml)) [samlArrival]
        {}).browser.session = some cookie ∧
      fractionServer.runtime.payloadExp ((Js.split ("bearer " ++ token) '.').getD 1 "") =
        .ok (.num (3 / 2)) ∧
      cookie.expiryTime ≠ some ((3 / 2) * 1000) :=
  ⟨{ samlSession with expiryTime := some 1000 }, by decide +kernel, rfl, by decide +kernel⟩

end Sample

end SecurityDashboards
