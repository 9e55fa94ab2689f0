import SecurityDashboards.Proofs.PluginSetupProofs
import SecurityDashboards.Proofs.SessionLifecycleProofs

/-!
# Proofs: split cookies of a server that was set up

Which split cookies the methods of the types and the routes queue. On a server that was set up they
are declared, and those of different types stay apart.
-/

namespace SecurityDashboards

/-- The split cookies in the queue have such names. -/
def Queue.Named (N : String → Prop) (queue : Queue) : Prop := ∀ entry ∈ queue.states, N entry.1

def World.Named (N : String → Prop) (w : World) : Prop := w.queue.Named N

section Named

variable {N : String → Prop} {server : Server} {environment : Environment} {request : Request}
  {α : Type}

/-! ## Writing and clearing -/

theorem named_splitValueIntoCookies {states : States} {options : ExtraAuthStorageOptions}
    (hN : ∀ name ∈ options.cookieNames, N name) (h : ∀ entry ∈ states, N entry.1) (value : Text) :
    ∀ entry ∈ splitValueIntoCookies states options.cookiePrefix value options.additionalCookies,
      N entry.1 := by
  unfold splitValueIntoCookies
  refine List.foldlRecOn (motive := fun states : States => ∀ entry ∈ states, N entry.1) _ _ h fun
    states hstates i hi => ?_
  exact List.forall_mem_cons.mpr ⟨hN _ (List.mem_map_of_mem hi), hstates⟩

theorem named_clearSplitCookies {states : States} {options : ExtraAuthStorageOptions}
    (hN : ∀ name ∈ options.cookieNames, N name) (h : ∀ entry ∈ states, N entry.1) :
    ∀ entry ∈ clearSplitCookies request states options, N entry.1 := by
  unfold clearSplitCookies
  refine List.foldlRecOn (motive := fun states : States => ∀ entry ∈ states, N entry.1) _ _ h fun
    states hstates i hi => ?_
  dsimp only
  split_ifs
  · exact List.forall_mem_cons.mpr ⟨hN _ (List.mem_map_of_mem hi), hstates⟩
  · exact hstates

theorem store_named {options : ExtraAuthStorageOptions}
    (hN : ∀ name ∈ options.cookieNames, N name) (content : HeaderValue) :
    Proc.Preserves (Queue.Named N) (ExtraStorage.store server options content) := by
  intro queue hqueue
  cases content with
  | str s =>
    rw [exec_store]
    exact named_splitValueIntoCookies hN hqueue _
  | undefined => exact hqueue
  | inherited => exact hqueue

/-! ## The methods of the types -/

theorem cookieNames_of_storage {authType : AuthType} {options : ExtraAuthStorageOptions}
    (hoptions : authType.extraStorage server = some options)
    (hN : ∀ name ∈ authType.cookieNames server, N name) : ∀ name ∈ options.cookieNames, N name := by
  unfold AuthType.cookieNames at hN
  rw [hoptions] at hN
  exact hN

theorem handler_getCookie_named (authType : AuthType)
    (hN : ∀ name ∈ authType.cookieNames server, N name) (authInfo : AuthInfo) :
    Proc.Preserves (Queue.Named N)
      ((authType.handler server environment).getCookie request authInfo) := by
  cases authType with
  | basic => exact Proc.Preserves.pure _
  | proxy => exact Proc.Preserves.pure _
  | openId =>
    exact Proc.Preserves.bind (store_named (cookieNames_of_storage rfl hN) _) fun _ =>
      Proc.Preserves.pure _
  | saml =>
    exact Proc.Preserves.bind (store_named (cookieNames_of_storage rfl hN) _) fun _ =>
      Proc.Preserves.pure _
  | jwt =>
    refine Proc.Preserves.bind (store_named (cookieNames_of_storage rfl hN) _) fun _ => ?_
    exact Proc.Preserves.bind (Proc.Preserves.ofExcept _) fun _ => Proc.Preserves.pure _

/-- Renewing a token stores the new one. -/
theorem renew_named (hN : ∀ name ∈ AuthType.openId.cookieNames server, N name)
    (cookie : SecuritySessionCookie) (refresh_token : String) :
    Proc.Preserves (Queue.Named N)
      (OpenIdAuthentication.renew server environment cookie request refresh_token) := by
  unfold OpenIdAuthentication.renew OpenIdAuthentication.refresh
  have hcall : Proc.Preserves (Queue.Named N)
      (OpenIdAuthentication.refresh server environment refresh_token) :=
    Proc.Preserves.bind (Proc.Preserves.update fun _ h => h) fun _ => Proc.Preserves.ofExcept _
  refine Proc.Preserves.bind hcall fun tokenResponse => ?_
  cases tokenResponse.idToken.filter (· != "") with
  | none => exact Proc.Preserves.pure _
  | some idToken =>
    refine Proc.Preserves.bind (Proc.Preserves.ofExcept _) fun credentials => ?_
    exact Proc.Preserves.bind (store_named (cookieNames_of_storage rfl hN) _) fun _ =>
      Proc.Preserves.pure _

theorem handler_isValidCookie_named (authType : AuthType)
    (hN : ∀ name ∈ authType.cookieNames server, N name) (cookie : SecuritySessionCookie) :
    Proc.Preserves (Queue.Named N)
      ((authType.handler server environment).isValidCookie cookie request) := by
  cases authType with
  | basic => exact Proc.Preserves.pure _
  | proxy => exact Proc.Preserves.bind (Proc.Preserves.ofExcept _) fun _ => Proc.Preserves.pure _
  | saml => exact fun _ h => h
  | jwt => exact fun _ h => h
  | openId =>
    refine Proc.Preserves.bind (fun _ h => h) fun queue => ?_
    split_ifs
    · exact Proc.Preserves.pure _
    · exact Proc.Preserves.pure _
    · cases (cookie.credentials.bind (·.refresh_token)).filter (· != "") with
      | none => exact Proc.Preserves.pure _
      | some refresh_token =>
        refine Proc.Preserves.bind (Proc.Preserves.attempt (renew_named hN cookie refresh_token))
          fun r => ?_
        cases r <;> exact Proc.Preserves.pure _

/-! ## `authHandler` -/

theorem onQueue_named {x : Proc Queue JsError α} (hx : Proc.Preserves (Queue.Named N) x) :
    Proc.Preserves (World.Named N) (World.onQueue x) := by
  refine Proc.Triple.zoom fun w hw r queue hexec => ?_
  have hqueue : (x.exec w.queue).2.Named N := hx.exec hw
  rw [hexec] at hqueue
  exact ⟨fun _ _ => hqueue, fun _ _ => hqueue⟩

theorem onQueue_keeps_named {x : Proc Queue JsError α} (hx : Proc.Keeps id x) :
    Proc.Preserves (World.Named N) (World.onQueue x) :=
  onQueue_named (Proc.Preserves.of_keeps hx fun queue queue' h hqueue => by
    have hsame : queue = queue' := h
    rw [← hsame]
    exact hqueue)

theorem clearSession_named : Proc.Preserves (World.Named N) World.clearSession :=
  Proc.Preserves.update fun _ h => h

theorem setSession_named (cookie : SecuritySessionCookie) :
    Proc.Preserves (World.Named N) (World.setSession cookie) :=
  Proc.Preserves.update fun _ h => h

theorem authinfo_named (headers : HeaderObject) :
    Proc.Preserves (World.Named N) (authinfo environment request headers) :=
  authinfo_preserves (fun _ _ h => h) _ _ _

namespace AuthenticationType

variable {self : AuthenticationType}

theorem withTenant_named (cookie : SecuritySessionCookie) (headers : HeaderObject)
    (authInfo : Option AuthInfo) :
    Proc.Preserves (World.Named N)
      (self.withTenant server environment request cookie headers authInfo) := by
  have hkeeps : Proc.Keeps World.queue
      (self.withTenant server environment request cookie headers authInfo) := fun w => by
    cases h : (self.withTenant server environment request cookie headers authInfo).exec w with
    | mk result w' => exact (withTenant_effect h).1
  exact Proc.Preserves.of_keeps hkeeps fun w w' h hw => by
    unfold World.Named at hw ⊢
    exact h ▸ hw

theorem rejectCookie_named :
    Proc.Preserves (World.Named N) (self.rejectCookie request) :=
  Proc.Preserves.bind clearSession_named fun _ => Proc.Preserves.pure _

/-- What `authHandler` queues comes from `getCookie`, if the request has its authentication data, or
else from `isValidCookie`. -/
theorem authHandler_named (hframed : self.Framed)
    (hlogin : self.requestIncludesAuthInfo request = true → ∀ authInfo,
      Proc.Preserves (Queue.Named N) (self.getCookie request authInfo))
    (hsession : self.requestIncludesAuthInfo request = false → ∀ cookie,
      request.session.toOption.join = some cookie →
        Proc.Preserves (Queue.Named N) (self.isValidCookie cookie request)) :
    Proc.Preserves (World.Named N) (self.authHandler server environment request) := by
  unfold authHandler
  split_ifs with hrequired hincludes
  · exact Proc.Preserves.pure _
  · have hrequest : Proc.Preserves (World.Named N)
        (self.authenticateRequest environment request) := by
      refine Proc.Preserves.bind (Proc.Preserves.ofExcept _) fun headers => ?_
      refine Proc.Preserves.bind (authinfo_named _) fun authInfo => ?_
      refine Proc.Preserves.bind (onQueue_named (hlogin hincludes authInfo)) fun cookie => ?_
      refine Proc.Preserves.bind (Proc.Preserves.ofExcept _) fun browserCookie => ?_
      exact Proc.Preserves.bind (setSession_named _) fun _ => Proc.Preserves.pure _
    refine Proc.Preserves.bind (Proc.Preserves.attempt hrequest) fun r => ?_
    cases r with
    | ok minted => exact withTenant_named _ _ _
    | error error => exact Proc.Preserves.pure _
  · cases hcookie : request.session.toOption.join with
    | none => exact rejectCookie_named
    | some cookie =>
      have hvalid := hsession (Bool.eq_false_iff.mpr hincludes) cookie hcookie
      refine Proc.Preserves.bind (onQueue_named hvalid) fun checked => ?_
      obtain ⟨isValid, cookie⟩ := checked
      dsimp only
      split_ifs
      · refine Proc.Preserves.bind ?_ fun cookie => ?_
        · unfold keepAlive
          split_ifs
          · refine Proc.Preserves.bind
              (onQueue_keeps_named (hframed.getKeepAliveExpiry _ _)) fun _ => ?_
            exact Proc.Preserves.bind (setSession_named _) fun _ => Proc.Preserves.pure _
          · exact Proc.Preserves.pure _
        · refine Proc.Preserves.bind ?_ fun headers => withTenant_named _ _ _
          refine Proc.Preserves.bind
            (onQueue_keeps_named (hframed.buildAuthHeaderFromCookie _ _)) fun _ => ?_
          exact Proc.Preserves.bind (Proc.Preserves.ofExcept _) fun _ => Proc.Preserves.pure _
      · exact rejectCookie_named

end AuthenticationType

/-- What `authHandler` queues belongs to the type in charge. -/
theorem scheme_named (scheme : Scheme)
    (hN : ∀ authType, scheme.inCharge server environment request = some authType →
      ∀ name ∈ authType.cookieNames server, N name) :
    Proc.Preserves (World.Named N)
      ((scheme.authentication server environment).authHandler server environment request) := by
  unfold Scheme.inCharge at hN
  refine AuthenticationType.authHandler_named (scheme_framed scheme)
    (fun hincludes authInfo => ?_) fun hincludes cookie hcookie => ?_
  · rw [if_pos hincludes] at hN
    cases scheme with
    | single authType => exact handler_getCookie_named authType (hN authType rfl) authInfo
    | multiple authHandlers =>
      show Proc.Preserves (Queue.Named N)
        (MultipleAuthentication.getCookie server environment authHandlers request authInfo)
      unfold MultipleAuthentication.getCookie
      split
      · rename_i authType hclaimant
        exact handler_getCookie_named authType (hN authType hclaimant) authInfo
      · exact Proc.Preserves.pure _
  · rw [hincludes, hcookie] at hN
    cases htype : scheme.validatedBy server cookie with
    | none =>
      rw [scheme_isValidCookie_none htype]
      exact Proc.Preserves.pure _
    | some authType =>
      rw [(scheme_methods htype).1]
      exact handler_isValidCookie_named authType (hN authType htype) cookie

end Named

/-! ## Routes -/

section Routes

variable {N : String → Prop} {setup : RouteSetup} {request : Request}

theorem clear_named {options : ExtraAuthStorageOptions}
    (hN : ∀ name ∈ options.cookieNames, N name) :
    Proc.Preserves (World.Named N) (World.onQueue (Proc.update fun queue =>
      { queue with states := clearSplitCookies request queue.states options })) :=
  onQueue_named (Proc.Preserves.update fun _ h => named_clearSplitCookies hN h)

theorem clearing_named (response : RouteResponse) :
    Proc.Preserves (World.Named N) (do World.clearSession; pure response) :=
  Proc.Preserves.bind clearSession_named fun _ => Proc.Preserves.pure _

theorem authenticateWithHeader_named (headerName : String) (headerValue : Option String) :
    Proc.Preserves (World.Named N)
      (authenticateWithHeader setup request headerName headerValue) :=
  Proc.Preserves.bind (authinfo_named _) fun _ => Proc.Preserves.pure _

/-- The end of both logins of the basic type. -/
theorem withTenantOfUser_named {user : User} {cookie : SecuritySessionCookie}
    {f : SecuritySessionCookie → RouteResponse} :
    Proc.Preserves (World.Named N) (do
      World.clearSession
      let sessionStorage ← Proc.ofExcept (withTenantOfUser setup request user cookie)
      World.setSession sessionStorage
      pure (f sessionStorage)) := by
  refine Proc.Preserves.bind clearSession_named fun _ => ?_
  refine Proc.Preserves.bind (Proc.Preserves.ofExcept _) fun sessionStorage => ?_
  exact Proc.Preserves.bind (setSession_named _) fun _ => Proc.Preserves.pure _

theorem basicLogin_named (username password : String) :
    Proc.Preserves (World.Named N) (BasicAuthRoutes.login setup request username password) := by
  unfold BasicAuthRoutes.login
  split
  · exact Proc.Preserves.pure _
  · have hauthenticate : Proc.Preserves (World.Named N)
        (authenticate setup request username password) :=
      Proc.Preserves.bind (authinfo_named _) fun _ => Proc.Preserves.pure _
    refine Proc.Preserves.bind (Proc.Preserves.attempt hauthenticate) fun r => ?_
    cases r with
    | error error => exact Proc.Preserves.pure _
    | ok user => exact withTenantOfUser_named

theorem anonymousLogin_named :
    Proc.Preserves (World.Named N) (BasicAuthRoutes.anonymousLogin setup request) := by
  unfold BasicAuthRoutes.anonymousLogin
  split_ifs
  · have hauthenticate : Proc.Preserves (World.Named N)
        (authenticateWithHeaders setup request .empty) :=
      Proc.Preserves.bind (authinfo_named _) fun _ => Proc.Preserves.pure _
    refine Proc.Preserves.bind (Proc.Preserves.attempt hauthenticate) fun r => ?_
    cases r with
    | error error => exact Proc.Preserves.pure _
    | ok user => exact withTenantOfUser_named
  · exact Proc.Preserves.pure _

theorem openIdLogin_named (nonce : String)
    (hN : ∀ name ∈ AuthType.openId.cookieNames setup.server, N name) :
    Proc.Preserves (World.Named N) (OpenIdAuthRoutes.login setup nonce request) := by
  have hback : Proc.Preserves (World.Named N) (OpenIdAuthRoutes.redirectToLogin setup) :=
    clearing_named _
  have hcomplete : ∀ oidc, Proc.Preserves (World.Named N)
      (OpenIdAuthRoutes.completeLogin setup request oidc) := by
    intro oidc
    unfold OpenIdAuthRoutes.completeLogin
    refine Proc.Preserves.bind (Proc.Preserves.ofExcept _) fun tokenResponse => ?_
    refine Proc.Preserves.bind (authenticateWithHeader_named _ _) fun user => ?_
    refine Proc.Preserves.bind (Proc.Preserves.ofExcept _) fun expiryTime => ?_
    refine Proc.Preserves.bind
      (onQueue_named (store_named (cookieNames_of_storage rfl hN) _)) fun _ => ?_
    exact Proc.Preserves.bind (setSession_named _) fun _ => Proc.Preserves.pure _
  unfold OpenIdAuthRoutes.login
  split_ifs
  · unfold OpenIdAuthRoutes.callback
    cases OpenIdAuthRoutes.pendingLogin request with
    | none => exact hback
    | some oidc =>
      refine Proc.Preserves.bind (Proc.Preserves.attempt (hcomplete oidc)) fun r => ?_
      cases r with
      | ok response => exact Proc.Preserves.pure _
      | error error =>
        dsimp only
        split_ifs
        · exact Proc.Preserves.pure _
        · exact hback
  · exact Proc.Preserves.bind (setSession_named _) fun _ => Proc.Preserves.pure _

theorem startSession_named (hN : ∀ name ∈ AuthType.saml.cookieNames setup.server, N name)
    (body : AuthTokenBody) :
    Proc.Preserves (World.Named N) (SamlAuthRoutes.startSession setup request body) := by
  unfold SamlAuthRoutes.startSession
  refine Proc.Preserves.bind (Proc.Preserves.ofExcept _) fun credentials => ?_
  refine Proc.Preserves.bind (authenticateWithHeader_named _ _) fun user => ?_
  cases credentials with
  | none => exact Proc.Preserves.throw _
  | some authorization =>
    refine Proc.Preserves.bind (Proc.Preserves.ofExcept _) fun expiryTime => ?_
    exact Proc.Preserves.bind
      (onQueue_named (store_named (cookieNames_of_storage rfl hN) _)) fun _ => setSession_named _

theorem acs_named (hN : ∀ name ∈ AuthType.saml.cookieNames setup.server, N name)
    (samlResponse : String) :
    Proc.Preserves (World.Named N) (SamlAuthRoutes.acs setup request samlResponse) := by
  unfold SamlAuthRoutes.acs
  cases request.session with
  | error e => exact Proc.Preserves.pure _
  | ok cookie =>
    dsimp only
    cases (cookie.bind (·.saml)).filter fun saml => truthyString saml.requestId with
    | none => exact Proc.Preserves.pure _
    | some saml =>
      refine Proc.Preserves.bind (Proc.Preserves.attempt (startSession_named hN _)) fun r => ?_
      cases r <;> exact Proc.Preserves.pure _

/-- A plain route queues split cookies of its type only. -/
theorem PlainRoute.handler_named (route : PlainRoute)
    (hN : ∀ name ∈ route.authType.cookieNames setup.server, N name) :
    Proc.Preserves (World.Named N) (route.handler setup request) := by
  cases route with
  | loginPage => exact clearing_named _
  | basicLogin username password => exact basicLogin_named username password
  | basicLogout => exact clearing_named _
  | anonymousLogin => exact anonymousLogin_named
  | openIdLogin nonce => exact openIdLogin_named nonce hN
  | openIdCapture => exact clearing_named _
  | samlLogin isAuthenticated =>
    show Proc.Preserves (World.Named N) (SamlAuthRoutes.login setup isAuthenticated request)
    unfold SamlAuthRoutes.login
    split_ifs
    · exact Proc.Preserves.pure _
    · split
      · exact Proc.Preserves.pure _
      · exact Proc.Preserves.bind (setSession_named _) fun _ => Proc.Preserves.pure _
  | samlAcs samlResponse => exact acs_named hN samlResponse
  | samlIdpInitiated samlResponse =>
    refine Proc.Preserves.bind (Proc.Preserves.attempt (startSession_named hN _)) fun r => ?_
    cases r <;> exact Proc.Preserves.pure _
  | samlCapture => exact clearing_named _
  | jwtLogout =>
    exact Proc.Preserves.bind (clear_named (cookieNames_of_storage rfl hN)) fun _ =>
      clearing_named _

/-- So does a route behind `authHandler`. -/
theorem GuardedRoute.handler_named (route : GuardedRoute)
    (hN : ∀ authType, route.authType = some authType →
      ∀ name ∈ authType.cookieNames setup.server, N name)
    (cookie : Except JsError (Option SecuritySessionCookie)) :
    Proc.Preserves (World.Named N) (route.handler setup request cookie) := by
  cases route with
  | postTenant tenant =>
    refine Proc.Preserves.bind (Proc.Preserves.ofExcept _) fun read => ?_
    refine Proc.Preserves.bind ?_ fun _ => Proc.Preserves.pure _
    cases read with
    | none => exact Proc.Preserves.pure _
    | some read => exact Proc.Preserves.bind (setSession_named _) fun _ => Proc.Preserves.pure _
  | openIdLogout =>
    refine Proc.Preserves.bind ?_ fun _ => Proc.Preserves.pure _
    unfold OpenIdAuthRoutes.logout
    refine Proc.Preserves.bind (Proc.Preserves.ofExcept _) fun read => ?_
    refine Proc.Preserves.bind (fun _ h => h) fun w => ?_
    refine Proc.Preserves.bind (Proc.Preserves.ofExcept _) fun token => ?_
    refine Proc.Preserves.bind (clear_named (cookieNames_of_storage rfl (hN _ rfl))) fun _ => ?_
    refine Proc.Preserves.bind clearSession_named fun _ => ?_
    refine Proc.Preserves.bind (Proc.Preserves.ofExcept _) fun hint => ?_
    exact Proc.Preserves.bind (Proc.Preserves.ofExcept _) fun _ => Proc.Preserves.pure _
  | samlLogout =>
    refine Proc.Preserves.bind ?_ fun _ => Proc.Preserves.pure _
    unfold SamlAuthRoutes.logout
    refine Proc.Preserves.bind (Proc.Preserves.attempt (authinfo_named _)) fun r => ?_
    cases r with
    | error error => exact Proc.Preserves.pure _
    | ok authInfo =>
      exact Proc.Preserves.bind (clear_named (cookieNames_of_storage rfl (hN _ rfl))) fun _ =>
        clearing_named _
  | proxyLogout => exact Proc.Preserves.bind (clearing_named _) fun _ => Proc.Preserves.pure _
  | other => exact Proc.Preserves.pure _

end Routes

/-! ## Calls of routes -/

section Calls

variable {server : Server} {scheme : Scheme} {a : Action} {c : Client} {authType : AuthType}

/-- A split cookie with this name belongs to a type that handles the call. -/
def Action.MayQueue (server : Server) (scheme : Scheme) (a : Action) (c : Client) (name : String) :
    Prop :=
  ∃ authType, a.HandledBy server scheme c authType ∧ name ∈ authType.cookieNames server

/-- Every split cookie that a call queues is one of a type that handles it. -/
theorem run_named (server : Server) (scheme : Scheme) (a : Action) (c : Client) :
    (a.run server scheme c).2.Named (a.MayQueue server scheme c) := by
  have hnone : World.Named (a.MayQueue server scheme c) {} := List.forall_mem_nil _
  unfold Action.run
  cases hroute : a.route with
  | plain route =>
    have hhandler : Proc.Preserves (World.Named (a.MayQueue server scheme c))
        (route.handler (a.services server) (a.sent c)) := by
      refine PlainRoute.handler_named route fun name hname => ⟨route.authType, ?_, hname⟩
      unfold Action.HandledBy
      rw [hroute]
    exact hhandler.exec hnone
  | guarded route =>
    have hhandled : ∀ authType, route.authType = some authType ∨
        scheme.inCharge server a.setup.environment (a.sent c) = some authType →
        a.HandledBy server scheme c authType := by
      intro authType h
      unfold Action.HandledBy
      rw [hroute]
      exact h
    have hauth : (a.authenticate server scheme c).2.Named (a.MayQueue server scheme c) :=
      (scheme_named scheme fun authType h name hname =>
        ⟨authType, hhandled authType (Or.inr h), hname⟩).exec hnone
    have hguarded : (a.handleGuarded server scheme c route
        (a.authenticate server scheme c).2).Named (a.MayQueue server scheme c) :=
      (GuardedRoute.handler_named route (fun authType h name hname =>
        ⟨authType, hhandled authType (Or.inl h), hname⟩) _).exec hauth
    dsimp only
    split_ifs
    · exact hguarded
    · exact hauth

theorem mem_types_of_find {authHandlers : List AuthType} {p : AuthType → Bool}
    (h : authHandlers.find? p = some authType) :
    authType ∈ (Scheme.multiple authHandlers).types :=
  List.mem_of_find?_eq_some h

theorem mem_types_of_inCharge {environment : Environment} {request : Request}
    (h : scheme.inCharge server environment request = some authType) :
    authType ∈ scheme.types := by
  unfold Scheme.inCharge at h
  split_ifs at h
  · cases scheme with
    | single t =>
      cases h
      exact List.mem_singleton_self _
    | multiple authHandlers => exact mem_types_of_find h
  · obtain ⟨cookie, -, htype⟩ := Option.bind_eq_some_iff.mp h
    cases scheme with
    | single t =>
      cases htype
      exact List.mem_singleton_self _
    | multiple authHandlers =>
      obtain ⟨reqAuthType, -, hfind⟩ := Option.bind_eq_some_iff.mp htype
      exact mem_types_of_find hfind

/-- A call of a route that the server has is handled by its types. -/
theorem mem_types_of_handledBy (hoffered : a.Offered scheme)
    (h : a.HandledBy server scheme c authType) : authType ∈ scheme.types := by
  unfold Action.Offered at hoffered
  unfold Action.HandledBy at h
  cases hroute : a.route with
  | plain route =>
    rw [hroute] at hoffered h
    exact h ▸ hoffered
  | guarded route =>
    rw [hroute] at hoffered h
    rcases h with h | h
    · exact hoffered authType h
    · exact mem_types_of_inCharge h

end Calls

/-! ## A server that was set up -/

section SetUp

variable {core : CoreSetup} {config : SecurityPluginConfig} {cookie : CookieOptions}
  {declared declared' : core.http.State} {scheme : Scheme}

/-- Whatever the cookies of the browser are and whatever the services answer: every split cookie that
a response sets or clears was declared, and it is protected as the session cookie is. Both are secure
as the configuration says, or else if the server is reached by TLS. -/
theorem split_cookies_declared
    (h : SecurityPlugin.setup core config cookie declared = .ok (scheme, declared')) :
    ∃ session, core.http.lookup declared' cookie.name = some session ∧
      session.isSecure = config.cookie.secure.getD (core.serverInfo.protocol == "https") ∧
      ∀ (a : Action) (c : Client), a.Offered scheme →
        ∀ entry ∈ (a.run (SecurityPlugin.server core config) scheme c).2.queue.states,
          entry.1 ≠ cookie.name ∧ ∃ settings, core.http.lookup declared' entry.1 = some settings ∧
            settings.Protects session := by
  obtain ⟨session, hsession, hsecure, hpassword, hnames⟩ := declared_of_setup h
  refine ⟨session, hsession, hsecure, fun a c hoffered entry hentry => ?_⟩
  obtain ⟨authType, hhandled, hname⟩ := run_named _ scheme a c entry hentry
  have htypes : authType ∈ configuredTypes core.runtime config :=
    mem_configuredTypes (setup_ok_iff.mp h).1 (mem_types_of_handledBy hoffered hhandled)
  obtain ⟨hne, hlookup⟩ := hnames entry.1 (List.mem_flatMap.mpr ⟨authType, htypes, hname⟩)
  exact ⟨hne, _, hlookup, ⟨hsecure.symm, hpassword.symm, rfl, rfl⟩⟩

/-- A response leaves the split cookies that it does not name. -/
theorem browser_split_after {browser : Browser} {w : World} {name : String}
    (h : ∀ entry ∈ w.queue.states, entry.1 ≠ name) :
    (browser.after w).split name = browser.split name := by
  have hlookup : w.queue.states.lookup name = none :=
    List.lookup_eq_none_iff.mpr fun entry hentry => bne_iff_ne.mpr (h entry hentry).symm
  unfold Browser.after Browser.applyStates
  dsimp only
  rw [hlookup]

/-- A call that the type does not handle leaves its split cookies as they are. -/
theorem clientStep_split
    (h : SecurityPlugin.setup core config cookie declared = .ok (scheme, declared'))
    {authType : AuthType} (hmem : authType ∈ scheme.types) {a : Action} {c : Client}
    (hoffered : a.Offered scheme)
    (hother : ¬a.HandledBy (SecurityPlugin.server core config) scheme c authType) {name : String}
    (hname : name ∈ authType.cookieNames (SecurityPlugin.server core config)) :
    (clientStep (SecurityPlugin.server core config) scheme a c).2.browser.split name =
      c.browser.split name := by
  refine browser_split_after fun entry hentry heq => ?_
  obtain ⟨authType', hhandled, hname'⟩ := run_named _ scheme a c entry hentry
  have hne : authType ≠ authType' := fun hsame => hother (hsame ▸ hhandled)
  exact cookieNames_disjoint h hmem (mem_types_of_handledBy hoffered hhandled) hne hname
    (heq ▸ hname')

/-- The server with three types is reached by TLS, and its configuration says nothing about it. -/
theorem Sample.three_types_protected :
    ∃ session, Sample.tlsCore.http.lookup Sample.threeTypesDeclared "security_authentication" =
        some session ∧
      session.isSecure = true ∧
      ∀ (a : Action) (c : Client), a.Offered Sample.threeTypesScheme →
        ∀ entry ∈ (a.run Sample.threeTypesServer Sample.threeTypesScheme c).2.queue.states,
          entry.1 ≠ "security_authentication" ∧
            ∃ settings, Sample.tlsCore.http.lookup Sample.threeTypesDeclared entry.1 =
                some settings ∧
              settings.Protects session :=
  split_cookies_declared Sample.three_types_set_up

/-- What is read back depends on the split cookies of the type only. -/
theorem getExtraAuthStorageValue_congr {runtime : Runtime} {options : ExtraAuthStorageOptions}
    {request request' : Request}
    (h : ∀ name ∈ options.cookieNames, request'.cookies.split name = request.cookies.split name) :
    getExtraAuthStorageValue runtime request' [] options =
      getExtraAuthStorageValue runtime request [] options := by
  have hread : unsplitCookiesIntoValue request' [] options.cookiePrefix options.additionalCookies =
      unsplitCookiesIntoValue request [] options.cookiePrefix options.additionalCookies := by
    refine List.flatMap_congr fun i hi => ?_
    show (request'.cookies.split (splitCookieName options.cookiePrefix i)).getD [] =
      (request.cookies.split (splitCookieName options.cookiePrefix i)).getD []
    rw [h _ (List.mem_map_of_mem hi)]
  unfold getExtraAuthStorageValue
  rw [hread]

/-- Whatever a browser does on a server with several types, and in whichever order: as long as a type
handles none of the calls, its split cookies stay as they are, and it reads back from them what it
would have read before. -/
theorem split_cookies_isolated
    (h : SecurityPlugin.setup core config cookie declared = .ok (scheme, declared'))
    {authType : AuthType} (hmem : authType ∈ scheme.types) {options : ExtraAuthStorageOptions}
    (hoptions : authType.extraStorage (SecurityPlugin.server core config) = some options)
    {actions : List Action} {c : Client}
    (hmeets : Machine.Meets (clientStep (SecurityPlugin.server core config) scheme)
      (fun a c => a.Offered scheme ∧
        ¬a.HandledBy (SecurityPlugin.server core config) scheme c authType) actions c) :
    (∀ name ∈ options.cookieNames,
      (Machine.exec (clientStep (SecurityPlugin.server core config) scheme) actions
        c).browser.split name = c.browser.split name) ∧
    ∀ before later : Request, before.cookies = c.browser →
      later.cookies =
        (Machine.exec (clientStep (SecurityPlugin.server core config) scheme) actions c).browser →
      getExtraAuthStorageValue core.runtime later [] options =
        getExtraAuthStorageValue core.runtime before [] options := by
  have hnames : authType.cookieNames (SecurityPlugin.server core config) = options.cookieNames := by
    unfold AuthType.cookieNames
    rw [hoptions]
  have hsame : ∀ name ∈ options.cookieNames,
      (Machine.exec (clientStep (SecurityPlugin.server core config) scheme) actions
        c).browser.split name = c.browser.split name := by
    intro name hname
    refine Machine.exec_of_meets (fun c' => c'.browser.split name = c.browser.split name)
      (fun a c' hC hc' => ?_) hmeets rfl
    exact (clientStep_split h hmem hC.1 hC.2 (hnames ▸ hname)).trans hc'
  refine ⟨hsame, fun before later hbefore hlater => ?_⟩
  refine getExtraAuthStorageValue_congr fun name hname => ?_
  rw [hbefore, hlater]
  exact hsame name hname

/-- A login of the SAML type. -/
def Sample.samlLoginAction : Action where
  route := .plain (.samlAcs "response")
  request := { url := { pathname := "/_opendistro/_security/saml/acs" } }
  setup := Sample.loginSetup

/-- A browser with a split cookie of the JWT type. -/
def Sample.jwtClient : Client :=
  { browser := { split := fun name =>
      if name = "security_authentication_jwt1" then some Sample.tokenText else none } }

/-- A SAML login does not touch the split cookies of the JWT type. -/
theorem Sample.jwt_isolated :
    (Machine.exec (clientStep Sample.threeTypesServer Sample.threeTypesScheme)
        [Sample.samlLoginAction] Sample.jwtClient).browser.split "security_authentication_jwt1" =
      some Sample.tokenText := by
  have hoffered : Sample.samlLoginAction.Offered Sample.threeTypesScheme := by
    show AuthType.saml ∈ [AuthType.basic, AuthType.saml, AuthType.jwt]
    decide
  have hmeets : Machine.Meets (clientStep Sample.threeTypesServer Sample.threeTypesScheme)
      (fun a c => a.Offered Sample.threeTypesScheme ∧
        ¬a.HandledBy Sample.threeTypesServer Sample.threeTypesScheme c .jwt)
      [Sample.samlLoginAction] Sample.jwtClient :=
    ⟨⟨hoffered, fun h => nomatch (show AuthType.saml = AuthType.jwt from h)⟩, trivial⟩
  have hname : "security_authentication_jwt1" ∈
      JwtAuthentication.JWT_DEFAULT_EXTRA_STORAGE_OPTIONS.cookieNames := by decide
  exact (split_cookies_isolated Sample.three_types_set_up (by decide) rfl hmeets).1 _ hname

end SetUp

end SecurityDashboards
