import SecurityDashboards.Attempts
import SecurityDashboards.Proofs.RejectionProofs

/-!
# Proofs: what failed attempts leave behind

The header path stores the token before the last steps that may fail, and a refresh before the
backend has seen the new token. The routes store at their very end.
-/

namespace SecurityDashboards

/-! ## Fragments -/

section Storage

variable {server : Server} {options : ExtraAuthStorageOptions}

theorem not_setsFragment_of_states {queue : Queue} (h : queue.states = []) :
    ¬ queue.SetsFragment := by
  rintro ⟨name, fragment, hlookup⟩
  rw [h] at hlookup
  cases hlookup

theorem leavesNothing_of_clean {w : World} (hstates : w.queue.states = [])
    (hsession : ∀ cookie, w.session ≠ some (some cookie)) : w.LeavesNothing :=
  ⟨fun cookie h => absurd h (hsession cookie), not_setsFragment_of_states hstates⟩

/-- A text that is not empty fills the first cookie. -/
theorem splits_first {states : States} {cookiePrefix : String} {value : Text} {n : ℕ} (hn : 0 < n)
    (hvalue : value ≠ []) :
    ∃ fragment, (splitValueIntoCookies states cookiePrefix value n).lookup
      (splitCookieName cookiePrefix 0) = some (some fragment) := by
  have hlength : 0 < value.length := List.length_pos_of_ne_nil hvalue
  have hsize : 0 < splitValueAt value.length n := by
    have hle : value.length ≤ n * splitValueAt value.length n := length_le_splitValueAt hn
    by_contra hzero
    rw [Nat.le_zero.mp (Nat.not_lt.mp hzero)] at hle
    omega
  have hchunk : Chunks.chunk (splitValueAt value.length n) value 0 ≠ [] := by
    rw [Chunks.chunk_eq, Nat.zero_mul, List.drop_zero]
    intro h
    have htake := congrArg List.length h
    rw [List.length_take, List.length_nil] at htake
    omega
  refine ⟨Chunks.chunk (splitValueAt value.length n) value 0, ?_⟩
  rw [lookup_split hn, if_neg]
  rw [List.isEmpty_iff]
  exact hchunk

/-- The queue after the first storing of a value. -/
def storedQueue (server : Server) (options : ExtraAuthStorageOptions) (content : String) :
    Queue where
  states := splitValueIntoCookies [] options.cookiePrefix
    (Buffer.toBase64 (server.runtime.deflateSync content)) options.additionalCookies

/-- What is stored is set in a cookie as soon as there is one for it. -/
theorem setsFragment_stored_iff {content : String} :
    (storedQueue server options content).SetsFragment ↔ 0 < options.additionalCookies := by
  unfold storedQueue
  constructor
  · rintro ⟨name, fragment, hlookup⟩
    by_contra hzero
    rw [Nat.le_zero.mp (Nat.not_lt.mp hzero)] at hlookup
    cases hlookup
  · intro hn
    exact ⟨_, splits_first hn (encoded_ne_nil server.runtime content)⟩

end Storage

/-! ## Minted cookies -/

section Mint

variable {server : Server} {environment : Environment} {request : Request} {authInfo : AuthInfo}

/-- `store`, for any value of a header. -/
theorem exec_store_cases (server : Server) (options : ExtraAuthStorageOptions) (v : HeaderValue) :
    (∃ s, v = .str s ∧ (ExtraStorage.store server options v).exec {} =
        (.ok (), storedQueue server options s)) ∨
      (∀ s, v ≠ .str s) ∧
        ∃ e, (ExtraStorage.store server options v).exec {} = (.error e, {}) := by
  cases v with
  | str s => exact Or.inl ⟨s, rfl, exec_store s {}⟩
  | undefined => exact Or.inr ⟨fun s h => (by cases h), _, rfl⟩
  | inherited => exact Or.inr ⟨fun s h => (by cases h), _, rfl⟩

/-- How `getCookie` of a type ends. -/
inductive MintOutcome (server : Server) (request : Request) (authType : AuthType)
    (outcome : Except JsError SecuritySessionCookie × Queue) : Prop where
  | minted (cookie : SecuritySessionCookie) (hok : outcome.1 = .ok cookie)
    (hstorable : authType.Storable server request) (hreadable : authType.Readable server request)
    (hestablished : cookie.Established) (htenant : cookie.tenant = none)
    (hfragment : outcome.2.SetsFragment ↔ authType.Keeps server request)
  | unstorable (e : JsError) (hfails : outcome = (.error e, {}))
    (hstorable : ¬ authType.Storable server request)
  | unreadable (e : JsError) (hfails : outcome.1 = .error e)
    (hreadable : ¬ authType.Readable server request)
    (hfragment : outcome.2.SetsFragment ↔ authType.Keeps server request)

theorem basic_established : (BasicAuthentication.getCookie server request authInfo).Established := by
  unfold BasicAuthentication.getCookie SecuritySessionCookie.Established
  split
  · rename_i hanonymous
    simp only [Bool.and_eq_true, beq_iff_eq] at hanonymous
    left
    show truthyString authInfo.user_name = true
    rw [hanonymous.2]
    decide
  · exact Or.inr rfl

/-- The fragments of a type with split cookies, after its value was stored. -/
theorem setsFragment_iff_keeps {authType : AuthType} {options : ExtraAuthStorageOptions} {s : String}
    (hsplit : authType.splitValue server request = some (options, .str s)) :
    (storedQueue server options s).SetsFragment ↔ authType.Keeps server request := by
  rw [setsFragment_stored_iff]
  constructor
  · intro hn
    exact ⟨options, s, hsplit, hn⟩
  · rintro ⟨options', s', hsplit', hn⟩
    rw [hsplit] at hsplit'
    cases hsplit'
    exact hn

theorem storable_of_str {authType : AuthType} {options : ExtraAuthStorageOptions} {s : String}
    (hsplit : authType.splitValue server request = some (options, .str s)) :
    authType.Storable server request := by
  intro options' v h
  rw [hsplit] at h
  cases h
  exact ⟨s, rfl⟩

theorem not_storable {authType : AuthType} {options : ExtraAuthStorageOptions} {v : HeaderValue}
    (hsplit : authType.splitValue server request = some (options, v)) (hv : ∀ s, v ≠ .str s) :
    ¬ authType.Storable server request := by
  intro h
  obtain ⟨s, hs⟩ := h options v hsplit
  exact hv s hs

/-- The types that store the value of a header and mint a cookie from the rest. -/
theorem mintOutcome_of_store {authType : AuthType} {options : ExtraAuthStorageOptions}
    {v : HeaderValue} {cookie : SecuritySessionCookie} (hne : authType ≠ .jwt)
    (hsplit : authType.splitValue server request = some (options, v))
    (hcookie : cookie.credentials.isSome = true) (htenant : cookie.tenant = none) :
    MintOutcome server request authType
      ((ExtraStorage.store server options v >>= fun _ => pure cookie).exec {}) := by
  rcases exec_store_cases server options v with ⟨s, rfl, hstore⟩ | ⟨hv, e, hstore⟩
  · rw [Proc.exec_bind_of_ok hstore]
    exact .minted cookie rfl (storable_of_str hsplit) (fun h => absurd h hne) (Or.inr hcookie)
      htenant (setsFragment_iff_keeps hsplit)
  · rw [Proc.exec_bind, hstore]
    exact .unstorable e rfl (not_storable hsplit hv)

/-- The JWT type reads the expiry time after it has stored the token. -/
theorem jwt_mintOutcome :
    MintOutcome server request .jwt
      ((JwtAuthentication.getCookie server request authInfo).exec {}) := by
  have hsplit : AuthType.jwt.splitValue server request =
      some (JwtAuthentication.getExtraAuthStorageOptions server,
        (JwtAuthentication.getBearerToken server request).or (.str "")) := rfl
  unfold JwtAuthentication.getCookie
  rcases exec_store_cases server (JwtAuthentication.getExtraAuthStorageOptions server)
    ((JwtAuthentication.getBearerToken server request).or (.str "")) with
    ⟨s, hs, hstore⟩ | ⟨hv, e, hstore⟩
  · rw [Proc.exec_bind_of_ok hstore, Proc.exec_bind, Proc.exec_ofExcept]
    rw [hs] at hsplit
    have hreadable : (∃ expiryTime, getExpirationDate server.runtime
        (JwtAuthentication.getBearerToken server request)
        (request.now + server.config.session.ttl) = .ok expiryTime) ↔
          ReadableToken server.runtime (JwtAuthentication.getBearerToken server request) :=
      getExpirationDate_ok_iff
    cases hexpiry : getExpirationDate server.runtime
        (JwtAuthentication.getBearerToken server request)
        (request.now + server.config.session.ttl) with
    | ok expiryTime =>
      exact .minted _ rfl (storable_of_str hsplit)
        (fun _ => hreadable.mp ⟨expiryTime, hexpiry⟩) (Or.inr rfl) rfl
        (setsFragment_iff_keeps hsplit)
    | error e =>
      refine .unreadable e rfl (fun h => ?_) (setsFragment_iff_keeps hsplit)
      obtain ⟨expiryTime, hok⟩ := hreadable.mpr (h rfl)
      rw [hexpiry] at hok
      cases hok
  · rw [Proc.exec_bind, hstore]
    exact .unstorable e rfl (not_storable hsplit hv)

theorem mintOutcome (authType : AuthType) :
    MintOutcome server request authType
      (((authType.handler server environment).getCookie request authInfo).exec {}) := by
  have hnone : ∀ authType', AuthType.splitValue server request authType' = none →
      ¬ authType'.Keeps server request := by
    rintro authType' h ⟨options, s, hsplit, -⟩
    rw [h] at hsplit
    cases hsplit
  have hempty : ¬ Queue.SetsFragment {} := not_setsFragment_of_states rfl
  cases authType with
  | basic =>
    have hstorable : AuthType.basic.Storable server request := fun _ _ h => (by cases h)
    exact .minted (BasicAuthentication.getCookie server request authInfo) rfl hstorable
      (fun h => (by cases h)) basic_established
      (by unfold BasicAuthentication.getCookie; split <;> rfl)
      ⟨fun h => absurd h hempty, fun h => absurd h (hnone .basic rfl)⟩
  | proxy =>
    have hstorable : AuthType.proxy.Storable server request := fun _ _ h => (by cases h)
    exact .minted (ProxyAuthentication.getCookie server request authInfo) rfl hstorable
      (fun h => (by cases h)) (Or.inr rfl) rfl
      ⟨fun h => absurd h hempty, fun h => absurd h (hnone .proxy rfl)⟩
  | openId => exact mintOutcome_of_store (by decide) rfl rfl rfl
  | saml => exact mintOutcome_of_store (by decide) rfl rfl rfl
  | jwt => exact jwt_mintOutcome

/-- A request with authentication data has a type that mints its cookie. -/
theorem scheme_getCookie {scheme : Scheme}
    (h : (scheme.authentication server environment).requestIncludesAuthInfo request = true) :
    ∃ authType, scheme.mintedBy server environment request = some authType ∧
      ∀ authInfo, (scheme.authentication server environment).getCookie request authInfo =
        (authType.handler server environment).getCookie request authInfo := by
  cases scheme with
  | single authType => exact ⟨authType, rfl, fun _ => rfl⟩
  | multiple authHandlers =>
    have hany : MultipleAuthentication.requestIncludesAuthInfo server environment authHandlers
        request = true := h
    unfold MultipleAuthentication.requestIncludesAuthInfo at hany
    cases hclaimant : MultipleAuthentication.claimant server environment authHandlers request with
    | none =>
      obtain ⟨authType, hmem, hincl⟩ := List.any_eq_true.mp hany
      exact absurd hincl (List.find?_eq_none.mp hclaimant authType hmem)
    | some authType =>
      refine ⟨authType, hclaimant, fun authInfo => ?_⟩
      show MultipleAuthentication.getCookie server environment authHandlers request authInfo = _
      rw [MultipleAuthentication.getCookie, hclaimant]

end Mint

/-! ## The tenant -/

theorem fails_handler_iff {result : Except JsError AuthResult} :
    Answer.Fails (result.map .handler) ↔ isAuthenticated result = false := by
  cases result with
  | error e => exact ⟨fun _ => rfl, fun _ => trivial⟩
  | ok result =>
    cases result with
    | authenticated a => exact ⟨fun h => absurd h id, fun h => (by cases h)⟩
    | refused refusal => exact ⟨fun _ => rfl, fun _ => trivial⟩
    | badRequest body => exact ⟨fun _ => rfl, fun _ => trivial⟩

theorem not_authenticated_of_answered {auth : AuthenticationType} {request : Request}
    {outcome : Except JsError AuthResult × World} (h : AnsweredUnauthenticated auth request outcome) :
    isAuthenticated outcome.1 = false := by
  unfold AnsweredUnauthenticated at h
  split at h
  · rw [h]
    rfl
  · rw [h.1]
    rfl

theorem firstAvailableTenant_error {tenants : Tenants} {e : JsError}
    (h : firstAvailableTenant tenants = .error e) : ∃ message, e = .error message := by
  unfold firstAvailableTenant at h
  split at h
  · split at h
    · cases h
      exact ⟨_, rfl⟩
    · split at h <;> cases h
  · cases h

theorem resolve_error {toLowerCase : String → String} {username : String}
    {requestedTenant : Option String} {preferredTenants : Option (List String)} {tenants : Tenants}
    {globalTenantEnabled : Bool} {multitenancyEnabled privateTenantEnabled : Option Bool}
    {e : JsError}
    (h : resolve toLowerCase username requestedTenant preferredTenants tenants globalTenantEnabled
      multitenancyEnabled privateTenantEnabled = .error e) : ∃ message, e = .error message := by
  unfold resolve at h
  dsimp only at h
  split at h
  · cases h
  split at h
  · split at h <;> cases h
  split at h
  · cases h
  split at h
  · cases h
  split at h
  · cases h
  split at h
  · cases h
  exact firstAvailableTenant_error h

section Tenant

variable {server : Server} {environment : Environment} {request : Request}
  {auth : AuthenticationType} {cookie : SecuritySessionCookie} {headers : HeaderObject}
  {authInfo : AuthInfo} {w : World}

/-- The tenant of a known user. -/
def tenantOfKnown (server : Server) (environment : Environment) (request : Request)
    (calls : List BackendCall) (headers : HeaderObject) (authInfo : AuthInfo)
    (cookieTenant : Option String) : Except JsError (Option String) :=
  match environment.dashboardsinfo calls request headers with
  | .error message => .error (.error message)
  | .ok dashboardsInfo =>
    match authInfo.tenants with
    | none => .error (.error "Cannot convert undefined or null to object")
    | some tenants =>
      resolveTenant server.runtime.toLowerCase request (authInfo.user_name.getD "undefined")
        authInfo.roles tenants server.config { tenant := cookieTenant }
        dashboardsInfo.multitenancy_enabled dashboardsInfo.private_tenant_enabled
        dashboardsInfo.default_tenant

theorem tenantFound_iff {calls : List BackendCall} {cookieTenant : Option String} {tenant : String} :
    TenantFound server environment request calls headers authInfo cookieTenant tenant ↔
      tenantOfKnown server environment request calls headers authInfo cookieTenant =
        .ok (some tenant) := by
  unfold tenantOfKnown TenantFound
  cases hdashboards : environment.dashboardsinfo calls request headers with
  | error message =>
    constructor
    · rintro ⟨dashboardsInfo, tenants, h, -⟩
      cases h
    · intro h
      cases h
  | ok dashboardsInfo =>
    cases htenants : authInfo.tenants with
    | none =>
      constructor
      · rintro ⟨dashboardsInfo', tenants, -, h, -⟩
        cases h
      · intro h
        cases h
    | some tenants =>
      constructor
      · rintro ⟨dashboardsInfo', tenants', h, h', hresolve⟩
        cases h
        cases h'
        exact hresolve
      · intro hresolve
        exact ⟨dashboardsInfo, tenants, rfl, rfl, hresolve⟩

theorem not_tenantFound {calls : List BackendCall} {cookieTenant : Option String}
    (h : ∀ tenant, tenantOfKnown server environment request calls headers authInfo cookieTenant ≠
      .ok (some tenant)) :
    ¬ ∃ tenant, TenantFound server environment request calls headers authInfo cookieTenant tenant := by
  rintro ⟨tenant, hfound⟩
  exact h tenant (tenantFound_iff.mp hfound)

/-- Without a tenant the first answer of the backend is of no use. -/
theorem not_acceptsHeaders (henabled : server.config.multitenancy.enabled = true)
    {cookieTenant : Option String} (hanswer : environment.authinfo [] request headers = .ok authInfo)
    (hno : ¬ ∃ tenant, TenantFound server environment request [.authinfo headers (.ok authInfo)]
      headers authInfo cookieTenant tenant) :
    ¬ AcceptsHeaders server environment request headers cookieTenant := by
  rintro ⟨authInfo', hanswer', haccepts⟩
  cases hanswer.symm.trans hanswer'
  obtain ⟨tenant, hfound, -⟩ := haccepts henabled
  exact hno ⟨tenant, hfound⟩

theorem tenantOfKnown_error {calls : List BackendCall} {cookieTenant : Option String} {e : JsError}
    (h : tenantOfKnown server environment request calls headers authInfo cookieTenant = .error e) :
    ∃ message, e = .error message := by
  unfold tenantOfKnown at h
  split at h
  · cases h
    exact ⟨_, rfl⟩
  split at h
  · cases h
    exact ⟨_, rfl⟩
  · exact resolve_error h

namespace AuthenticationType

/-- Of the cookie only its tenant matters. -/
theorem exec_resolveTenant_known :
    (resolveTenant server environment request cookie headers (some authInfo)).exec w =
      (tenantOfKnown server environment request w.calls headers authInfo cookie.tenant,
        { w with
          calls := .dashboardsinfo headers (environment.dashboardsinfo w.calls request headers) ::
            w.calls }) := by
  unfold resolveTenant tenantAuthInfo tenantOfKnown
  rw [Proc.exec_bind_of_ok (Proc.exec_pure _ _), Proc.exec_bind, exec_dashboardsinfo]
  cases environment.dashboardsinfo w.calls request headers with
  | error message => rfl
  | ok dashboardsInfo =>
    dsimp only [Except.mapError]
    cases authInfo.tenants with
    | none => rfl
    | some tenants => rfl

/-- A user that is not known yet is asked for first. -/
theorem exec_resolveTenant_asked
    (haccepted : environment.authinfo w.calls request headers = .ok authInfo) :
    (resolveTenant server environment request cookie headers none).exec w =
      (resolveTenant server environment request cookie headers (some authInfo)).exec
        { w with calls := .authinfo headers (.ok authInfo) :: w.calls } := by
  unfold resolveTenant tenantAuthInfo
  rw [Proc.exec_bind, Proc.exec_bind, Proc.exec_attempt, exec_authinfo, haccepted]
  rfl

/-- Writing the tenant does not fail, and changes nothing but the session cookie. -/
theorem exec_setTenant (cookie : SecuritySessionCookie) (tenant : String) (w : World) :
    ∃ session, (setTenant cookie tenant).exec w = (.ok (), { w with session }) := by
  unfold setTenant
  by_cases hsame : cookie.tenant = some tenant
  · rw [if_pos hsame]
    exact ⟨w.session, rfl⟩
  · rw [if_neg hsame]
    exact ⟨_, rfl⟩

/-- With a known user the request fails exactly when no tenant is found, and a failure leaves the
cookies as they are. -/
theorem withTenant_known (auth : AuthenticationType) (server : Server) (environment : Environment)
    (request : Request) (cookie : SecuritySessionCookie) (headers : HeaderObject)
    (authInfo : AuthInfo) (w : World) :
    (isAuthenticated ((auth.withTenant server environment request cookie headers
        (some authInfo)).exec w).1 = true ∧
      (server.config.multitenancy.enabled = true →
        ∃ tenant, TenantFound server environment request w.calls headers authInfo cookie.tenant
          tenant)) ∨
    (isAuthenticated ((auth.withTenant server environment request cookie headers
        (some authInfo)).exec w).1 = false ∧
      ((auth.withTenant server environment request cookie headers
        (some authInfo)).exec w).2.cookies = w.cookies ∧
      server.config.multitenancy.enabled = true ∧
      ¬ ∃ tenant, TenantFound server environment request w.calls headers authInfo cookie.tenant
        tenant) := by
  unfold withTenant
  by_cases henabled : server.config.multitenancy.enabled = true
  · rw [if_pos henabled, Proc.exec_bind, Proc.exec_attempt, exec_resolveTenant_known]
    dsimp only
    cases htenant : tenantOfKnown server environment request w.calls headers authInfo
        cookie.tenant with
    | error e =>
      obtain ⟨message, rfl⟩ := tenantOfKnown_error htenant
      refine Or.inr ⟨rfl, rfl, henabled, not_tenantFound fun tenant h => ?_⟩
      cases htenant.symm.trans h
    | ok selected =>
      cases selected with
      | none =>
        refine Or.inr ⟨rfl, rfl, henabled, not_tenantFound fun tenant h => ?_⟩
        cases htenant.symm.trans h
      | some tenant =>
        refine Or.inl ⟨?_, fun _ => ⟨tenant, tenantFound_iff.mpr htenant⟩⟩
        dsimp only
        obtain ⟨session, hset⟩ := exec_setTenant cookie tenant
          { w with
            calls := .dashboardsinfo headers (environment.dashboardsinfo w.calls request headers) ::
              w.calls }
        rw [Proc.exec_bind_of_ok hset]
        rfl
  · rw [if_neg henabled]
    exact Or.inl ⟨rfl, fun h => absurd h henabled⟩

/-- The end of `authHandler` with a user that is not known yet. -/
theorem isAuthenticated_finish {selectedTenant : Option String} :
    isAuthenticated ((finish environment request headers none selectedTenant).exec w).1 = true ↔
      ∃ authInfo, environment.authinfo w.calls request headers = .ok authInfo := by
  unfold finish ensureAuthInfo
  rw [Proc.exec_bind, exec_authinfo]
  cases environment.authinfo w.calls request headers with
  | error message => exact ⟨fun h => (by cases h), fun ⟨_, h⟩ => (by cases h)⟩
  | ok authInfo => exact ⟨fun _ => ⟨authInfo, rfl⟩, fun _ => rfl⟩

/-- A user whom the backend knows is asked for again at the end, if there is a tenant. -/
theorem withTenant_asked_known (auth : AuthenticationType) (hcalls : w.calls = [])
    (henabled : server.config.multitenancy.enabled = true) {authInfo : AuthInfo}
    (hanswer : environment.authinfo [] request headers = .ok authInfo) :
    isAuthenticated ((auth.withTenant server environment request cookie headers none).exec w).1 =
        true ↔
      AcceptsHeaders server environment request headers cookie.tenant := by
  have haccepted : environment.authinfo w.calls request headers = .ok authInfo := by
    rw [hcalls, hanswer]
  unfold withTenant
  rw [if_pos henabled, Proc.exec_bind, Proc.exec_attempt, exec_resolveTenant_asked haccepted,
    exec_resolveTenant_known, hcalls]
  dsimp only
  cases htenant : tenantOfKnown server environment request [.authinfo headers (.ok authInfo)]
      headers authInfo cookie.tenant with
  | error e =>
    obtain ⟨message, rfl⟩ := tenantOfKnown_error htenant
    have hno := not_acceptsHeaders henabled hanswer (not_tenantFound fun tenant h => by
      cases htenant.symm.trans h)
    exact ⟨fun h => (by cases h), fun h => absurd h hno⟩
  | ok selected =>
    cases selected with
    | none =>
      have hno := not_acceptsHeaders henabled hanswer (not_tenantFound fun tenant h => by
        cases htenant.symm.trans h)
      exact ⟨fun h => (by cases h), fun h => absurd h hno⟩
    | some tenant =>
      dsimp only
      obtain ⟨session, hset⟩ := exec_setTenant cookie tenant
        { w with
          calls := [.dashboardsinfo headers (environment.dashboardsinfo
            [.authinfo headers (.ok authInfo)] request headers),
            .authinfo headers (.ok authInfo)] }
      rw [Proc.exec_bind_of_ok hset, isAuthenticated_finish]
      dsimp only
      constructor
      · rintro ⟨authInfo', hagain⟩
        refine ⟨authInfo, hanswer, fun _ => ⟨tenant, tenantFound_iff.mpr htenant, ?_⟩⟩
        intro dashboardsInfo hdashboards
        rw [hdashboards] at hagain
        exact ⟨authInfo', hagain⟩
      · rintro ⟨authInfo', h, haccepts⟩
        cases hanswer.symm.trans h
        obtain ⟨tenant', hfound, hagain⟩ := haccepts henabled
        have hselected := tenantFound_iff.mp hfound
        rw [htenant] at hselected
        cases hselected
        obtain ⟨dashboardsInfo, -, hdashboards, -⟩ := hfound
        rw [hdashboards]
        exact hagain dashboardsInfo hdashboards

/-- With a user that is not known yet, the backend is asked first and, if there is a tenant, once
more at the end. -/
theorem withTenant_asked (auth : AuthenticationType) (hcalls : w.calls = []) :
    isAuthenticated ((auth.withTenant server environment request cookie headers none).exec w).1 =
        true ↔
      AcceptsHeaders server environment request headers cookie.tenant := by
  by_cases henabled : server.config.multitenancy.enabled = true
  · cases hanswer : environment.authinfo [] request headers with
    | error message =>
      have hanswered : AnsweredUnauthenticated auth request
          ((auth.withTenant server environment request cookie headers none).exec w) :=
        withTenant_rejected henabled (by rw [hcalls, hanswer])
      constructor
      · intro h
        rw [not_authenticated_of_answered hanswered] at h
        cases h
      · rintro ⟨authInfo, h, -⟩
        cases hanswer.symm.trans h
    | ok authInfo => exact withTenant_asked_known auth hcalls henabled hanswer
  · unfold withTenant
    rw [if_neg henabled, isAuthenticated_finish, hcalls]
    constructor
    · rintro ⟨authInfo, haccepted⟩
      exact ⟨authInfo, haccepted, fun h => absurd h henabled⟩
    · rintro ⟨authInfo, haccepted, -⟩
      exact ⟨authInfo, haccepted⟩

/-- If a token was stored before, nothing is left only where nothing fails. -/
theorem withTenant_stored (hcalls : w.calls = []) (hfragment : w.queue.SetsFragment) :
    (isAuthenticated ((auth.withTenant server environment request cookie headers none).exec w).1 =
        false →
      ((auth.withTenant server environment request cookie headers none).exec w).2.LeavesNothing) ↔
    AcceptsHeaders server environment request headers cookie.tenant := by
  have hqueue : ((auth.withTenant server environment request cookie headers none).exec w).2.queue =
      w.queue := (withTenant_effect rfl).1
  rw [← withTenant_asked auth hcalls]
  constructor
  · intro hclean
    by_contra hfails
    rw [Bool.not_eq_true] at hfails
    have hsplit := (hclean hfails).split
    rw [hqueue] at hsplit
    exact hsplit hfragment
  · intro hauthenticated hfails
    rw [hauthenticated] at hfails
    cases hfails

end AuthenticationType

end Tenant

/-! ## Attempts with the data of the request -/

section Header

variable {server : Server} {environment : Environment} {scheme : Scheme} {request : Request}

/-- How the authentication with the data of the request ends. -/
inductive LoginOutcome (server : Server) (environment : Environment) (auth : AuthenticationType)
    (request : Request)
    (outcome : Except JsError (SecuritySessionCookie × HeaderObject × AuthInfo) × World) :
    Prop where
  | rejected (e : JsError) (hfails : outcome.1 = .error e) (hqueue : outcome.2.queue = {})
    (hsession : outcome.2.session = none)
    (hrejected : ∀ headers authInfo, auth.getAdditionalAuthHeader request = .ok headers →
      environment.authinfo [] request headers ≠ .ok authInfo)
  | unminted (headers : HeaderObject) (authInfo : AuthInfo)
    (hheaders : auth.getAdditionalAuthHeader request = .ok headers)
    (haccepted : environment.authinfo [] request headers = .ok authInfo) (e : JsError)
    (hfails : outcome.1 = .error e) (hsession : outcome.2.session = none)
    (hminting : (auth.getCookie request authInfo).exec {} = (.error e, outcome.2.queue))
  | unread (headers : HeaderObject) (authInfo : AuthInfo)
    (hheaders : auth.getAdditionalAuthHeader request = .ok headers)
    (haccepted : environment.authinfo [] request headers = .ok authInfo)
    (cookie : SecuritySessionCookie) (e : JsError)
    (hfails : outcome.1 = .error e) (hsession : outcome.2.session = none)
    (hminting : (auth.getCookie request authInfo).exec {} = (.ok cookie, outcome.2.queue))
    (hread : request.session = .error e)
  | loggedIn (headers : HeaderObject) (authInfo : AuthInfo)
    (hheaders : auth.getAdditionalAuthHeader request = .ok headers)
    (haccepted : environment.authinfo [] request headers = .ok authInfo)
    (cookie : SecuritySessionCookie) (browserCookie : Option SecuritySessionCookie)
    (hok : outcome.1 = .ok (AuthenticationType.keepTenant cookie browserCookie, headers, authInfo))
    (hsession : outcome.2.session =
      some (some (AuthenticationType.keepTenant cookie browserCookie)))
    (hcalls : outcome.2.calls = [.authinfo headers (.ok authInfo)])
    (hminting : (auth.getCookie request authInfo).exec {} = (.ok cookie, outcome.2.queue))
    (hread : request.session = .ok browserCookie)

theorem loginOutcome (auth : AuthenticationType) :
    LoginOutcome server environment auth request
      ((auth.authenticateRequest environment request).exec {}) := by
  unfold AuthenticationType.authenticateRequest
  rw [Proc.exec_bind, Proc.exec_ofExcept]
  cases hheaders : auth.getAdditionalAuthHeader request with
  | error e =>
    refine .rejected e rfl rfl rfl fun headers authInfo h => ?_
    rw [hheaders] at h
    cases h
  | ok headers =>
    dsimp only
    rw [Proc.exec_bind, exec_authinfo]
    dsimp only
    cases haccepted : environment.authinfo [] request headers with
    | error message =>
      refine .rejected (.error message) rfl rfl rfl fun headers' authInfo h => ?_
      rw [hheaders] at h
      cases h
      rw [haccepted]
      intro h'
      cases h'
    | ok authInfo =>
      dsimp only [Except.mapError]
      rw [Proc.exec_bind, World.onQueue, Proc.exec_zoom]
      dsimp only
      cases hminting : (auth.getCookie request authInfo).exec {} with
      | mk minted queue =>
        cases minted with
        | error e => exact .unminted headers authInfo hheaders haccepted e rfl rfl hminting
        | ok cookie =>
          dsimp only
          rw [Proc.exec_bind, Proc.exec_ofExcept]
          cases hread : request.session with
          | error e => exact .unread headers authInfo hheaders haccepted cookie e rfl rfl hminting hread
          | ok browserCookie =>
            dsimp only
            rw [Proc.exec_bind_of_ok (World.exec_setSession _ _), Js.Assigned.assign_empty]
            exact .loggedIn headers authInfo hheaders haccepted cookie browserCookie rfl rfl rfl
              hminting hread

/-- A failed login ends the request. -/
theorem handle_login_failed (hrequired : authNotRequired server.config request = false)
    (hincl : (scheme.authentication server environment).requestIncludesAuthInfo request = true)
    {e : JsError}
    (hfails : (((scheme.authentication server environment).authenticateRequest environment
      request).exec {}).1 = .error e) :
    scheme.handle server environment request =
      (.ok (.refused (.unauthorized (some e.message))),
        (((scheme.authentication server environment).authenticateRequest environment request).exec
          {}).2) := by
  unfold Scheme.handle AuthenticationType.authHandler
  rw [if_neg (by rw [hrequired]; decide), if_pos hincl, Proc.exec_bind, Proc.exec_attempt, hfails]
  rfl

/-- After a login the tenant is resolved. -/
theorem handle_logged_in (hrequired : authNotRequired server.config request = false)
    (hincl : (scheme.authentication server environment).requestIncludesAuthInfo request = true)
    {cookie : SecuritySessionCookie} {headers : HeaderObject} {authInfo : AuthInfo}
    (hok : (((scheme.authentication server environment).authenticateRequest environment
      request).exec {}).1 = .ok (cookie, headers, authInfo)) :
    scheme.handle server environment request =
      ((scheme.authentication server environment).withTenant server environment request cookie
        headers (some authInfo)).exec
          (((scheme.authentication server environment).authenticateRequest environment request).exec
            {}).2 := by
  unfold Scheme.handle AuthenticationType.authHandler
  rw [if_neg (by rw [hrequired]; decide), if_pos hincl, Proc.exec_bind, Proc.exec_attempt, hok]

theorem established_keepTenant {cookie : SecuritySessionCookie} (h : cookie.Established)
    (browserCookie : Option SecuritySessionCookie) :
    (AuthenticationType.keepTenant cookie browserCookie).Established := by
  obtain ⟨tenant, hkeep⟩ := AuthenticationType.keepTenant_eq cookie browserCookie
  rw [hkeep]
  exact h

theorem tenant_keepTenant {cookie : SecuritySessionCookie} (h : cookie.tenant = none)
    (browserCookie : Option SecuritySessionCookie) :
    (AuthenticationType.keepTenant cookie browserCookie).tenant =
      browserCookie.bind (·.tenant) := by
  unfold AuthenticationType.keepTenant
  cases browserCookie.bind (·.tenant) with
  | none => exact h
  | some tenant => rfl

theorem session_ok_iff {browserCookie : Option SecuritySessionCookie} :
    request.session = .ok browserCookie ↔ request.storageError = none ∧
      request.cookies.session.filter (·.validate request.now) = browserCookie := by
  unfold Request.session
  cases request.storageError with
  | none => simp
  | some message => simp

/-- Nothing but fragments is left where no session is set. -/
theorem leavesNothing_iff {w : World} (hsession : w.session = none) :
    w.LeavesNothing ↔ ¬ w.queue.SetsFragment := by
  refine ⟨fun h => h.split, fun h => ⟨fun cookie hcookie => ?_, h⟩⟩
  rw [hsession] at hcookie
  cases hcookie

/-- A request has one login. -/
theorem headerSound_iff {headers : HeaderObject} {authInfo : AuthInfo} {authType : AuthType}
    (hheaders : (scheme.authentication server environment).getAdditionalAuthHeader request =
      .ok headers)
    (haccepted : environment.authinfo [] request headers = .ok authInfo)
    (hby : scheme.mintedBy server environment request = some authType) :
    HeaderSound server environment request scheme ↔
      (authType.Keeps server request →
        authType.Readable server request ∧ request.storageError = none) ∧
      (authType.Storable server request → authType.Readable server request →
        request.storageError = none → server.config.multitenancy.enabled = true →
        ∃ tenant, TenantFound server environment request [.authinfo headers (.ok authInfo)] headers
          authInfo ((request.cookies.session.filter (·.validate request.now)).bind (·.tenant))
          tenant) := by
  constructor
  · intro h
    exact ⟨h.readable headers authInfo authType hheaders haccepted hby,
      h.tenant headers authInfo authType hheaders haccepted hby⟩
  · rintro ⟨hreadable, htenant⟩
    constructor
    · intro headers' authInfo' authType' hheaders' haccepted' hby'
      rw [hheaders] at hheaders'
      cases hheaders'
      rw [hby] at hby'
      cases hby'
      exact hreadable
    · intro headers' authInfo' authType' hheaders' haccepted' hby'
      rw [hheaders] at hheaders'
      cases hheaders'
      rw [haccepted] at haccepted'
      cases haccepted'
      rw [hby] at hby'
      cases hby'
      exact htenant

/-- Where the cookie is minted, everything was stored. -/
theorem mint_of_ok {authType : AuthType} {outcome : Except JsError SecuritySessionCookie × Queue}
    (h : MintOutcome server request authType outcome) {cookie : SecuritySessionCookie}
    (hok : outcome.1 = .ok cookie) :
    authType.Storable server request ∧ authType.Readable server request ∧ cookie.Established ∧
      cookie.tenant = none ∧ (outcome.2.SetsFragment ↔ authType.Keeps server request) := by
  cases h with
  | minted cookie' hok' hstorable hreadable hestablished htenant hfragment =>
    rw [hok'] at hok
    cases hok
    exact ⟨hstorable, hreadable, hestablished, htenant, hfragment⟩
  | unstorable e hfails =>
    rw [hfails] at hok
    cases hok
  | unreadable e hfails =>
    rw [hfails] at hok
    cases hok

/-- A token that is kept can be stored. -/
theorem storable_of_keeps {authType : AuthType} (h : authType.Keeps server request) :
    authType.Storable server request := by
  obtain ⟨options, s, hsplit, -⟩ := h
  exact storable_of_str hsplit

/-- Where minting fails, a fragment is left if the token was kept before. -/
theorem mint_of_error {authType : AuthType} {outcome : Except JsError SecuritySessionCookie × Queue}
    (h : MintOutcome server request authType outcome) {e : JsError} (hfails : outcome.1 = .error e) :
    ¬ (authType.Storable server request ∧ authType.Readable server request) ∧
      (outcome.2.SetsFragment ↔
        authType.Keeps server request ∧ ¬ authType.Readable server request) := by
  cases h with
  | minted cookie' hok' =>
    rw [hok'] at hfails
    cases hfails
  | unstorable e' hfails' hstorable =>
    refine ⟨fun h => hstorable h.1, fun h => ?_, fun h => ?_⟩
    · rw [hfails'] at h
      exact absurd h (not_setsFragment_of_states rfl)
    · exact absurd (storable_of_keeps h.1) hstorable
  | unreadable e' hfails' hreadable hfragment =>
    exact ⟨fun h => hreadable h.2, fun h => ⟨hfragment.mp h, hreadable⟩, fun h => hfragment.mpr h.1⟩

/-- Where minting fails, the login is sound exactly if no fragment is left. -/
theorem unminted_sound_iff {authType : AuthType} {found : Prop}
    (hfailed : ¬ (authType.Storable server request ∧ authType.Readable server request)) :
    ¬ (authType.Keeps server request ∧ ¬ authType.Readable server request) ↔
      (authType.Keeps server request →
        authType.Readable server request ∧ request.storageError = none) ∧
      (authType.Storable server request → authType.Readable server request → found) := by
  constructor
  · intro hclean
    refine ⟨fun hkeeps => ?_, fun hstorable hreadable => absurd ⟨hstorable, hreadable⟩ hfailed⟩
    have hreadable : authType.Readable server request := by
      by_contra hunreadable
      exact hclean ⟨hkeeps, hunreadable⟩
    exact absurd ⟨storable_of_keeps hkeeps, hreadable⟩ hfailed
  · rintro ⟨hreadable, -⟩ ⟨hkeeps, hunreadable⟩
    exact hunreadable (hreadable hkeeps).1

/-- Where the session cannot be read, the login is sound exactly if no fragment is left. -/
theorem unread_sound_iff {authType : AuthType} {found : Prop} (hstorage : request.storageError ≠ none) :
    ¬ authType.Keeps server request ↔
      (authType.Keeps server request →
        authType.Readable server request ∧ request.storageError = none) ∧
      (authType.Storable server request → authType.Readable server request →
        request.storageError = none → found) := by
  constructor
  · intro hclean
    exact ⟨fun hkeeps => absurd hkeeps hclean, fun _ _ hnone => absurd hnone hstorage⟩
  · rintro ⟨hsound, -⟩ hkeeps
    exact hstorage (hsound hkeeps).2

theorem storageError_of_session {e : JsError} (h : request.session = .error e) :
    request.storageError ≠ none := by
  intro hnone
  unfold Request.session at h
  rw [hnone] at h
  cases h

/-- A login that fails leaves nothing, exactly when nothing was stored before the failure. -/
theorem header_leavesNothing_iff (hrequired : authNotRequired server.config request = false)
    (hincl : (scheme.authentication server environment).requestIncludesAuthInfo request = true) :
    (isAuthenticated (scheme.handle server environment request).1 = false →
      (scheme.handle server environment request).2.LeavesNothing) ↔
    HeaderSound server environment request scheme := by
  obtain ⟨authType, hby, hgetCookie⟩ := scheme_getCookie hincl
  have hmint : ∀ authInfo, MintOutcome server request authType
      (((scheme.authentication server environment).getCookie request authInfo).exec {}) := by
    intro authInfo
    rw [hgetCookie]
    exact mintOutcome authType
  have hlogin : LoginOutcome server environment (scheme.authentication server environment) request
      (((scheme.authentication server environment).authenticateRequest environment request).exec
        {}) := loginOutcome _
  cases hlogin with
  | rejected e hfails hqueue hsession hrejected =>
    rw [handle_login_failed hrequired hincl hfails]
    refine ⟨fun _ => ⟨fun headers authInfo _ hheaders haccepted => ?_,
      fun headers authInfo _ hheaders haccepted => ?_⟩, fun _ _ => ?_⟩
    · exact absurd haccepted (hrejected headers authInfo hheaders)
    · exact absurd haccepted (hrejected headers authInfo hheaders)
    · exact (leavesNothing_iff hsession).mpr (not_setsFragment_of_states (by rw [hqueue]))
  | unminted headers authInfo hheaders haccepted e hfails hsession hminting =>
    rw [handle_login_failed hrequired hincl hfails, leavesNothing_iff hsession,
      headerSound_iff hheaders haccepted hby]
    have hcookie := hmint authInfo
    rw [hminting] at hcookie
    obtain ⟨hfailed, hfragment⟩ := mint_of_error hcookie rfl
    rw [hfragment, ← unminted_sound_iff hfailed]
    exact ⟨fun hclean => hclean rfl, fun hclean _ => hclean⟩
  | unread headers authInfo hheaders haccepted cookie e hfails hsession hminting hread =>
    rw [handle_login_failed hrequired hincl hfails, leavesNothing_iff hsession,
      headerSound_iff hheaders haccepted hby]
    have hcookie := hmint authInfo
    rw [hminting] at hcookie
    obtain ⟨-, -, -, -, hfragment⟩ := mint_of_ok hcookie rfl
    rw [hfragment, ← unread_sound_iff (storageError_of_session hread)]
    exact ⟨fun hclean => hclean rfl, fun hclean _ => hclean⟩
  | loggedIn headers authInfo hheaders haccepted cookie browserCookie hok hsession hcalls hminting
      hread =>
    rw [handle_logged_in hrequired hincl hok, headerSound_iff hheaders haccepted hby]
    have hcookie := hmint authInfo
    rw [hminting] at hcookie
    obtain ⟨hstorable, hreadable, hestablished, htenant, -⟩ := mint_of_ok hcookie rfl
    obtain ⟨hstorage, hbrowser⟩ := session_ok_iff.mp hread
    rcases AuthenticationType.withTenant_known (scheme.authentication server environment) server
        environment request (AuthenticationType.keepTenant cookie browserCookie) headers authInfo
        (((scheme.authentication server environment).authenticateRequest environment request).exec
          {}).2 with
      ⟨hauthenticated, hfound⟩ | ⟨hfails, hcookies, henabled, hno⟩
    · rw [hauthenticated]
      rw [hcalls, tenant_keepTenant htenant, ← hbrowser] at hfound
      exact ⟨fun _ => ⟨fun _ => ⟨hreadable, hstorage⟩, fun _ _ _ => hfound⟩,
        fun _ h => (by cases h)⟩
    · rw [hcalls, tenant_keepTenant htenant, ← hbrowser] at hno
      refine ⟨fun hclean => ?_, fun hsound => ?_⟩
      · have hleft := (hclean hfails).session (AuthenticationType.keepTenant cookie browserCookie)
          ((congrArg Prod.snd hcookies).trans hsession)
        exact absurd (established_keepTenant hestablished browserCookie) hleft
      · exact absurd (hsound.2 hstorable hreadable hstorage henabled) hno

end Header

/-! ## Attempts with a stored session -/

section Refresh

open OpenIdAuthentication

variable {server : Server} {environment : Environment} {scheme : Scheme} {request : Request}
  {cookie : SecuritySessionCookie} {r r' : TokenResponse} {idToken idToken' : String}

theorem renews_unique (h : Renews server environment cookie request r idToken)
    (h' : Renews server environment cookie request r' idToken') : r = r' ∧ idToken = idToken' := by
  obtain ⟨refresh_token, hrefresh, hanswer⟩ := h.answer
  obtain ⟨refresh_token', hrefresh', hanswer'⟩ := h'.answer
  rw [hrefresh] at hrefresh'
  cases hrefresh'
  rw [hanswer] at hanswer'
  cases hanswer'
  have hid := h.idToken
  rw [h'.idToken] at hid
  exact ⟨rfl, (Option.some.inj hid).symm⟩

/-- A token that is renewed makes the cookie valid. -/
theorem isValidCookie_of_renews (h : Renews server environment cookie request r idToken) :
    ∃ accepted queue, ((OpenIdAuthentication server environment).isValidCookie cookie request).exec
      {} = (.ok (true, accepted), queue) := by
  obtain ⟨refresh_token, hrefresh, hanswer⟩ := h.answer
  obtain ⟨credentials, hcredentials⟩ := h.readable
  have hrenew : ∃ accepted queue, (renew server environment cookie request refresh_token).exec {} =
      (.ok (true, accepted), queue) := by
    have hcall : (refresh server environment refresh_token).exec {} =
        (.ok r, { tokenCalls := [.ok r] }) := by
      rw [← hanswer]
      rfl
    rw [renew, Proc.exec_bind_of_ok hcall, h.idToken]
    dsimp only
    rw [Proc.exec_bind, Proc.exec_ofExcept, hcredentials]
    dsimp only
    rw [Proc.exec_bind_of_ok (exec_store _ _)]
    exact ⟨_, _, rfl⟩
  obtain ⟨accepted, queue, hrenew⟩ := hrenew
  refine ⟨accepted, queue, ?_⟩
  show (OpenIdAuthentication.isValidCookie server environment cookie request).exec {} = _
  rw [OpenIdAuthentication.isValidCookie, Proc.exec_bind_of_ok (Proc.exec_get _), h.usable,
    h.expired, hrefresh]
  simp only [Bool.not_true, Bool.false_eq_true, if_false]
  rw [Proc.exec_bind, Proc.exec_attempt, hrenew]
  rfl

/-- A session that is not refreshed is rejected, and nothing is stored. -/
theorem leavesNothing_of_not_renewed (h : ExpiredSession server environment request scheme cookie)
    (hno : ∀ r idToken, ¬ Renews server environment cookie request r idToken) :
    (scheme.handle server environment request).2.LeavesNothing := by
  have hinvalid : ∀ cookie' queue, ((scheme.authentication server environment).isValidCookie cookie
      request).exec {} ≠ (.ok (true, cookie'), queue) := by
    intro cookie' queue hvalid
    rw [(scheme_methods h.openId).1] at hvalid
    rcases openId_isValidCookie_cases hvalid with ⟨-, hnot⟩ | ⟨-, -, hfresh⟩ |
      ⟨r, idToken, credentials, hrenews, -⟩
    · exact hnot cookie' rfl
    · rw [h.expired] at hfresh
      cases hfresh
    · exact hno r idToken hrenews
  have heffect : AuthenticationType.Effect (scheme.authentication server environment) server
      environment request (scheme.handle server environment request).1
      (scheme.handle server environment request).2 :=
    AuthenticationType.authHandler_effect (scheme_framed scheme) rfl
  cases heffect with
  | nothing hstates hsession =>
    refine leavesNothing_of_clean hstates fun cookie' hcookie => ?_
    rw [hsession] at hcookie
    cases hcookie
  | failedLogin hincl =>
    rw [h.noAuthInfo] at hincl
    cases hincl
  | login authInfo cookie' tenant hmint =>
    have hincl := hmint.1
    rw [h.noAuthInfo] at hincl
    cases hincl
  | cleared hincl hstates hsession =>
    refine leavesNothing_of_clean hstates fun cookie' hcookie => ?_
    rw [hsession] at hcookie
    cases hcookie
  | accepted cookie' accepted hrequired hincl hread hvalid =>
    rw [h.stored] at hread
    cases hread
    exact absurd hvalid (hinvalid accepted _)

/-- A refreshed session leaves its token, whatever happens afterwards. -/
theorem refresh_leavesNothing_iff
    (hn : 0 < server.config.openid.extra_storage.additional_cookies)
    (h : ExpiredSession server environment request scheme cookie)
    (hrenews : Renews server environment cookie request r idToken) :
    (isAuthenticated (scheme.handle server environment request).1 = false →
      (scheme.handle server environment request).2.LeavesNothing) ↔
    AcceptsHeaders server environment request
      (Js.Assigned.empty.set "authorization" (.str ("Bearer " ++ idToken))) cookie.tenant := by
  obtain ⟨accepted, queue, hvalid⟩ := isValidCookie_of_renews hrenews
  have hsession : AcceptedSession server environment scheme request cookie accepted queue :=
    ⟨h.required, h.noAuthInfo, h.stored, by rw [(scheme_methods h.openId).1]; exact hvalid⟩
  have hkeeps : scheme.KeepsAlive server request cookie := by
    intro _ hjwt
    rw [h.openId] at hjwt
    cases hjwt
  obtain ⟨headers, hheaders⟩ := cookieHeaders_accepted hsession
  obtain ⟨expiryTime, hhandle⟩ := handle_kept hsession hkeeps hheaders
  rcases openId_isValidCookie_cases hvalid with ⟨-, hnot⟩ | ⟨-, -, hfresh⟩ |
    ⟨r', idToken', credentials, hrenews', hcredentials, hresult, -, hstore⟩
  · exact absurd rfl (hnot accepted)
  · rw [h.expired] at hfresh
    cases hfresh
  obtain ⟨rfl, rfl⟩ := renews_unique hrenews hrenews'
  cases hresult
  have hextra : credentials.authHeaderValueExtra = true := by
    obtain ⟨expiry, -, hfields⟩ := credentialsOf_ok hcredentials
    rw [hfields]
  have hrenewed : (((scheme.authentication server environment).cookieHeaders
      { cookie with credentials := some credentials } request).exec { queue }).1 =
        .ok (Js.Assigned.empty.set "authorization" (.str ("Bearer " ++ idToken))) :=
    cookieHeaders_renewed hn h.openId h.stored hextra hstore
  have hsame : headers = Js.Assigned.empty.set "authorization" (.str ("Bearer " ++ idToken)) := by
    have hbuilt := congrArg Prod.fst (hheaders cookie.expiryTime { queue } rfl)
    rw [hrenewed] at hbuilt
    exact (Except.ok.inj hbuilt).symm
  rw [hsame] at hhandle
  rw [hhandle]
  have hfragment : queue.SetsFragment := by
    have hstates : (storedQueue server (getExtraAuthStorageOptions server)
        ("Bearer " ++ idToken)).states = queue.states := Except.ok.inj hstore
    obtain ⟨name, fragment, hlookup⟩ : (storedQueue server (getExtraAuthStorageOptions server)
        ("Bearer " ++ idToken)).SetsFragment := setsFragment_stored_iff.mpr hn
    rw [hstates] at hlookup
    exact ⟨name, fragment, hlookup⟩
  exact AuthenticationType.withTenant_stored rfl hfragment

end Refresh

/-! ## Routes -/

section Routes

open World

variable {setup : RouteSetup} {request : Request}

/-- Nothing was stored yet. -/
def World.Clean (w : World) : Prop := w.queue.states = [] ∧ ∀ cookie, w.session ≠ some (some cookie)

/-- The procedure stores nothing. -/
def StoresNothing {α : Type} (x : Proc World JsError α) : Prop :=
  Proc.Triple World.Clean x (fun _ => World.Clean) (fun _ => World.Clean)

/-- The route leaves nothing where it fails. -/
def FailsClean (x : Proc World JsError RouteResponse) : Prop :=
  Proc.Triple World.Clean x
    (fun response w => Answer.Fails (.ok (.route response)) → w.LeavesNothing)
    (fun _ => World.LeavesNothing)

theorem World.Clean.leavesNothing {w : World} (h : w.Clean) : w.LeavesNothing :=
  leavesNothing_of_clean h.1 h.2

theorem StoresNothing.orLeavesNothing {α : Type} {x : Proc World JsError α} (h : StoresNothing x) :
    Proc.Triple World.Clean x (fun _ => World.Clean) (fun _ => World.LeavesNothing) :=
  Proc.Triple.conseq h (fun _ hw => hw) (fun _ _ hw => hw) (fun _ _ hw => hw.leavesNothing)

theorem storesNothing_authinfo (headers : HeaderObject) :
    StoresNothing (authinfo setup.environment request headers) :=
  authinfo_preserves (fun _ _ hw => hw) setup.environment request headers

theorem storesNothing_clearSession : StoresNothing clearSession :=
  Proc.Preserves.update fun w hw => ⟨hw.1, fun cookie h => (by cases h)⟩

theorem storesNothing_authenticate (username password : String) :
    StoresNothing (authenticate setup request username password) :=
  Proc.Preserves.bind (storesNothing_authinfo _) fun _ => Proc.Preserves.pure _

theorem storesNothing_authenticateWithHeader (headerName : String) (headerValue : Option String) :
    StoresNothing (authenticateWithHeader setup request headerName headerValue) :=
  Proc.Preserves.bind (storesNothing_authinfo _) fun _ => Proc.Preserves.pure _

theorem storesNothing_authenticateWithHeaders (headers : HeaderObject) :
    StoresNothing (authenticateWithHeaders setup request headers) :=
  Proc.Preserves.bind (storesNothing_authinfo _) fun _ => Proc.Preserves.pure _

/-- A string can be stored. -/
theorem triple_store {P : World → Prop} {E : JsError → World → Prop}
    (options : ExtraAuthStorageOptions) (content : String) :
    Proc.Triple P (onQueue (ExtraStorage.store setup.server options (.str content)))
      (fun _ _ => True) E := by
  refine Proc.Triple.zoom fun w _ r queue h => ⟨fun _ _ => trivial, fun e he => ?_⟩
  rw [exec_store] at h
  cases h
  cases he

theorem failsClean_pure {response : RouteResponse} : FailsClean (pure response) :=
  Proc.Triple.pure fun _ hw _ => hw.leavesNothing

theorem failsClean_clear {response : RouteResponse} :
    FailsClean (clearSession >>= fun _ => pure response) :=
  Proc.Triple.bind storesNothing_clearSession.orLeavesNothing fun _ => failsClean_pure

/-- A step that stores nothing, and an answer for each of its outcomes. -/
theorem failsClean_attempt {α : Type} {x : Proc World JsError α}
    {f : Except JsError α → Proc World JsError RouteResponse} {R : α → World → Prop}
    (hx : Proc.Triple World.Clean x R (fun _ => World.Clean))
    (hok : ∀ a, Proc.Triple (R a) (f (.ok a))
      (fun response w => Answer.Fails (.ok (.route response)) → w.LeavesNothing)
      (fun _ => World.LeavesNothing))
    (herror : ∀ e, FailsClean (f (.error e))) : FailsClean (Proc.attempt x >>= f) := by
  refine Proc.Triple.bind (R := fun r w => (∃ a, r = .ok a ∧ R a w) ∨
    ∃ e, r = .error e ∧ w.Clean) ?_ fun r => ?_
  · exact Proc.Triple.attempt (hx.conseq (fun _ hw => hw)
      (fun a w hw => Or.inl ⟨a, rfl, hw⟩) (fun e w hw => Or.inr ⟨e, rfl, hw⟩))
  · cases r with
    | ok a =>
      refine (hok a).conseq (fun w hw => ?_) (fun _ _ h => h) (fun _ _ h => h)
      rcases hw with ⟨a', h, hw⟩ | ⟨e, h, -⟩
      · cases h
        exact hw
      · cases h
    | error e =>
      refine Proc.Triple.conseq (herror e) (fun w hw => ?_) (fun _ _ h => h) (fun _ _ h => h)
      rcases hw with ⟨a', h, -⟩ | ⟨e', -, hw⟩
      · cases h
      · exact hw

/-- A session is set only right before the answer of a login that succeeds. -/
theorem triple_redirected {P : World → Prop} {E : JsError → World → Prop}
    (cookie : SecuritySessionCookie) (response : RouteResponse)
    (hresponse : ¬ Answer.Fails (.ok (.route response))) :
    Proc.Triple P (setSession cookie >>= fun _ => pure response)
      (fun response w => Answer.Fails (.ok (.route response)) → w.LeavesNothing) E :=
  Proc.Triple.bind (R := fun _ _ => True) (Proc.Triple.update fun _ _ => trivial)
    fun _ => Proc.Triple.pure fun _ _ h => absurd h hresponse

namespace BasicAuthRoutes

/-- The end of both logins. -/
theorem startSession_failsClean (user : User) (cookie : SecuritySessionCookie)
    (response : SecuritySessionCookie → RouteResponse)
    (hresponse : ∀ cookie, ¬ Answer.Fails (.ok (.route (response cookie)))) :
    FailsClean (do
      clearSession
      let sessionStorage ← Proc.ofExcept (withTenantOfUser setup request user cookie)
      setSession sessionStorage
      pure (response sessionStorage)) := by
  refine Proc.Triple.bind storesNothing_clearSession.orLeavesNothing fun _ => ?_
  refine Proc.Triple.bind (R := fun _ => World.Clean) ?_ fun sessionStorage => ?_
  · exact Proc.Triple.ofExcept (fun _ _ _ hw => hw) (fun _ _ _ hw => hw.leavesNothing)
  · exact triple_redirected _ _ (hresponse sessionStorage)

theorem login_failsClean (username password : String) :
    FailsClean (login setup request username password) := by
  unfold login
  split
  · exact failsClean_pure
  · refine failsClean_attempt (storesNothing_authenticate username password) (fun user => ?_)
      fun _ => failsClean_pure
    exact startSession_failsClean user _ (fun sessionStorage => .ok (some
      { username := user.username
        tenants := user.tenants
        roles := user.roles
        backendroles := user.backendRoles
        selectedTenants := if setup.server.config.multitenancy.enabled then sessionStorage.tenant
          else none })) fun _ h => h

theorem anonymousLogin_failsClean : FailsClean (anonymousLogin setup request) := by
  unfold anonymousLogin
  split
  · refine failsClean_attempt (storesNothing_authenticateWithHeaders .empty) (fun user => ?_)
      fun _ => failsClean_pure
    exact startSession_failsClean user _
      (fun _ => .redirected (anonymousRedirectUrl setup (request.url.param "nextUrl"))) fun _ h => h
  · exact failsClean_pure

end BasicAuthRoutes

namespace OpenIdAuthRoutes

theorem completeLogin_clean (oidc : OidcLogin) :
    Proc.Triple World.Clean (completeLogin setup request oidc)
      (fun response _ => ¬ Answer.Fails (.ok (.route response))) (fun _ => World.Clean) := by
  unfold completeLogin
  refine Proc.Triple.bind (Proc.Triple.ofExcept (fun _ _ _ hw => hw) (fun _ _ _ hw => hw))
    fun tokenResponse => ?_
  refine Proc.Triple.bind (storesNothing_authenticateWithHeader _ _) fun user => ?_
  refine Proc.Triple.bind (Proc.Triple.ofExcept (fun _ _ _ hw => hw) (fun _ _ _ hw => hw))
    fun expiryTime => ?_
  refine Proc.Triple.bind (triple_store _ _) fun _ => ?_
  refine Proc.Triple.bind (R := fun _ _ => True) (Proc.Triple.update fun _ _ => trivial) fun _ => ?_
  exact Proc.Triple.pure fun _ _ h => h

theorem callback_failsClean : FailsClean (callback setup request) := by
  unfold callback
  cases pendingLogin request with
  | none => exact failsClean_clear
  | some oidc =>
    refine failsClean_attempt (completeLogin_clean oidc) (fun response => ?_) fun e => ?_
    · exact Proc.Triple.pure fun w hw h => absurd h hw
    · dsimp only
      split
      · exact failsClean_pure
      · exact failsClean_clear

end OpenIdAuthRoutes

namespace SamlAuthRoutes

theorem startSession_clean (body : AuthTokenBody) :
    Proc.Triple World.Clean (startSession setup request body) (fun _ _ => True)
      (fun _ => World.Clean) := by
  unfold startSession
  refine Proc.Triple.bind (Proc.Triple.ofExcept (fun _ _ _ hw => hw) (fun _ _ _ hw => hw))
    fun credentials => ?_
  refine Proc.Triple.bind (storesNothing_authenticateWithHeader _ _) fun user => ?_
  cases credentials with
  | none => exact Proc.Triple.throw fun _ hw => hw
  | some authorization =>
    refine Proc.Triple.bind (Proc.Triple.ofExcept (fun _ _ _ hw => hw) (fun _ _ _ hw => hw))
      fun expiryTime => ?_
    refine Proc.Triple.bind (triple_store _ _) fun _ => ?_
    exact Proc.Triple.update fun _ _ => trivial

theorem acs_failsClean (samlResponse : String) : FailsClean (acs setup request samlResponse) := by
  unfold acs
  cases request.session with
  | error e => exact failsClean_pure
  | ok cookie =>
    dsimp only
    cases (cookie.bind (·.saml)).filter fun saml => truthyString saml.requestId with
    | none => exact failsClean_pure
    | some saml =>
      exact failsClean_attempt (startSession_clean _)
        (fun _ => Proc.Triple.pure fun _ _ h => absurd h id) fun _ => failsClean_pure

theorem idpInitiated_failsClean (samlResponse : String) :
    FailsClean (idpInitiated setup request samlResponse) :=
  failsClean_attempt (startSession_clean _)
    (fun _ => Proc.Triple.pure fun _ _ h => absurd h id) fun _ => failsClean_pure

end SamlAuthRoutes

/-- From the empty world. -/
theorem FailsClean.run {x : Proc World JsError RouteResponse} (h : FailsClean x) :
    Answer.Fails ((x.exec {}).1.map .route) → (x.exec {}).2.LeavesNothing := by
  have hclean : ({} : World).Clean := ⟨rfl, fun cookie hcookie => (by cases hcookie)⟩
  have hrun := h {} hclean
  cases hexec : x.exec {} with
  | mk r w =>
    rw [hexec] at hrun
    cases r with
    | ok response => exact hrun
    | error e => exact fun _ => hrun

end Routes

/-! ## All attempts -/

/-- A failed attempt to authenticate leaves nothing behind, exactly when nothing fails after the
token or the session was stored. -/
theorem failed_leavesNothing_iff (setup : RouteSetup) (request : Request) (attempt : Attempt)
    (happlies : attempt.Applies setup request) :
    (Answer.Fails (attempt.run setup request).1 → (attempt.run setup request).2.LeavesNothing) ↔
      attempt.Sound setup request := by
  cases attempt with
  | header scheme =>
    obtain ⟨hrequired, hincl⟩ := happlies
    have hfails : Answer.Fails ((Attempt.header scheme).run setup request).1 ↔
        isAuthenticated (scheme.handle setup.server setup.environment request).1 = false :=
      fails_handler_iff
    rw [hfails]
    exact header_leavesNothing_iff hrequired hincl
  | refresh scheme =>
    obtain ⟨hn, cookie, hexpired⟩ := happlies
    have hfails : Answer.Fails ((Attempt.refresh scheme).run setup request).1 ↔
        isAuthenticated (scheme.handle setup.server setup.environment request).1 = false :=
      fails_handler_iff
    rw [hfails]
    by_cases hrenewed : ∃ r idToken, OpenIdAuthentication.Renews setup.server setup.environment
        cookie request r idToken
    · obtain ⟨r, idToken, hrenews⟩ := hrenewed
      refine (refresh_leavesNothing_iff hn hexpired hrenews).trans ⟨fun haccepts => ?_, fun hsound =>
        hsound cookie r idToken hexpired hrenews⟩
      intro cookie' r' idToken' hexpired' hrenews'
      have hsame := hexpired.stored
      rw [hexpired'.stored] at hsame
      cases hsame
      obtain ⟨-, rfl⟩ := renews_unique hrenews hrenews'
      exact haccepts
    · have hno : ∀ r idToken, ¬ OpenIdAuthentication.Renews setup.server setup.environment cookie
          request r idToken := fun r idToken h => hrenewed ⟨r, idToken, h⟩
      refine ⟨fun _ => ?_, fun _ _ => leavesNothing_of_not_renewed hexpired hno⟩
      intro cookie' r' idToken' hexpired' hrenews'
      have hsame := hexpired.stored
      rw [hexpired'.stored] at hsame
      cases hsame
      exact absurd hrenews' (hno r' idToken')
  | openIdCallback => exact ⟨fun _ => trivial, fun _ => OpenIdAuthRoutes.callback_failsClean.run⟩
  | samlAcs samlResponse =>
    exact ⟨fun _ => trivial, fun _ => (SamlAuthRoutes.acs_failsClean samlResponse).run⟩
  | samlIdpInitiated samlResponse =>
    exact ⟨fun _ => trivial, fun _ => (SamlAuthRoutes.idpInitiated_failsClean samlResponse).run⟩
  | basicLogin username password =>
    exact ⟨fun _ => trivial, fun _ => (BasicAuthRoutes.login_failsClean username password).run⟩
  | anonymousLogin => exact ⟨fun _ => trivial, fun _ => BasicAuthRoutes.anonymousLogin_failsClean.run⟩

namespace Sample

/-- A token that is not a JWT, although it has three parts. -/
def malformedRequest : Request where
  url := { pathname := "/api/status" }
  headers := Js.Assigned.empty.set "authorization" "Bearer a.b.c"
  now := 1000

/-- Nothing is left of a token that the backend rejects. -/
theorem rejected_leavesNothing :
    Answer.Fails ((Attempt.header (.single .jwt)).run
        { setup bearerServer with environment := lockedOut } bearerRequest).1 ∧
      ((Attempt.header (.single .jwt)).run
        { setup bearerServer with environment := lockedOut } bearerRequest).2.LeavesNothing := by
  have hfails : Answer.Fails ((Attempt.header (.single .jwt)).run
      { setup bearerServer with environment := lockedOut } bearerRequest).1 := trivial
  have hsound : (Attempt.header (.single .jwt)).Sound
      { setup bearerServer with environment := lockedOut } bearerRequest :=
    ⟨fun _ _ _ _ h => (by cases h), fun _ _ _ _ h => (by cases h)⟩
  exact ⟨hfails, (failed_leavesNothing_iff { setup bearerServer with environment := lockedOut }
    bearerRequest (.header (.single .jwt)) ⟨by decide, by decide⟩).mpr hsound
    hfails⟩

/-- The malformed token is refused, and stays in the browser. -/
theorem malformed_leavesToken :
    (Attempt.header (.single .jwt)).Applies (setup bearerServer) malformedRequest ∧
      Answer.Fails ((Attempt.header (.single .jwt)).run (setup bearerServer) malformedRequest).1 ∧
      ¬ ((Attempt.header (.single .jwt)).run (setup bearerServer)
        malformedRequest).2.LeavesNothing := by
  have hfails : isAuthenticated ((Scheme.single .jwt).handle bearerServer aliceBackend
      malformedRequest).1 = false := by decide
  have hfragment : ((((Scheme.single .jwt).handle bearerServer aliceBackend
      malformedRequest).2.queue.states.lookup "security_authentication_jwt1").join).isSome =
        true := by decide
  refine ⟨⟨by decide, by decide⟩, fails_handler_iff.mpr hfails, fun hclean => ?_⟩
  obtain ⟨fragment, hlookup⟩ := Option.isSome_iff_exists.mp hfragment
  exact hclean.split ⟨_, fragment, Option.join_eq_some_iff.mp hlookup⟩

end Sample

end SecurityDashboards
