import SecurityDashboards.Proofs.SessionsProofs
import SecurityDashboards.Proofs.TenantResolverProofs
import SecurityDashboards.TenantSessions

/-!
# Proofs: the tenant of a session

`authHandler_rule` reduces a statement about `authHandler` to one about its last part, `withTenant`,
which is reached only with a cookie whose tenant is the one the browser would hold.
-/

namespace SecurityDashboards

open World

/-! ## Resolving again -/

namespace Resolution

variable {toLowerCase : String → String} {i : Resolution}

theorem has_of_firstAvailable {tenants : Tenants} {t : String}
    (h : firstAvailableTenant (tenants.delete i.username) = .ok (some t)) :
    tenants.has t = true := by
  have hkeys : t ∈ (tenants.delete i.username).keys := by
    rcases (firstAvailableTenant_eq_some_iff.mp h).2 with ⟨-, ht⟩ | ⟨rfl, hkeys⟩
    · exact (List.mem_filter.mp (List.mem_of_mem_head? ht)).1
    · rw [hkeys, List.mem_singleton]
  rw [Js.PlainObject.keys_delete] at hkeys
  have hown : tenants.hasOwn t = true := Js.PlainObject.hasOwn_iff.mpr (List.mem_filter.mp hkeys).1
  rw [Js.PlainObject.has, hown, Bool.true_or]

/-- The private tenant is the fallback although the user may not ask for it: it is the fallback
again. -/
theorem result_requesting_private (ha : i.Active) (hno : i.NoPick toLowerCase)
    (hg : i.globalTenantEnabled = false) (hp : i.privateEnabled = true)
    (hunusable : i.usable PRIVATE_TENANT_SYMBOL = false) :
    (i.requesting PRIVATE_TENANT_SYMBOL).result toLowerCase = .ok (some PRIVATE_TENANT_SYMBOL) := by
  have ha' : (i.requesting PRIVATE_TENANT_SYMBOL).Active := ha
  refine result_private ha' (Or.inr ⟨⟨fun r hr => ?_, hno.2⟩, hg, hp⟩)
  obtain rfl : PRIVATE_TENANT_SYMBOL = r := Option.some.inj hr
  exact hunusable

/-- Asking for the tenant that was resolved gives that tenant. -/
theorem result_idempotent {t : String} (h : i.result toLowerCase = .ok (some t)) :
    (i.requesting t).result toLowerCase = .ok (some t) := by
  by_cases ha : i.Active
  · rcases (result_eq_some_iff ha).mp h with hraw | halias | ⟨hno, hfallback⟩
    · exact result_requesting ha (Or.inl (has_of_rawPick hraw))
    · refine result_requesting ha (Or.inr ?_)
      rcases halias with ⟨r, -, -, hr⟩ | ⟨-, x, -, hx⟩
      · exact aliasOf_self hr
      · exact aliasOf_self hx
    · unfold fallback at hfallback
      cases hg : i.globalTenantEnabled with
      | true =>
        rw [hg, if_pos rfl] at hfallback
        cases hfallback
        exact result_requesting ha (Or.inr (by simp [aliasOf, hg, GLOBAL_TENANTS]))
      | false =>
        rw [hg, if_neg Bool.false_ne_true] at hfallback
        cases hp : i.privateEnabled with
        | true =>
          rw [hp, if_pos rfl] at hfallback
          cases hfallback
          cases husable : i.usable PRIVATE_TENANT_SYMBOL with
          | false => exact result_requesting_private ha hno hg hp husable
          | true =>
            refine result_requesting ha ?_
            rw [usable, Bool.or_eq_true] at husable
            refine husable.imp id fun hsome => ?_
            obtain ⟨t, ht⟩ := Option.isSome_iff_exists.mp hsome
            rcases aliasOf_eq_some ht with ⟨-, hg'⟩ | ⟨rfl, -, -⟩
            · exact absurd (hg.symm.trans hg') (by decide)
            · exact ht
        | false =>
          rw [hp, if_neg Bool.false_ne_true] at hfallback
          exact result_requesting ha (Or.inl (has_of_firstAvailable hfallback))
  · obtain ⟨hm, rfl, hg⟩ := result_of_not_active ha h
    have hm' : truthyFlag (i.requesting GLOBAL_TENANT_SYMBOL).multitenancyEnabled = false := hm
    have hg' : (i.requesting GLOBAL_TENANT_SYMBOL).globalTenantEnabled = true := hg
    rw [result_of_disabled hm', hg', if_pos rfl]

end Resolution

/-! ## The way to the tenant -/

section Browser

variable {request : Request} {w : World} {cookie : SecuritySessionCookie}

/-- The browser gets the cookie that is set last. -/
theorem tenantAfter_set (cookie : SecuritySessionCookie) (w : World) :
    request.tenantAfter { w with session := some (some cookie) } = cookie.tenant := rfl

theorem tenantAfter_of_kept (h : w.session = none) (hread : request.session = .ok (some cookie)) :
    request.tenantAfter w = cookie.tenant := by
  unfold Request.tenantAfter Browser.after
  rw [h, session_of_read hread]
  rfl

theorem tenantAfter_congr {w' : World} (h : w.session = w'.session) :
    request.tenantAfter w = request.tenantAfter w' := by
  unfold Request.tenantAfter Browser.after
  rw [h]

end Browser

namespace AuthenticationType

variable {self : AuthenticationType} {server : Server} {environment : Environment}
  {request : Request}

/-- `isValidCookie` leaves the tenant of a cookie alone. -/
def KeepsTenant (self : AuthenticationType) : Prop :=
  ∀ cookie request cookie' queue,
    (self.isValidCookie cookie request).exec {} = (.ok (true, cookie'), queue) →
      cookie'.tenant = cookie.tenant

theorem scheme_keepsTenant (scheme : Scheme) :
    (scheme.authentication server environment).KeepsTenant := by
  intro cookie request cookie' queue h
  rcases scheme_accepts_cases h with ⟨rfl, -⟩ | ⟨r, idToken, credentials, -, -, -, rfl, -⟩
  · rfl
  · rfl

/-- What holds when `withTenant` is called: the browser would hold the tenant of the cookie, which is
the one it had before, and the backend told who the user is. -/
structure ReachesTenant (auth : AuthenticationType) (environment : Environment) (request : Request)
    (cookie : SecuritySessionCookie) (authInfo : Option AuthInfo) (w : World) : Prop where
  after : request.tenantAfter w = cookie.tenant
  kept : ∀ tenant, request.tenantBefore = some tenant → cookie.tenant = some tenant
  read : auth.requestIncludesAuthInfo request = false →
    ∃ stored, request.session = .ok (some stored)
  known : ∀ info, authInfo = some info →
    ∃ calls headers, environment.authinfo calls request headers = .ok info

theorem keepTenant_tenant {cookie : SecuritySessionCookie}
    {browserCookie : Option SecuritySessionCookie} {tenant : String}
    (h : browserCookie.bind (·.tenant) = some tenant) :
    (keepTenant cookie browserCookie).tenant = some tenant := by
  unfold keepTenant
  rw [h]

/-- A request with authentication data reaches `withTenant`, or nothing is written. -/
theorem authenticateRequest_reaches (hincl : self.requestIncludesAuthInfo request = true) :
    Proc.Triple (fun w => w = {}) (self.authenticateRequest environment request)
      (fun r w => self.ReachesTenant environment request r.1 (some r.2.2) w)
      (fun _ w => w.session = none) := by
  unfold authenticateRequest
  refine Proc.Triple.bind (R := fun _ w => w.session = none)
    (Proc.Triple.ofExcept (fun _ _ w hw => by rw [hw]) fun _ _ w hw => by rw [hw]) fun header => ?_
  refine Proc.Triple.bind (R := fun authInfo w => w.session = none ∧
    ∃ calls headers, environment.authinfo calls request headers = .ok authInfo) ?_
    fun authInfo => ?_
  · intro w hw
    rw [exec_authinfo]
    cases hanswer : environment.authinfo w.calls request header with
    | error message => exact hw
    | ok authInfo => exact ⟨hw, _, _, hanswer⟩
  refine Proc.Triple.bind (R := fun _ w => w.session = none ∧
    ∃ calls headers, environment.authinfo calls request headers = .ok authInfo)
    (Proc.Triple.zoom fun w hw _ _ _ => ⟨fun _ _ => hw, fun _ _ => hw.1⟩) fun cookie => ?_
  refine Proc.Triple.bind (R := fun browserCookie _ => request.session = .ok browserCookie ∧
    ∃ calls headers, environment.authinfo calls request headers = .ok authInfo)
    (Proc.Triple.ofExcept (fun _ hread _ hw => ⟨hread, hw.2⟩) fun _ _ _ hw => hw.1)
    fun browserCookie => ?_
  refine Proc.Triple.bind (R := fun _ w =>
    self.ReachesTenant environment request (keepTenant cookie browserCookie) (some authInfo) w)
    (Proc.Triple.update fun w hw => ?_) fun _ => Proc.Triple.pure fun _ hw => hw
  obtain ⟨hread, hknown⟩ := hw
  refine ⟨tenantAfter_set _ w, fun tenant htenant => ?_, fun hno => ?_, fun info hinfo => ?_⟩
  · unfold Request.tenantBefore at htenant
    rw [hread] at htenant
    exact keepTenant_tenant htenant
  · exact absurd (hincl.symm.trans hno) (by decide)
  · rwa [← Option.some.inj hinfo]

/-- An answer that comes neither with an auth state nor from a failed resolution. -/
def Refuses (result : AuthResult) : Prop :=
  (∀ a, result ≠ .authenticated (some a)) ∧ ∀ body, result ≠ .badRequest body

theorem rejectCookie_refuses :
    Proc.Triple (fun _ => True) (self.rejectCookie request)
      (fun result w => Refuses result ∧ w.session = some none) (fun _ _ => False) := by
  refine Proc.Triple.bind (R := fun _ w => w.session = some none)
    (Proc.Triple.update fun _ _ => rfl) fun _ => Proc.Triple.pure fun w hw => ⟨?_, hw⟩
  split_ifs
  · exact ⟨by simp, by simp⟩
  · exact ⟨by simp, by simp⟩
  · exact ⟨by simp, by simp⟩

section Rule

variable {Q : AuthResult → World → Prop} {E : JsError → World → Prop}

/-- Authentication with a stored cookie has the postconditions that `withTenant` has. -/
theorem authenticateCookie_rule (hframed : self.Framed) (hkeeps : self.KeepsTenant)
    {stored : SecuritySessionCookie} (hread : request.session = .ok (some stored))
    (hrefuses : ∀ result w, Refuses result → w.session = some none → Q result w)
    (hthrows : ∀ error w, request.tenantAfter w = stored.tenant → E error w)
    (hstage : ∀ cookie headers, Proc.Triple
      (self.ReachesTenant environment request cookie none)
      (self.withTenant server environment request cookie headers none) Q E) :
    Proc.Triple (fun w => w = {})
      (self.authenticateCookie server environment stored request) Q E := by
  refine Proc.Triple.bind (R := fun r w => w.session = none ∧
    (r.1 = true → r.2.tenant = stored.tenant)) ?_ fun r => ?_
  · refine Proc.Triple.zoom fun w hw r queue hr => ?_
    rw [hw] at hr ⊢
    refine ⟨fun a ha => ⟨rfl, fun hvalid => ?_⟩, fun e _ => hthrows e _ ?_⟩
    · obtain ⟨isValid, cookie'⟩ := a
      subst ha hvalid
      exact hkeeps stored request cookie' queue hr
    · exact tenantAfter_of_kept rfl hread
  obtain ⟨isValid, cookie⟩ := r
  cases isValid with
  | false =>
    exact rejectCookie_refuses.conseq (fun _ _ => trivial)
      (fun result w h => hrefuses result w h.1 h.2) fun _ _ h => h.elim
  | true =>
    refine Proc.Triple.bind (R := fun cookie w => cookie.tenant = stored.tenant ∧
      request.tenantAfter w = stored.tenant) ?_ fun cookie => ?_
    · intro w hw
      obtain ⟨hnone, htenant⟩ := hw
      cases hkeep : (self.keepAlive server cookie request).exec w with
      | mk r w' =>
        rcases keepAlive_cases hframed hkeep with ⟨-, rfl, rfl⟩ | ⟨-, rfl, e, e', rfl, -⟩ |
          ⟨-, expiryTime, -, rfl, rfl⟩
        · exact ⟨htenant rfl, tenantAfter_of_kept hnone hread⟩
        · exact hthrows e w' (tenantAfter_of_kept hnone hread)
        · exact ⟨htenant rfl, (tenantAfter_set { cookie with expiryTime } w).trans (htenant rfl)⟩
    · refine Proc.Triple.bind (R := fun _ w => cookie.tenant = stored.tenant ∧
        request.tenantAfter w = stored.tenant) ?_ fun headers => ?_
      · intro w hw
        have hsame : ((self.cookieHeaders cookie request).exec w).2 = w :=
          cookieHeaders_keeps hframed cookie w
        cases hheaders : (self.cookieHeaders cookie request).exec w with
        | mk r w' =>
          rw [hheaders] at hsame
          obtain rfl : w' = w := hsame
          cases r with
          | ok headers => exact hw
          | error e => exact hthrows e _ hw.2
      · refine (hstage cookie headers).conseq (fun w hw => ?_) (fun _ _ h => h) fun _ _ h => h
        refine ⟨hw.2.trans hw.1.symm, fun tenant htenant => ?_, fun _ => ⟨stored, hread⟩,
          fun info hinfo => by cases hinfo⟩
        unfold Request.tenantBefore at htenant
        rw [hread] at htenant
        exact hw.1.trans htenant

/-- `authHandler` has the postconditions that `withTenant` has. -/
theorem authHandler_rule (hframed : self.Framed) (hkeeps : self.KeepsTenant)
    (hrefuses : ∀ result w, Refuses result → w.session = none ∨ w.session = some none → Q result w)
    (hthrows : ∀ error w stored, request.session = .ok (some stored) →
      request.tenantAfter w = stored.tenant → E error w)
    (hstage : ∀ cookie headers authInfo, Proc.Triple
      (self.ReachesTenant environment request cookie authInfo)
      (self.withTenant server environment request cookie headers authInfo) Q E) :
    Proc.Triple (fun w => w = {}) (self.authHandler server environment request) Q E := by
  have hnone : ∀ w : World, w = {} → w.session = none := fun w hw => by rw [hw]
  unfold authHandler
  by_cases hrequired : authNotRequired server.config request = true
  · rw [if_pos hrequired]
    exact Proc.Triple.pure fun w hw => hrefuses _ w ⟨by simp, by simp⟩ (Or.inl (hnone w hw))
  rw [if_neg hrequired]
  by_cases hincl : self.requestIncludesAuthInfo request = true
  · rw [if_pos hincl]
    refine Proc.Triple.bind (R := fun r w => match r with
      | .ok a => self.ReachesTenant environment request a.1 (some a.2.2) w
      | .error _ => w.session = none)
      (Proc.Triple.attempt (authenticateRequest_reaches hincl)) fun r => ?_
    cases r with
    | ok a => exact hstage a.1 a.2.1 (some a.2.2)
    | error error =>
      exact Proc.Triple.pure fun w hw => hrefuses _ w ⟨by simp, by simp⟩ (Or.inl hw)
  rw [if_neg hincl]
  cases hread : request.session.toOption.join with
  | none =>
    exact rejectCookie_refuses.conseq (fun _ _ => trivial)
      (fun result w h => hrefuses result w h.1 (Or.inr h.2)) fun _ _ h => h.elim
  | some stored =>
    have hsession : request.session = .ok (some stored) := by
      cases hs : request.session with
      | error e => rw [hs] at hread; cases hread
      | ok o => rw [hs] at hread; exact congrArg Except.ok hread
    exact authenticateCookie_rule hframed hkeeps hsession
      (fun result w h hw => hrefuses result w h (Or.inr hw))
      (fun error w h => hthrows error w stored hsession h) fun cookie headers =>
        hstage cookie headers none

end Rule

/-! ## The tenant stage -/

/-- How `withTenant` ends when the tenants that are resolved have the property `T`. -/
inductive TenantOutcome (server : Server) (request : Request) (T : Option String → Prop)
    (before : Option String) (result : AuthResult) (w : World) : Prop where
  | selected (a : Authenticated) (tenant : String) (hresult : result = .authenticated (some a))
    (hresolved : T (some tenant)) (hselected : a.state.selectedTenant = some tenant)
    (hafter : request.tenantAfter w = some tenant)
    (hheaders : ∃ headers, a.requestHeaders = tenantHeaders server headers tenant)
  | unavailable (hresolved : T none) (hafter : request.tenantAfter w = before)
    (hresult : ∀ a, result ≠ .authenticated a)
  | refused (hrefuses : Refuses result)
    (hafter : request.tenantAfter w = before ∨ w.session = some none)

theorem keeps_tenantAfter {α : Type} {x : Proc World JsError α} (h : Proc.Keeps World.cookies x)
    (tenant : Option String) : Proc.Preserves (fun w => request.tenantAfter w = tenant) x :=
  Proc.Preserves.of_keeps h fun s t hpart hs => by
    rw [← tenantAfter_congr (congrArg Prod.snd hpart)]
    exact hs

theorem setTenant_after (cookie : SecuritySessionCookie) (tenant : String)
    {E : JsError → World → Prop} :
    Proc.Triple (fun w => request.tenantAfter w = cookie.tenant) (setTenant cookie tenant)
      (fun _ w => request.tenantAfter w = some tenant) E := by
  unfold setTenant
  split_ifs with hsame
  · exact Proc.Triple.pure fun w hw => hw.trans hsame
  · exact Proc.Triple.update fun w _ => tenantAfter_set { cookie with tenant := some tenant } w

theorem finish_after (headers : HeaderObject) (authInfo : Option AuthInfo) (tenant : String) :
    Proc.Triple (fun w => request.tenantAfter w = some tenant)
      (finish environment request headers authInfo (some tenant))
      (fun result w => request.tenantAfter w = some tenant ∧ ∃ authInfo, result =
        .authenticated (some { requestHeaders := headers, state :=
          { authInfo := some authInfo, selectedTenant := some tenant } }))
      (fun _ w => request.tenantAfter w = some tenant) := by
  refine Proc.Triple.bind (R := fun _ w => request.tenantAfter w = some tenant) ?_ fun authInfo =>
    Proc.Triple.pure fun w hw => ⟨hw, authInfo, rfl⟩
  refine keeps_tenantAfter ?_ _
  cases authInfo with
  | some authInfo => exact Proc.Keeps.pure _
  | none => exact authinfo_keeps headers

theorem withTenant_outcome (henabled : server.config.multitenancy.enabled = true)
    {T : Option String → Prop} {cookie : SecuritySessionCookie} {headers : HeaderObject}
    {authInfo : Option AuthInfo}
    (hT : Proc.Triple (fun _ => True)
      (resolveTenant server environment request cookie headers authInfo) (fun tenant _ => T tenant)
      fun _ _ => True) :
    Proc.Triple (fun w => request.tenantAfter w = cookie.tenant)
      (self.withTenant server environment request cookie headers authInfo)
      (TenantOutcome server request T cookie.tenant)
      (fun _ w => request.tenantAfter w = cookie.tenant ∨
        ∃ tenant, T (some tenant) ∧ request.tenantAfter w = some tenant) := by
  unfold withTenant
  rw [if_pos henabled]
  refine Proc.Triple.bind (R := fun r w => (∀ tenant, r = .ok tenant → T tenant) ∧
    request.tenantAfter w = cookie.tenant) (Proc.Triple.attempt ?_) fun r => ?_
  · intro w hw
    have hkeeps : Proc.Keeps World.cookies
        (resolveTenant server environment request cookie headers authInfo) :=
      resolveTenant_keeps cookie headers authInfo
    have hafter := keeps_tenantAfter hkeeps cookie.tenant w hw
    have hresolved := hT w trivial
    generalize (resolveTenant server environment request cookie headers authInfo).exec w = o
      at hafter hresolved ⊢
    obtain ⟨r, w'⟩ := o
    cases r with
    | ok tenant => exact ⟨fun tenant' ht => Except.ok.inj ht ▸ hresolved, hafter⟩
    | error e => exact ⟨fun tenant' ht => (by cases ht), hafter⟩
  refine Proc.Triple.assume fun hresolved => ?_
  cases r with
  | ok tenant =>
    cases tenant with
    | none => exact Proc.Triple.pure fun w hw => .unavailable (hresolved none rfl) hw (by simp)
    | some tenant =>
      refine Proc.Triple.bind (setTenant_after cookie tenant) fun _ => ?_
      refine (finish_after (tenantHeaders server headers tenant) authInfo tenant).conseq
        (fun _ h => h) (fun result w h => ?_) fun _ w h => Or.inr ⟨tenant, hresolved _ rfl, h⟩
      obtain ⟨hafter, info, rfl⟩ := h
      exact .selected _ tenant rfl (hresolved _ rfl) rfl hafter ⟨headers, rfl⟩
  | error error =>
    cases error with
    | error message => exact Proc.Triple.throw fun w hw => Or.inl hw
    | unauthenticatedError message =>
      dsimp only
      split_ifs
      · exact Proc.Triple.pure fun w hw => .refused ⟨by simp, by simp⟩ (Or.inl hw)
      · exact Proc.Triple.bind (R := fun _ w => w.session = some none)
          (Proc.Triple.update fun _ _ => rfl)
          fun _ => Proc.Triple.pure fun w hw => .refused ⟨by simp, by simp⟩ (Or.inr hw)

/-! ## Agreement within a request -/

theorem agree_of_outcome {T : Option String → Prop} {before : Option String}
    {a : Authenticated} {w : World}
    (h : TenantOutcome server request T before (.authenticated (some a)) w) :
    TenantsAgree server request a w ∧ T a.state.selectedTenant := by
  cases h with
  | selected a' tenant hresult hresolved hselected hafter hheaders =>
    obtain rfl : a = a' := Option.some.inj (AuthResult.authenticated.inj hresult)
    obtain ⟨headers, hheaders⟩ := hheaders
    refine ⟨⟨tenant, hselected, hafter, ?_⟩, ?_⟩
    · rw [hheaders, tenantHeaders, Js.Assigned.own_set_self (by decide)]
      rfl
    · rwa [hselected]
  | unavailable _ _ hresult => exact absurd rfl (hresult _)
  | refused hrefuses => exact absurd rfl (hrefuses.1 a)

/-- What is known of every tenant that is resolved for the user holds of the selected one. -/
theorem authHandler_selects (henabled : server.config.multitenancy.enabled = true)
    (scheme : Scheme) (environment : Environment) (request : Request) {T : Option String → Prop}
    (hT : ∀ cookie headers authInfo,
      (∀ info, authInfo = some info →
        ∃ calls headers, environment.authinfo calls request headers = .ok info) →
      Proc.Triple (fun _ => True)
        (resolveTenant server environment request cookie headers authInfo)
        (fun tenant _ => T tenant) fun _ _ => True) :
    Proc.Triple (fun w => w = {})
      ((scheme.authentication server environment).authHandler server environment request)
      (fun result w => ∀ a, result = .authenticated (some a) →
        TenantsAgree server request a w ∧ T a.state.selectedTenant)
      fun _ _ => True := by
  refine authHandler_rule (scheme_framed scheme) (scheme_keepsTenant scheme)
    (fun result w hrefuses _ a ha => absurd ha (hrefuses.1 a)) (fun _ _ _ _ _ => trivial)
    fun cookie headers authInfo w hw => ?_
  refine (withTenant_outcome henabled (hT cookie headers authInfo hw.known)).conseq
    (fun _ h => h) (fun result w houtcome a ha => ?_) (fun _ _ _ => trivial) w hw.after
  rw [ha] at houtcome
  exact agree_of_outcome houtcome

/-- The auth state, the browser's cookie and the header of an authenticated request have the same
tenant, whatever the authentication type and the configuration. -/
theorem tenants_agree (server : Server) (scheme : Scheme) (environment : Environment)
    (request : Request) (henabled : server.config.multitenancy.enabled = true) (a : Authenticated)
    (w : World)
    (h : ((scheme.authentication server environment).authHandler server environment request).exec
      {} = (.ok (.authenticated (some a)), w)) :
    TenantsAgree server request a w := by
  have hselects := authHandler_selects henabled scheme environment request (T := fun _ => True)
    fun cookie headers authInfo _ => Proc.Triple.any _ _
  exact ((hselects.ok rfl h) a rfl).1

/-! ## Agreement between requests -/

variable {told : AuthInfo} {dashboardsInfo : DashboardsInfo}

/-- While the backend tells the same, the tenant that is resolved depends on the requested one
alone. -/
theorem resolveTenant_resolves (htells : environment.Tells told dashboardsInfo)
    (cookie : SecuritySessionCookie) (headers : HeaderObject) (authInfo : Option AuthInfo)
    (hknown : ∀ info, authInfo = some info →
      ∃ calls headers, environment.authinfo calls request headers = .ok info) :
    Proc.Triple (fun _ => True) (resolveTenant server environment request cookie headers authInfo)
      (fun tenant _ => server.resolveFor told dashboardsInfo (selectedTenantOf request cookie
        dashboardsInfo.multitenancy_enabled dashboardsInfo.default_tenant) = .ok tenant)
      fun _ _ => True := by
  refine Proc.Triple.bind (R := fun info _ => info = told ∧ True) ?_ fun info =>
    Proc.Triple.assume fun hinfo => ?_
  · cases authInfo with
    | some info =>
      obtain ⟨calls, headers, hanswer⟩ := hknown info rfl
      exact Proc.Triple.pure fun _ _ => ⟨htells.authinfo _ _ _ _ hanswer, trivial⟩
    | none =>
      refine Proc.Triple.bind (R := fun r _ => ∀ info, r = .ok info → info = told) ?_ fun r => ?_
      · intro w _
        rw [Proc.exec_attempt, exec_authinfo]
        intro info hinfo
        cases hanswer : environment.authinfo w.calls request headers with
        | ok answer =>
          rw [hanswer] at hinfo
          exact (Except.ok.inj hinfo).symm.trans (htells.authinfo _ _ _ _ hanswer)
        | error message =>
          rw [hanswer] at hinfo
          cases hinfo
      · cases r with
        | ok info => exact Proc.Triple.pure fun _ h => ⟨h info rfl, trivial⟩
        | error error => exact Proc.Triple.throw fun _ _ => trivial
  refine Proc.Triple.bind (R := fun answer _ => answer = dashboardsInfo ∧ True) ?_ fun answer =>
    Proc.Triple.assume fun hanswer => ?_
  · intro w _
    rw [exec_dashboardsinfo]
    cases hanswer : environment.dashboardsinfo w.calls request headers with
    | ok answer => exact ⟨htells.dashboardsinfo _ _ _ _ hanswer, trivial⟩
    | error message => trivial
  subst hinfo hanswer
  unfold Server.resolveFor
  cases info.tenants with
  | none => exact Proc.Triple.throw fun _ _ => trivial
  | some tenants => exact Proc.Triple.ofExcept (fun _ h _ _ => h) fun _ _ _ _ => trivial

/-- A request that names no tenant asks for the one in the cookie. -/
theorem selectedTenantOf_cookie (hnames : request.NamesNoTenant) {cookie : SecuritySessionCookie}
    {tenant : String} (htenant : cookie.tenant = some tenant) (multitenancyEnabled : Option Bool)
    (defaultTenant : Option String) :
    selectedTenantOf request cookie multitenancyEnabled defaultTenant = some tenant := by
  have hparams := hnames.params
  have hheaders := hnames.headers
  simp only [List.forall_mem_cons, List.not_mem_nil, false_implies, implies_true, and_true]
    at hparams hheaders
  simp only [selectedTenantOf, hparams.1, hparams.2.1, hparams.2.2, hheaders.1, hheaders.2,
    Bool.false_eq_true, if_false, htenant, Option.isSome_some, if_true]

end AuthenticationType

/-- The tenant that `resolve` gives for a user is given again when it is asked for. -/
theorem resolveFor_again {server : Server} {told : AuthInfo} {dashboardsInfo : DashboardsInfo}
    {requested : Option String} {t : String}
    (h : server.resolveFor told dashboardsInfo requested = .ok (some t)) :
    server.resolveFor told dashboardsInfo (some t) = .ok (some t) := by
  unfold Server.resolveFor at h ⊢
  cases htenants : told.tenants with
  | none =>
    rw [htenants] at h
    cases h
  | some tenants =>
    rw [htenants] at h
    exact Resolution.result_idempotent
      (i := ⟨_, requested, _, tenants, _, dashboardsInfo.multitenancy_enabled, _⟩) h

/-! ## A session keeps its tenant -/

/-- Every session cookie the browser holds names this tenant. -/
def Browser.InTenant (browser : Browser) (t : String) : Prop :=
  ∀ cookie, browser.session = some cookie → cookie.tenant = some t

section Sticks

variable {server : Server} {scheme : Scheme} {environment : Environment} {request : Request}
  {told : AuthInfo} {dashboardsInfo : DashboardsInfo} {t : String}

theorem inTenant_of_tenantAfter {w : World} (h : request.tenantAfter w = some t) :
    (request.cookies.after w).InTenant t := by
  intro cookie hcookie
  unfold Request.tenantAfter at h
  rwa [hcookie] at h

theorem inTenant_of_written {w : World} (hbefore : request.cookies.InTenant t)
    (h : w.session = none ∨ w.session = some none) : (request.cookies.after w).InTenant t := by
  intro cookie hcookie
  rcases after_session hcookie with ⟨-, hkept⟩ | ⟨written, hwritten, -⟩
  · exact hbefore cookie hkept
  · rcases h with h | h
    · exact absurd (h.symm.trans hwritten) (by simp)
    · exact absurd (h.symm.trans hwritten) (by simp)

/-- A refusal selects no tenant. -/
theorem selectsOnly_of_refuses {result : AuthResult} (h : AuthenticationType.Refuses result)
    (t : String) : SelectsOnly t (some (.ok result)) := by
  obtain ⟨hno, hbad⟩ := h
  refine ⟨fun a ha => ?_, fun body hbody => ?_⟩
  · exact absurd (Except.ok.inj (Option.some.inj ha)) (hno a)
  · exact absurd (Except.ok.inj (Option.some.inj hbody)) (hbad body)

/-- One request of the session. -/
theorem authHandler_sticks (request : Request) (henabled : server.config.multitenancy.enabled = true)
    (hnames : request.NamesNoTenant) (htells : environment.Tells told dashboardsInfo)
    (hreads : (scheme.authentication server environment).requestIncludesAuthInfo request = true →
      ∃ cookie, request.session = .ok (some cookie))
    (hresolves : server.resolveFor told dashboardsInfo (some t) = .ok (some t))
    (hbefore : request.cookies.InTenant t) :
    Proc.Triple (fun w => w = {})
      ((scheme.authentication server environment).authHandler server environment request)
      (fun result w => SelectsOnly t (some (.ok result)) ∧ (request.cookies.after w).InTenant t)
      (fun _ w => (request.cookies.after w).InTenant t) := by
  refine AuthenticationType.authHandler_rule (scheme_framed scheme)
    (AuthenticationType.scheme_keepsTenant scheme)
    (fun result w h hw => ⟨selectsOnly_of_refuses h t, inTenant_of_written hbefore hw⟩)
    (fun error w stored hread hafter => inTenant_of_tenantAfter
      (hafter.trans (hbefore stored (session_of_read hread)))) fun cookie headers authInfo => ?_
  intro w hw
  have htenant : cookie.tenant = some t := by
    have hread : ∃ stored, request.session = .ok (some stored) := by
      cases hincl : (scheme.authentication server environment).requestIncludesAuthInfo request with
      | true => exact hreads hincl
      | false => exact hw.read hincl
    obtain ⟨stored, hread⟩ := hread
    refine hw.kept t ?_
    unfold Request.tenantBefore
    rw [hread]
    exact hbefore stored (session_of_read hread)
  have hresolved : Proc.Triple (fun _ => True)
      (AuthenticationType.resolveTenant server environment request cookie headers authInfo)
      (fun tenant _ => tenant = some t) fun _ _ => True := by
    refine (AuthenticationType.resolveTenant_resolves htells cookie headers authInfo
      hw.known).conseq (fun _ h => h) (fun tenant _ h => ?_) fun _ _ h => h
    rw [AuthenticationType.selectedTenantOf_cookie hnames htenant, hresolves] at h
    exact (Except.ok.inj h).symm
  refine (AuthenticationType.withTenant_outcome henabled hresolved).conseq (fun _ h => h)
    (fun result w' houtcome => ?_) (fun error w' h => inTenant_of_tenantAfter ?_) w hw.after
  · cases houtcome with
    | selected a tenant hresult hresolved hselected hafter hheaders =>
      obtain rfl : tenant = t := Option.some.inj hresolved
      refine ⟨⟨fun a' ha' => ?_, fun body hbody => ?_⟩, inTenant_of_tenantAfter hafter⟩
      · rw [hresult] at ha'
        cases ha'
        exact hselected
      · rw [hresult] at hbody
        cases hbody
    | unavailable hresolved => cases hresolved
    | refused h hafter =>
      refine ⟨selectsOnly_of_refuses h t, ?_⟩
      rcases hafter with hafter | hafter
      · exact inTenant_of_tenantAfter (hafter.trans htenant)
      · exact inTenant_of_written hbefore (Or.inr hafter)
  · rcases h with h | ⟨tenant, hresolved, h⟩
    · exact h.trans htenant
    · exact h.trans hresolved

/-- Without multitenancy no tenant is selected. -/
theorem no_tenant_selected (hdisabled : server.config.multitenancy.enabled = false) :
    Proc.Triple (fun w => w = {})
      ((scheme.authentication server environment).authHandler server environment request)
      (fun result _ => ∀ a, result = .authenticated (some a) → a.state.selectedTenant = none)
      fun _ _ => True := by
  refine AuthenticationType.authHandler_rule (scheme_framed scheme)
    (AuthenticationType.scheme_keepsTenant scheme)
    (fun result w h _ a ha => absurd ha (h.1 a)) (fun _ _ _ _ _ => trivial)
    fun cookie headers authInfo => ?_
  unfold AuthenticationType.withTenant
  rw [if_neg (by rw [hdisabled]; decide)]
  refine Proc.Triple.bind (R := fun _ _ => True) (Proc.Triple.any _ _) fun info => ?_
  exact Proc.Triple.pure fun w _ a ha => by cases ha; rfl

/-- One visit of the session. -/
theorem sessionStep_sticks (henabled : server.config.multitenancy.enabled = true)
    (hresolves : server.resolveFor told dashboardsInfo (some t) = .ok (some t)) (event : Event)
    (s : History) (hcontinues : Continues server scheme told dashboardsInfo event s)
    (hs : s.browser.InTenant t) :
    SelectsOnly t (sessionStep server scheme event s).1 ∧
      (sessionStep server scheme event s).2.browser.InTenant t := by
  cases event with
  | replaced browser => exact hcontinues.elim
  | visit v =>
    obtain ⟨hnames, htells, hreads⟩ := hcontinues
    have hsticks := authHandler_sticks (v.sent s) henabled
      ⟨hnames.params, hnames.headers⟩ htells hreads hresolves hs {} rfl
    cases houtcome : v.outcome server scheme s with
    | mk result w =>
      rw [show ((scheme.authentication server v.environment).authHandler server v.environment
        (v.sent s)).exec {} = (result, w) from houtcome] at hsticks
      have hstep : sessionStep server scheme (.visit v) s =
          (some result, v.record server scheme s result w) := by
        rw [sessionStep, houtcome]
      rw [hstep]
      cases result with
      | ok result => exact hsticks
      | error error => exact ⟨⟨by simp, by simp⟩, hsticks⟩

end Sticks

/-- `resolve` is idempotent in the requested tenant, and once `authHandler` has selected a tenant, it
selects the same one on every later request of the session. -/
theorem tenant_sticks (server : Server) (scheme : Scheme) :
    (∀ (toLowerCase : String → String) (username : String) (requestedTenant : Option String)
      (preferredTenants : Option (List String)) (availableTenants : Tenants)
      (globalTenantEnabled : Bool) (multitenancyEnabled privateTenantEnabled : Option Bool)
      (t : String),
      resolve toLowerCase username requestedTenant preferredTenants availableTenants
          globalTenantEnabled multitenancyEnabled privateTenantEnabled = .ok (some t) →
        resolve toLowerCase username (some t) preferredTenants availableTenants
          globalTenantEnabled multitenancyEnabled privateTenantEnabled = .ok (some t)) ∧
    ∀ (told : AuthInfo) (dashboardsInfo : DashboardsInfo) (first : Visit) (s : History)
      (a : Authenticated) (t : String),
      first.environment.Tells told dashboardsInfo →
      (first.outcome server scheme s).1 = .ok (.authenticated (some a)) →
      a.state.selectedTenant = some t →
      ∀ events, Machine.Meets (sessionStep server scheme)
          (Continues server scheme told dashboardsInfo) events
          (sessionStep server scheme (.visit first) s).2 →
        ∀ output ∈ Machine.trace (sessionStep server scheme) events
          (sessionStep server scheme (.visit first) s).2, SelectsOnly t output.2 := by
  refine ⟨fun toLowerCase username requestedTenant preferredTenants availableTenants
    globalTenantEnabled multitenancyEnabled privateTenantEnabled t h => ?_, ?_⟩
  · exact Resolution.result_idempotent (i := ⟨username, requestedTenant, preferredTenants,
      availableTenants, globalTenantEnabled, multitenancyEnabled, privateTenantEnabled⟩) h
  intro told dashboardsInfo first s a t htells hresult hselected events hmeets
  have houtcome : ((scheme.authentication server first.environment).authHandler server
      first.environment (first.sent s)).exec {} =
        (.ok (.authenticated (some a)), (first.outcome server scheme s).2) := by
    rw [← hresult]
    rfl
  have henabled : server.config.multitenancy.enabled = true := by
    by_contra hdisabled
    have hnone := (no_tenant_selected (by simpa using hdisabled)).ok rfl houtcome a rfl
    exact absurd (hselected.symm.trans hnone) (by simp)
  obtain ⟨⟨tenant, htenant, hafter, -⟩, requested, hresolved⟩ :=
    (AuthenticationType.authHandler_selects henabled scheme first.environment (first.sent s)
      (T := fun tenant => ∃ requested, server.resolveFor told dashboardsInfo requested = .ok tenant)
      fun cookie headers authInfo hknown =>
        (AuthenticationType.resolveTenant_resolves htells cookie headers authInfo hknown).conseq
          (fun _ h => h) (fun _ _ h => ⟨_, h⟩) fun _ _ h => h).ok rfl houtcome a rfl
  obtain rfl : tenant = t := Option.some.inj (htenant.symm.trans hselected)
  rw [hselected] at hresolved
  exact Machine.trace_of_meets (P := fun _ output => SelectsOnly tenant output)
    (fun s => s.browser.InTenant tenant)
    (fun event s hevent hs =>
      sessionStep_sticks henabled (resolveFor_again hresolved) event s hevent hs)
    hmeets (inTenant_of_tenantAfter hafter)

namespace Sample

/-- alice and the tenants she may use. -/
def member : AuthInfo where
  user_name := some "alice"
  tenants := some ⟨[("alice", true), ("analysts", true)], by decide⟩

def tenancy : DashboardsInfo where
  multitenancy_enabled := some true
  private_tenant_enabled := some true

def memberBackend : Environment where
  authinfo _ _ _ := .ok member
  dashboardsinfo _ _ _ := .ok tenancy
  tokenEndpoint _ := .error "Service Unavailable"

def tenantServer : Server := server { multitenancy := { enabled := true } }

/-- alice opens a page in the tenant `analysts` with her basic credentials. -/
def tenantRequest : Request where
  url := { pathname := "/app/home", searchParams := [("security_tenant", "analysts")] }
  headers := Js.Assigned.empty.set "authorization" "Basic YWxpY2U6c2VjcmV0"

def tenantResult : Authenticated where
  requestHeaders := Js.Assigned.empty.set "securitytenant" (.str "analysts")
  state := { authInfo := some member, selectedTenant := some "analysts" }

def tenantWorld : World :=
  (((BasicAuthentication tenantServer).authHandler tenantServer memberBackend tenantRequest).exec
    {}).2

theorem analysts_agree : TenantsAgree tenantServer tenantRequest tenantResult tenantWorld :=
  AuthenticationType.tenants_agree tenantServer (.single .basic) memberBackend tenantRequest
    (by decide) tenantResult tenantWorld rfl

/-- The first visit of the session. -/
def tenantVisit : Visit where
  request := tenantRequest
  environment := memberBackend

/-- A later one, which brings nothing but the cookie. -/
def laterVisit : Visit where
  request := { url := { pathname := "/app/home" } }
  environment := memberBackend

def tenantStart : History := { browser := {} }

def tenantHistory : History :=
  (sessionStep tenantServer (.single .basic) (.visit tenantVisit) tenantStart).2

theorem member_told : memberBackend.Tells member tenancy where
  authinfo _ _ _ _ h := (Except.ok.inj h).symm
  dashboardsinfo _ _ _ _ h := (Except.ok.inj h).symm

theorem analysts_stick :
    resolve asciiToLowerCase "alice" (some "__user__") none
        ⟨[("alice", true), ("analysts", true)], by decide⟩ true (some true) (some true) =
      .ok (some "__user__") ∧
    SelectsOnly "analysts"
      (sessionStep tenantServer (.single .basic) (.visit laterVisit) tenantHistory).1 := by
  have hsticks := tenant_sticks tenantServer (.single .basic)
  refine ⟨hsticks.1 _ _ (some "private") _ _ _ _ _ _ (by decide), ?_⟩
  exact hsticks.2 member tenancy tenantVisit tenantStart tenantResult "analysts" member_told rfl rfl
    [.visit laterVisit] ⟨⟨⟨by decide, by decide⟩, member_told, fun h => absurd h (by decide)⟩,
      trivial⟩ (.visit laterVisit, _) List.mem_cons_self

end Sample

end SecurityDashboards
