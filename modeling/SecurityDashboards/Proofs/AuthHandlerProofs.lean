import SecurityDashboards.AuthTypes.Basic
import SecurityDashboards.Proofs.PlainObjectProofs
import SecurityDashboards.SampleServer

/-!
# Proofs: `authHandler` is sound

Whatever the methods of the authentication type do, a request is only authenticated after the
backend accepted the very headers that are handed on, up to the tenant.
-/

namespace SecurityDashboards

open World

theorem exec_authinfo (environment : Environment) (request : Request) (headers : HeaderObject)
    (w : World) :
    (authinfo environment request headers).exec w =
      ((environment.authinfo w.calls request headers).mapError JsError.error,
        { w with
          calls := .authinfo headers (environment.authinfo w.calls request headers) :: w.calls }) :=
  rfl

theorem exec_dashboardsinfo (environment : Environment) (request : Request)
    (headers : HeaderObject) (w : World) :
    (dashboardsinfo environment request headers).exec w =
      ((environment.dashboardsinfo w.calls request headers).mapError JsError.error,
        { w with
          calls := .dashboardsinfo headers (environment.dashboardsinfo w.calls request headers) ::
            w.calls }) :=
  rfl

/-- A call of the backend keeps what does not depend on the log of calls. -/
theorem authinfo_preserves {I : World → Prop}
    (h : ∀ w call, I w → I { w with calls := call :: w.calls }) (environment : Environment)
    (request : Request) (headers : HeaderObject) :
    Proc.Preserves I (authinfo environment request headers) := by
  intro w hw
  rw [exec_authinfo]
  cases environment.authinfo w.calls request headers with
  | ok authInfo => exact h w _ hw
  | error message => exact h w _ hw

theorem dashboardsinfo_preserves {I : World → Prop}
    (h : ∀ w call, I w → I { w with calls := call :: w.calls }) (environment : Environment)
    (request : Request) (headers : HeaderObject) :
    Proc.Preserves I (dashboardsinfo environment request headers) := by
  intro w hw
  rw [exec_dashboardsinfo]
  cases environment.dashboardsinfo w.calls request headers with
  | ok dashboardsInfo => exact h w _ hw
  | error message => exact h w _ hw

/-- The backend accepted these headers, up to the tenant. -/
def World.Accepted (w : World) (authHeaders : HeaderObject) : Prop :=
  ∃ headers authInfo, BackendCall.authinfo headers (.ok authInfo) ∈ w.calls ∧
    headers.remove "securitytenant" = authHeaders.remove "securitytenant"

/-- The procedure only adds to the log of backend calls. -/
def Logs {α : Type} (x : Proc World JsError α) : Prop :=
  ∀ c : BackendCall, Proc.Triple (fun w => c ∈ w.calls) x (fun _ w => c ∈ w.calls)
    (fun _ w => c ∈ w.calls)

namespace Logs

variable {α β : Type}

theorem pure (a : α) : Logs (Pure.pure a) := fun _ => Proc.Preserves.pure a

theorem throw (e : JsError) : Logs (α := α) (MonadExcept.throw e) := fun _ => Proc.Preserves.throw e

theorem ofExcept (r : Except JsError α) : Logs (Proc.ofExcept r) :=
  fun _ => Proc.Preserves.ofExcept r

theorem bind {x : Proc World JsError α} {f : α → Proc World JsError β} (hx : Logs x)
    (hf : ∀ a, Logs (f a)) : Logs (x >>= f) :=
  fun c => Proc.Preserves.bind (hx c) fun a => hf a c

theorem attempt {x : Proc World JsError α} (hx : Logs x) : Logs (Proc.attempt x) :=
  fun c => Proc.Preserves.attempt (hx c)

theorem onQueue (x : Proc Queue JsError α) : Logs (World.onQueue x) :=
  fun _ => Proc.Preserves.zoom fun _ _ h => h

theorem setSession (cookie : SecuritySessionCookie) : Logs (World.setSession cookie) :=
  fun _ => Proc.Preserves.update fun _ h => h

theorem accepted {x : Proc World JsError α} (hx : Logs x) (authHeaders : HeaderObject) :
    Proc.Triple (fun w => w.Accepted authHeaders) x (fun _ w => w.Accepted authHeaders)
      (fun _ w => w.Accepted authHeaders) := by
  intro w hw
  obtain ⟨headers, authInfo, hmem, hheaders⟩ := hw
  have h := hx _ w hmem
  cases hr : x.exec w with
  | mk r t =>
    rw [hr] at h
    cases r with
    | ok a => exact ⟨headers, authInfo, h, hheaders⟩
    | error e => exact ⟨headers, authInfo, h, hheaders⟩

theorem authinfo (environment : Environment) (request : Request) (headers : HeaderObject) :
    Logs (SecurityDashboards.authinfo environment request headers) :=
  fun c => authinfo_preserves (I := fun w => c ∈ w.calls) (fun _ _ h => List.mem_cons_of_mem _ h)
    environment request headers

theorem dashboardsinfo (environment : Environment) (request : Request) (headers : HeaderObject) :
    Logs (SecurityDashboards.dashboardsinfo environment request headers) :=
  fun c => dashboardsinfo_preserves (I := fun w => c ∈ w.calls)
    (fun _ _ h => List.mem_cons_of_mem _ h) environment request headers

end Logs

/-- A call of `authinfo` that returns was accepted. -/
theorem authinfo_accepted (environment : Environment) (request : Request) (headers : HeaderObject)
    (P : World → Prop) :
    Proc.Triple P (authinfo environment request headers) (fun _ w => w.Accepted headers)
      (fun _ _ => True) := by
  intro w _
  rw [exec_authinfo]
  cases environment.authinfo w.calls request headers with
  | error message => trivial
  | ok authInfo => exact ⟨headers, authInfo, List.mem_cons_self, rfl⟩

/-- The headers of an authenticated request were accepted. -/
def AuthResult.Sound (result : AuthResult) (w : World) : Prop :=
  ∀ a, result = .authenticated a → ∃ r, a = some r ∧ w.Accepted r.requestHeaders

namespace AuthenticationType

variable {self : AuthenticationType} {server : Server} {environment : Environment}
  {request : Request}

theorem tenantHeaders_accepted {authHeaders : HeaderObject} {tenant : String} {w : World} :
    w.Accepted (tenantHeaders server authHeaders tenant) ↔ w.Accepted authHeaders := by
  simp only [World.Accepted, tenantHeaders, Js.Assigned.remove_set]

theorem tenantAuthInfo_logs (authHeader : HeaderObject) (authInfo : Option AuthInfo) :
    Logs (tenantAuthInfo environment request authHeader authInfo) := by
  cases authInfo with
  | some authInfo => exact Logs.pure authInfo
  | none =>
    refine Logs.bind (Logs.attempt (Logs.authinfo _ _ _)) fun r => ?_
    cases r with
    | ok authInfo => exact Logs.pure authInfo
    | error error => exact Logs.throw _

theorem resolveTenant_logs (cookie : SecuritySessionCookie) (authHeader : HeaderObject)
    (authInfo : Option AuthInfo) :
    Logs (resolveTenant server environment request cookie authHeader authInfo) := by
  refine Logs.bind (tenantAuthInfo_logs authHeader authInfo) fun authInfo => ?_
  refine Logs.bind (Logs.dashboardsinfo _ _ _) fun dashboardsInfo => ?_
  cases authInfo.tenants with
  | none => exact Logs.throw _
  | some tenants => exact Logs.ofExcept _

theorem setTenant_logs (cookie : SecuritySessionCookie) (tenant : String) :
    Logs (setTenant cookie tenant) := by
  unfold setTenant
  split
  · exact Logs.pure ()
  · exact Logs.setSession _

/-- Either the headers were accepted before, or `finish` has them checked. -/
theorem finish_sound (authHeaders : HeaderObject) (authInfo : Option AuthInfo)
    (selectedTenant : Option String) :
    Proc.Triple (fun w => authInfo.isSome = true → w.Accepted authHeaders)
      (finish environment request authHeaders authInfo selectedTenant) AuthResult.Sound
      (fun _ _ => True) := by
  have hchecked : Proc.Triple (fun w => authInfo.isSome = true → w.Accepted authHeaders)
      (ensureAuthInfo environment request authHeaders authInfo)
      (fun _ w => w.Accepted authHeaders) (fun _ _ => True) := by
    cases authInfo with
    | some authInfo => exact Proc.Triple.pure fun w h => h rfl
    | none => exact authinfo_accepted _ _ _ _
  refine Proc.Triple.bind hchecked fun authInfo => ?_
  refine Proc.Triple.pure fun w hw => ?_
  rintro a ⟨⟩
  exact ⟨_, rfl, hw⟩

theorem not_authenticated_sound {result : AuthResult} {w : World}
    (h : ∀ a, result ≠ .authenticated a) : result.Sound w :=
  fun a ha => absurd ha (h a)

theorem withTenant_sound (cookie : SecuritySessionCookie) (authHeaders : HeaderObject)
    (authInfo : Option AuthInfo) :
    Proc.Triple (fun w => authInfo.isSome = true → w.Accepted authHeaders)
      (self.withTenant server environment request cookie authHeaders authInfo) AuthResult.Sound
      (fun _ _ => True) := by
  -- What the code before the last check keeps.
  have hkeeps : ∀ {α : Type} {x : Proc World JsError α}, Logs x →
      Proc.Triple (fun w => authInfo.isSome = true → w.Accepted authHeaders) x
        (fun _ w => authInfo.isSome = true → w.Accepted authHeaders)
        (fun _ w => authInfo.isSome = true → w.Accepted authHeaders) := by
    intro α x hx
    cases hs : authInfo.isSome with
    | false => intro w _; split <;> exact fun h => absurd h (by decide)
    | true =>
      exact (Logs.accepted hx authHeaders).conseq (fun w h => h rfl) (fun _ _ h _ => h)
        (fun _ _ h _ => h)
  unfold withTenant
  split
  · refine Proc.Triple.bind (R := fun _ w => authInfo.isSome = true → w.Accepted authHeaders)
      (Proc.Triple.attempt (hkeeps (resolveTenant_logs _ _ _))) fun r => ?_
    cases r with
    | error error =>
      cases error with
      | error message => exact Proc.Triple.throw fun _ _ => trivial
      | unauthenticatedError message =>
        simp only
        split
        · exact Proc.Triple.pure fun w _ => not_authenticated_sound (by simp)
        · exact Proc.Triple.bind (R := fun _ _ => True) (Proc.Triple.update fun _ _ => trivial)
            fun _ => Proc.Triple.pure fun w _ => not_authenticated_sound (by simp)
    | ok tenant =>
      cases tenant with
      | none => exact Proc.Triple.pure fun w _ => not_authenticated_sound (by simp)
      | some tenant =>
        have hset := (hkeeps (setTenant_logs cookie tenant)).conseq (fun _ h => h)
          (fun _ _ h => h) (fun _ _ _ => trivial)
        refine Proc.Triple.bind hset fun _ => ?_
        exact (finish_sound _ _ _).conseq
          (fun w h hs => tenantHeaders_accepted.mpr (h hs)) (fun _ _ h => h) (fun _ _ h => h)
  · exact finish_sound _ _ _

/-- The headers of a request that carries authentication data are accepted before anything else
happens. -/
theorem authenticateRequest_accepted :
    Proc.Triple (fun _ => True) (self.authenticateRequest environment request)
      (fun r w => w.Accepted r.2.1) (fun _ _ => True) := by
  unfold authenticateRequest
  refine Proc.Triple.bind (R := fun _ _ => True)
    (Proc.Triple.ofExcept (fun _ _ _ _ => trivial) (fun _ _ _ _ => trivial)) fun header => ?_
  rw [Js.Assigned.assign_empty]
  refine Proc.Triple.bind (authinfo_accepted _ _ _ _) fun authInfo => ?_
  have hkeeps : ∀ {α : Type} {x : Proc World JsError α}, Logs x →
      Proc.Triple (fun w => w.Accepted header) x (fun _ w => w.Accepted header)
        (fun _ _ => True) :=
    fun hx => (Logs.accepted hx header).conseq (fun _ h => h) (fun _ _ h => h)
      (fun _ _ _ => trivial)
  refine Proc.Triple.bind (hkeeps (Logs.onQueue _)) fun cookie => ?_
  refine Proc.Triple.bind (hkeeps (Logs.ofExcept _)) fun browserCookie => ?_
  refine Proc.Triple.bind (hkeeps (Logs.setSession _)) fun _ => ?_
  exact Proc.Triple.pure fun w h => h

theorem rejectCookie_sound (hoptional : authOptional request = false) (P : World → Prop) :
    Proc.Triple P (self.rejectCookie request) AuthResult.Sound (fun _ _ => True) := by
  refine Proc.Triple.bind (R := fun _ _ => True) (Proc.Triple.update fun _ _ => trivial) fun _ => ?_
  refine Proc.Triple.pure fun w _ => ?_
  rw [hoptional]
  split <;> exact not_authenticated_sound (by simp)

theorem authenticateCookie_sound (cookie : SecuritySessionCookie)
    (hoptional : authOptional request = false) (P : World → Prop) :
    Proc.Triple P (self.authenticateCookie server environment cookie request) AuthResult.Sound
      (fun _ _ => True) := by
  refine Proc.Triple.bind (Proc.Triple.any _ _) fun r => ?_
  obtain ⟨isValid, cookie⟩ := r
  cases isValid with
  | false => exact rejectCookie_sound hoptional _
  | true =>
    refine Proc.Triple.bind (Proc.Triple.any _ _) fun cookie => ?_
    refine Proc.Triple.bind (Proc.Triple.any _ _) fun authHeaders => ?_
    exact (withTenant_sound cookie authHeaders none).conseq
      (fun _ _ h => absurd h (by decide)) (fun _ _ h => h) (fun _ _ h => h)

theorem authHandler_triple (hrequired : authNotRequired server.config request = false)
    (hoptional : authOptional request = false) :
    Proc.Triple (fun _ => True) (self.authHandler server environment request) AuthResult.Sound
      (fun _ _ => True) := by
  unfold authHandler
  simp only [hrequired, Bool.false_eq_true, if_false]
  split
  · refine Proc.Triple.bind (R := fun r w => ∀ a, r = Except.ok a → w.Accepted a.2.1) ?_
      fun r => ?_
    · exact Proc.Triple.attempt (authenticateRequest_accepted.conseq (fun _ h => h)
        (fun a w h b hb => by cases hb; exact h) (fun e w _ b hb => by cases hb))
    · cases r with
      | error error => exact Proc.Triple.pure fun w _ => not_authenticated_sound (by simp)
      | ok a =>
        obtain ⟨cookie, authHeaders, authInfo⟩ := a
        exact (withTenant_sound cookie authHeaders (some authInfo)).conseq
          (fun w h _ => h _ rfl) (fun _ _ h => h) (fun _ _ h => h)
  · split
    · exact rejectCookie_sound hoptional _
    · exact authenticateCookie_sound _ hoptional _

/-- A request to a route that requires authentication is only authenticated with headers that a
call of `authinfo` in the same invocation accepted, up to the tenant. -/
theorem authHandler_sound (self : AuthenticationType) (server : Server) (environment : Environment)
    (request : Request) (hrequired : authNotRequired server.config request = false)
    (hoptional : authOptional request = false) (a : Option Authenticated) (w : World)
    (h : (self.authHandler server environment request).exec {} = (.ok (.authenticated a), w)) :
    ∃ r, a = some r ∧ w.Accepted r.requestHeaders :=
  (authHandler_triple hrequired hoptional).ok trivial h a rfl

end AuthenticationType

/-- A backend that knows alice by her basic credentials. -/
def Sample.basicBackend : Environment where
  authinfo _ request headers :=
    if request.header "authorization" = .str "Basic YWxpY2U6c2VjcmV0" ∧ headers.keys = [] then
      .ok { user_name := some "alice" }
    else .error "Authentication Exception"
  dashboardsinfo _ _ _ := .ok {}
  tokenEndpoint _ := .error "Not Found"

/-- alice calls a route with her basic credentials. -/
def Sample.basicLogin : Request where
  url := { pathname := "/api/status" }
  headers := Js.Assigned.empty.set "authorization" "Basic YWxpY2U6c2VjcmV0"
  now := 1000

def Sample.basicResult : Authenticated where
  requestHeaders := .empty
  state := { authInfo := some { user_name := some "alice" } }

theorem Sample.basicLogin_accepted :
    ∃ r, some Sample.basicResult = some r ∧
      (((BasicAuthentication (server {})).authHandler (server {}) basicBackend basicLogin).exec
        {}).2.Accepted r.requestHeaders :=
  AuthenticationType.authHandler_sound (BasicAuthentication (server {})) (server {}) basicBackend
    basicLogin (by decide) (by decide) (some basicResult) _ rfl

end SecurityDashboards
