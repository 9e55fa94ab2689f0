import SecurityDashboards.Lib.Lockstep
import SecurityDashboards.MultipleTypes
import SecurityDashboards.Proofs.SessionsProofs
import SecurityDashboards.SampleServer

/-!
# Proofs: one type among several
-/

namespace SecurityDashboards

section Request

variable {server : Server} {environment : Environment} {request : Request}

namespace AuthenticationType

variable {self self' : AuthenticationType}

theorem withTenant_agree (cookie : SecuritySessionCookie) (headers : HeaderObject)
    (authInfo : Option AuthInfo) :
    Proc.Agree (SameAnswer self self' request)
      (self.withTenant server environment request cookie headers authInfo)
      (self'.withTenant server environment request cookie headers authInfo) := by
  unfold withTenant
  split
  · refine Proc.Agree.bind (fun e => .same _) fun tenant _ _ _ => ?_
    cases tenant with
    | error error =>
      cases error with
      | error message => exact Proc.Agree.throw (.same _)
      | unauthenticatedError message =>
        dsimp only
        split
        · exact Proc.Agree.pure (.same _)
        · exact Proc.Agree.bind (fun e => .same _) fun _ _ _ _ => Proc.Agree.pure
            (.refused request.cookies request.now)
    | ok tenant =>
      cases tenant with
      | none => exact Proc.Agree.pure (.same _)
      | some tenant =>
        exact Proc.Agree.bind (fun e => .same _) fun _ _ _ _ _ => ⟨.same _, rfl⟩
  · exact fun _ => ⟨.same _, rfl⟩

theorem rejectCookie_agree :
    Proc.Agree (SameAnswer self self' request) (self.rejectCookie request)
      (self'.rejectCookie request) := by
  unfold rejectCookie
  refine Proc.Agree.bind (fun e => .same _) fun _ _ _ _ => Proc.Agree.pure ?_
  split
  · exact .same _
  · split
    · exact .same _
    · exact .refused request.cookies request.now

end AuthenticationType

/-! ## The methods of the session's type -/

theorem renew_keeps_authType (cookie : SecuritySessionCookie) (refresh_token : String) :
    Proc.Triple (fun _ => True)
      (OpenIdAuthentication.renew server environment cookie request refresh_token)
      (fun result _ => result.2.authType = cookie.authType) (fun _ _ => True) := by
  refine Proc.Triple.bind (R := fun _ _ => True) (Proc.Triple.any _ _) fun tokenResponse => ?_
  cases tokenResponse.idToken.filter (· != "") with
  | none => exact Proc.Triple.pure fun _ _ => rfl
  | some idToken =>
    refine Proc.Triple.bind (R := fun _ _ => True) (Proc.Triple.any _ _) fun credentials => ?_
    exact Proc.Triple.bind (R := fun _ _ => True) (Proc.Triple.any _ _) fun _ =>
      Proc.Triple.pure fun _ _ => rfl

theorem openId_keeps_authType (cookie : SecuritySessionCookie) :
    Proc.Triple (fun _ => True)
      (OpenIdAuthentication.isValidCookie server environment cookie request)
      (fun result _ => result.2.authType = cookie.authType) (fun _ _ => True) := by
  refine Proc.Triple.bind (R := fun _ _ => True) (Proc.Triple.any _ _) fun queue => ?_
  split
  · exact Proc.Triple.pure fun _ _ => rfl
  · split
    · exact Proc.Triple.pure fun _ _ => rfl
    · split
      · rename_i refresh_token _
        refine Proc.Triple.bind (R := fun result _ =>
          ∀ a, result = .ok a → a.2.authType = cookie.authType) ?_ fun result => ?_
        · refine Proc.Triple.attempt ((renew_keeps_authType cookie refresh_token).conseq
            (fun _ h => h) (fun a _ ha b hb => ?_) fun e _ _ a ha => ?_)
          · cases hb
            exact ha
          · cases ha
        · cases result with
          | ok a => exact Proc.Triple.pure fun _ h => h a rfl
          | error e => exact Proc.Triple.pure fun _ _ => rfl
      · exact Proc.Triple.pure fun _ _ => rfl

/-- The cookie that `isValidCookie` returns is of the same type as the one that it gets. -/
theorem handler_keeps_authType (authType : AuthType) (cookie : SecuritySessionCookie) :
    Proc.Triple (fun _ => True)
      ((authType.handler server environment).isValidCookie cookie request)
      (fun result _ => result.2.authType = cookie.authType) (fun _ _ => True) := by
  cases authType with
  | basic => exact Proc.Triple.pure fun _ _ => rfl
  | saml =>
    exact Proc.Triple.bind (R := fun _ _ => True) (Proc.Triple.any _ _) fun _ =>
      Proc.Triple.pure fun _ _ => rfl
  | jwt =>
    exact Proc.Triple.bind (R := fun _ _ => True) (Proc.Triple.any _ _) fun _ =>
      Proc.Triple.pure fun _ _ => rfl
  | proxy =>
    exact Proc.Triple.bind (R := fun _ _ => True) (Proc.Triple.any _ _) fun _ =>
      Proc.Triple.pure fun _ _ => rfl
  | openId => exact openId_keeps_authType cookie

section Session

variable {authHandlers : List AuthType} {authType : AuthType} {cookie : SecuritySessionCookie}

/-- A cookie that names a type goes to the handler of that type. -/
theorem validatedBy_of_names (hmem : authType ∈ authHandlers) (hnames : cookie.Names server authType) :
    (Scheme.multiple authHandlers).validatedBy server cookie = some authType := by
  have hlower : cookie.authType.map server.runtime.toLowerCase = some authType.key := hnames
  simp only [Scheme.validatedBy, hlower, Option.bind_some]
  exact find_key hmem

theorem keepAlive_keeps_authType (self : AuthenticationType) (cookie : SecuritySessionCookie) :
    Proc.Triple (fun _ => True) (self.keepAlive server cookie request)
      (fun result _ => result.authType = cookie.authType) (fun _ _ => True) := by
  unfold AuthenticationType.keepAlive
  split
  · refine Proc.Triple.bind (R := fun _ _ => True) (Proc.Triple.any _ _) fun expiryTime => ?_
    exact Proc.Triple.bind (R := fun _ _ => True) (Proc.Triple.any _ _) fun _ =>
      Proc.Triple.pure fun _ _ => rfl
  · exact Proc.Triple.pure fun _ _ => rfl

variable (hmem : authType ∈ authHandlers)

include hmem

theorem keepAlive_eq (hnames : cookie.Names server authType) :
    (MultipleAuthentication server environment authHandlers).keepAlive server cookie request =
      (authType.handler server environment).keepAlive server cookie request := by
  have hby := validatedBy_of_names hmem hnames
  have hexpiry : (MultipleAuthentication server environment authHandlers).getKeepAliveExpiry cookie
      request = (authType.handler server environment).getKeepAliveExpiry cookie request :=
    (scheme_methods hby).2.1
  unfold AuthenticationType.keepAlive
  rw [hexpiry]

theorem getAdditionalAuthHeader_eq (hnames : cookie.Names server authType)
    (hsession : request.session = .ok (some cookie)) :
    (MultipleAuthentication server environment authHandlers).getAdditionalAuthHeader request =
      (authType.handler server environment).getAdditionalAuthHeader request := by
  change MultipleAuthentication.getAdditionalAuthHeader server environment authHandlers request = _
  unfold MultipleAuthentication.getAdditionalAuthHeader
  rw [hsession]
  simp only [Except.bind, bind, handlerOf_eq, validatedBy_of_names hmem hnames, Option.map_some]

/-- The headers are built from the cookie as `keepAlive` leaves it, while the additional ones depend on
the cookie that was read. -/
theorem cookieHeaders_eq {read : SecuritySessionCookie} (hnames : cookie.Names server authType)
    (hread : read.Names server authType) (hsession : request.session = .ok (some read)) :
    (MultipleAuthentication server environment authHandlers).cookieHeaders cookie request =
      (authType.handler server environment).cookieHeaders cookie request := by
  have hby := validatedBy_of_names hmem hnames
  have hbuild : (MultipleAuthentication server environment authHandlers).buildAuthHeaderFromCookie
      cookie request =
        (authType.handler server environment).buildAuthHeaderFromCookie cookie request :=
    (scheme_methods hby).2.2
  unfold AuthenticationType.cookieHeaders
  rw [hbuild, getAdditionalAuthHeader_eq hmem hread hsession]

theorem authenticateCookie_agree (hnames : cookie.Names server authType)
    (hsession : request.session = .ok (some cookie)) :
    Proc.Agree (SameAnswer (MultipleAuthentication server environment authHandlers)
        (authType.handler server environment) request)
      ((MultipleAuthentication server environment authHandlers).authenticateCookie server environment
        cookie request)
      ((authType.handler server environment).authenticateCookie server environment cookie
        request) := by
  have hby := validatedBy_of_names hmem hnames
  have hvalid : (MultipleAuthentication server environment authHandlers).isValidCookie cookie
      request = (authType.handler server environment).isValidCookie cookie request :=
    (scheme_methods hby).1
  unfold AuthenticationType.authenticateCookie
  rw [hvalid]
  refine Proc.Agree.bind (fun e => .same _) fun result s t hresult => ?_
  obtain ⟨isValid, cookie'⟩ := result
  have hcookie' : cookie'.Names server authType := by
    rw [World.onQueue, Proc.exec_zoom, Prod.mk.injEq] at hresult
    have hkept := (handler_keeps_authType authType cookie).ok trivial
      (Prod.ext hresult.1 rfl : _ = (_, _))
    exact (congrArg (Option.map server.runtime.toLowerCase) hkept).trans hnames
  cases isValid with
  | false => exact AuthenticationType.rejectCookie_agree
  | true =>
    simp only [if_true]
    rw [keepAlive_eq hmem hcookie']
    refine Proc.Agree.bind (fun e => .same _) fun cookie'' s' t' hkept => ?_
    have hcookie'' : cookie''.Names server authType := by
      have hkeeps := (keepAlive_keeps_authType (authType.handler server environment) cookie').ok
        trivial hkept
      exact (congrArg (Option.map server.runtime.toLowerCase) hkeeps).trans hcookie'
    rw [cookieHeaders_eq hmem hcookie'' hnames hsession]
    exact Proc.Agree.bind (fun e => .same _) fun headers _ _ _ =>
      AuthenticationType.withTenant_agree _ headers none

/-- A request without authentication data of its own gets the same answer. -/
theorem authHandler_agree
    (hincludes : (MultipleAuthentication server environment authHandlers).requestIncludesAuthInfo
      request = false)
    (htype : ∀ cookie, request.session = .ok (some cookie) → cookie.Names server authType) :
    Proc.Agree (SameAnswer (MultipleAuthentication server environment authHandlers)
        (authType.handler server environment) request)
      ((MultipleAuthentication server environment authHandlers).authHandler server environment
        request)
      ((authType.handler server environment).authHandler server environment request) := by
  have hone : (authType.handler server environment).requestIncludesAuthInfo request = false := by
    have hall : (authHandlers.any fun t =>
        (t.handler server environment).requestIncludesAuthInfo request) = false := hincludes
    exact Bool.not_eq_true _ ▸ List.any_eq_false.mp hall authType hmem
  unfold AuthenticationType.authHandler
  rw [hincludes, hone]
  split
  · exact Proc.Agree.pure (.same _)
  · simp only [Bool.false_eq_true, if_false]
    cases hread : request.session.toOption.join with
    | none => exact AuthenticationType.rejectCookie_agree
    | some cookie =>
      have hsession : request.session = .ok (some cookie) := by
        cases hs : request.session with
        | error e => rw [hs] at hread; cases hread
        | ok o => rw [hs] at hread; exact congrArg Except.ok hread
      exact authenticateCookie_agree hmem (htype cookie hsession) hsession

end Session

end Request

/-! ## Whole runs -/

section Runs

variable {server : Server} {authHandlers : List AuthType} {authType : AuthType}

theorem SameAnswer.isAuthenticated_eq {self self' : AuthenticationType} {request : Request}
    {result result' : Except JsError AuthResult}
    (h : SameAnswer self self' request result result') :
    isAuthenticated result = isAuthenticated result' := by
  cases h <;> rfl

theorem SameAnswer.of_sent {self self' : AuthenticationType} {v : Visit} {s : History}
    {result result' : Except JsError AuthResult}
    (h : SameAnswer self self' (v.sent s) result result') :
    SameAnswer self self' v.request result result' := by
  cases h with
  | same => exact .same result
  | refused cookies now => exact .refused cookies now

/-- A request without authentication data of its own leaves a session of the type behind, or none. -/
theorem ofType_after {environment : Environment} {request : Request}
    {result : Except JsError AuthResult} {w : World}
    (hincludes : (MultipleAuthentication server environment authHandlers).requestIncludesAuthInfo
      request = false)
    (htype : request.cookies.OfType server authType)
    (h : ((MultipleAuthentication server environment authHandlers).authHandler server environment
      request).exec {} = (result, w)) : (request.cookies.after w).OfType server authType := by
  intro cookie hafter
  rcases after_session hafter with ⟨-, hsession⟩ | ⟨written, hwritten, rfl⟩
  · exact htype cookie hsession
  · cases AuthenticationType.authHandler_effect (multiple_framed authHandlers) h with
    | nothing _ hsession => rw [hsession] at hwritten; cases hwritten
    | failedLogin hincl => rw [hincludes] at hincl; cases hincl
    | login _ _ _ hmint => exact absurd (hincludes.symm.trans hmint.1) Bool.false_ne_true
    | cleared _ _ hsession => rw [hsession] at hwritten; cases hwritten
    | accepted read cookie' _ _ hread hvalid heffect =>
      have hscheme : (((Scheme.multiple authHandlers).authentication server environment).isValidCookie
        read request).exec {} = (.ok (true, cookie'), w.queue) := hvalid
      have hcookie' : cookie'.authType = read.authType := by
        rcases scheme_accepts_cases hscheme with ⟨rfl, -⟩ | ⟨_, _, _, -, -, -, rfl, -⟩ <;> rfl
      have hwrote : written.authType = cookie'.authType := by
        rcases heffect.session with hs | ⟨hs, -⟩ | ⟨expiryTime, tenant, hs, -⟩
        · rw [hs] at hwritten; cases hwritten
        · rw [hs] at hwritten; cases hwritten
        · rw [hs] at hwritten
          cases hwritten
          rfl
      exact (congrArg (Option.map server.runtime.toLowerCase) (hwrote.trans hcookie')).trans
        (htype read (session_of_read hread))

/-- What is recorded of a request without authentication data of its own does not depend on the
scheme. -/
theorem record_congr {scheme scheme' : Scheme} {v : Visit} {s : History}
    {result result' : Except JsError AuthResult} (w : World)
    (hincludes : (scheme.authentication server v.environment).requestIncludesAuthInfo (v.sent s) =
      false)
    (hincludes' : (scheme'.authentication server v.environment).requestIncludesAuthInfo (v.sent s) =
      false)
    (hanswer : isAuthenticated result = isAuthenticated result') :
    v.record server scheme s result w = v.record server scheme' s result' w := by
  simp only [Visit.record, hincludes, hincludes', hanswer, Bool.false_and, Bool.false_eq_true,
    if_false]

theorem sessionStep_visit (scheme : Scheme) (v : Visit) (s : History) :
    sessionStep server scheme (.visit v) s =
      (some (v.outcome server scheme s).1,
        v.record server scheme s (v.outcome server scheme s).1 (v.outcome server scheme s).2) :=
  rfl

/-- Step by step the histories of the browser are the same, with a session of the type or none. -/
theorem sessionStep_lockstep (hmem : authType ∈ authHandlers) :
    Machine.Lockstep (sessionStep server (.multiple authHandlers))
      (sessionStep server (.single authType)) (BySession server authHandlers authType)
      (fun s t => s = t ∧ s.browser.OfType server authType)
      (AnswersAlike server authHandlers authType) := by
  rintro event s _ hby ⟨rfl, htype⟩
  cases event with
  | replaced browser => exact ⟨trivial, rfl, hby⟩
  | visit v =>
    have hincludes : (MultipleAuthentication server v.environment authHandlers).requestIncludesAuthInfo
      (v.sent s) = false := hby
    have hone : ((Scheme.single authType).authentication server v.environment
        ).requestIncludesAuthInfo (v.sent s) = false := by
      have hall : (authHandlers.any fun t =>
          (t.handler server v.environment).requestIncludesAuthInfo (v.sent s)) = false := hincludes
      exact Bool.not_eq_true _ ▸ List.any_eq_false.mp hall authType hmem
    have hboth : SameAnswer (MultipleAuthentication server v.environment authHandlers)
          (authType.handler server v.environment) (v.sent s)
          (v.outcome server (.multiple authHandlers) s).1 (v.outcome server (.single authType) s).1 ∧
        (v.outcome server (.multiple authHandlers) s).2 =
          (v.outcome server (.single authType) s).2 :=
      authHandler_agree hmem hincludes
        (fun cookie hcookie => htype cookie (session_of_request hcookie)) {}
    obtain ⟨hanswer, hworld⟩ := hboth
    have hincluded : ((Scheme.multiple authHandlers).authentication server v.environment
      ).requestIncludesAuthInfo (v.sent s) = false := hincludes
    rw [sessionStep_visit, sessionStep_visit,
      record_congr _ hincluded hone hanswer.isAuthenticated_eq, hworld]
    refine ⟨hanswer.of_sent, rfl, ?_⟩
    rw [← hworld]
    exact ofType_after hincludes htype (Prod.ext rfl rfl)

/-- One type among several is as good as alone: as long as the requests of a browser bring no
authentication data of their own, its histories are the same, and so are the answers. -/
theorem multiple_refines_single (hmem : authType ∈ authHandlers) {events : List Event} {s : History}
    (htype : s.browser.OfType server authType)
    (hby : Machine.Meets (sessionStep server (.multiple authHandlers))
      (BySession server authHandlers authType) events s) :
    Machine.exec (sessionStep server (.multiple authHandlers)) events s =
        Machine.exec (sessionStep server (.single authType)) events s ∧
      List.Forall₂ (fun answered answered' => answered.1 = answered'.1 ∧
          AnswersAlike server authHandlers authType answered.1 answered.2 answered'.2)
        (Machine.trace (sessionStep server (.multiple authHandlers)) events s)
        (Machine.trace (sessionStep server (.single authType)) events s) := by
  have hlockstep := @sessionStep_lockstep server _ _ hmem
  exact ⟨(hlockstep.exec hby ⟨rfl, htype⟩).1, hlockstep.trace hby ⟨rfl, htype⟩⟩

end Runs

/-- A visit to a page without any authentication data. -/
def Sample.pageVisit : Visit where
  request := { url := { pathname := "/app/home" } }
  elapsed := 1000
  environment := Sample.aliceBackend

/-- The session of a SAML login. -/
def Sample.samlBrowser : Browser where
  session := some
    { username := some "alice"
      credentials := some { authHeaderValueExtra := true }
      authType := some SAML
      expiryTime := some 9000 }
  split := fun name => if name = "security_authentication_saml1" then some Sample.tokenText else none

def Sample.samlEvents : List Event :=
  [.visit Sample.pageVisit, .replaced Sample.samlBrowser, .visit Sample.pageVisit]

/-- The SAML type beside the basic type, from the first visit over the login to a visit with the
session. -/
theorem Sample.samlAmongOthers :
    Machine.exec (sessionStep (Sample.server {}) (.multiple [.basic, .saml])) Sample.samlEvents
        { browser := {} } =
      Machine.exec (sessionStep (Sample.server {}) (.single .saml)) Sample.samlEvents
        { browser := {} } ∧
    List.Forall₂ (fun answered answered' => answered.1 = answered'.1 ∧
        AnswersAlike (Sample.server {}) [.basic, .saml] .saml answered.1 answered.2 answered'.2)
      (Machine.trace (sessionStep (Sample.server {}) (.multiple [.basic, .saml])) Sample.samlEvents
        { browser := {} })
      (Machine.trace (sessionStep (Sample.server {}) (.single .saml)) Sample.samlEvents
        { browser := {} }) := by
  have hnone : Browser.OfType (Sample.server {}) .saml {} := fun cookie h => by cases h
  have hsaml : Sample.samlBrowser.OfType (Sample.server {}) .saml := by
    intro cookie h
    cases h
    exact congrArg some (toLowerCase_key (Sample.server {}).runtime .saml)
  exact multiple_refines_single (by decide) hnone ⟨rfl, hsaml, rfl, trivial⟩

end SecurityDashboards
