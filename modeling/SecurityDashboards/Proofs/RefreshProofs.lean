import SecurityDashboards.Proofs.SessionsProofs

/-!
# Proofs: refreshed tokens

When the session cookie and the split cookies of a browser come from the same token response.
-/

namespace SecurityDashboards

theorem exchanged_of_states {w : World} (h : w.queue.states = []) : w.exchanged = none := by
  unfold World.exchanged
  rw [h]

theorem exchanged_of_calls {w : World} (h : w.queue.tokenCalls = []) : w.exchanged = none := by
  unfold World.exchanged
  rw [h]
  split
  · rename_i hcalls
    cases hcalls
  · rfl

section Refresh

variable {server : Server} {scheme : Scheme} {v : Visit} {s : History}
  {result : Except JsError AuthResult} {w : World}

theorem persisted_of_none (hsource : s.source = none) (hrenewed : s.renewed = false) :
    s.Persisted server where
  agree r now h := by
    rw [hsource] at h
    cases h
  kept h := by
    rw [hrenewed] at h
    cases h

theorem persisted_of_login (hno : w.exchanged = none)
    (hlogin : ((scheme.authentication server v.environment).requestIncludesAuthInfo (v.sent s) &&
      w.writes) = true) : (v.record server scheme s result w).Persisted server := by
  refine persisted_of_none ?_ ?_
  · simp only [Visit.record, hno, hlogin, if_true]
  · simp only [Visit.record, hno, Option.isSome_none, Bool.false_and]

/-- A request without a refresh at most clears the session cookie or writes its credentials again. -/
theorem persisted_of_unchanged (hs : s.Persisted server) (hstates : w.queue.states = [])
    (hsession : ∀ cookie, w.session = some (some cookie) →
      ∃ cookie₀, s.browser.session = some cookie₀ ∧ cookie.credentials = cookie₀.credentials) :
    (v.record server scheme s result w).Persisted server := by
  have hno := exchanged_of_states hstates
  by_cases hlogin : ((scheme.authentication server v.environment).requestIncludesAuthInfo
      (v.sent s) && w.writes) = true
  · exact persisted_of_login hno hlogin
  · have hsource : (v.record server scheme s result w).source = s.source := by
      simp only [Visit.record, hno, hlogin]
      rfl
    refine ⟨fun r now h => ?_, fun h => ?_⟩
    · rw [hsource] at h
      obtain ⟨idToken, expiryTime, hid, hexpiry, hholds, hcookie⟩ := hs.agree r now h
      refine ⟨idToken, expiryTime, hid, hexpiry, ?_, fun cookie hc => ?_⟩
      · intro i hi
        have hsplit : (v.record server scheme s result w).browser.split = s.browser.split :=
          after_split hstates
        rw [hsplit]
        exact hholds i hi
      · rcases after_session hc with ⟨-, hbefore⟩ | ⟨written, hw, rfl⟩
        · exact hcookie cookie hbefore
        · obtain ⟨cookie₀, hc₀, hsame⟩ := hsession written hw
          obtain ⟨credentials, hc₁, hrefresh, htime⟩ := hcookie cookie₀ hc₀
          refine ⟨credentials.stored, ?_, hrefresh, htime⟩
          rw [SecuritySessionCookie.stored, hsame, hc₁]
          rfl
    · simp only [Visit.record, hno, Option.isSome_none, Bool.false_and] at h
      cases h

/-! ## A request with a refresh -/

open OpenIdAuthentication

variable {environment : Environment} {cookie : SecuritySessionCookie} {request : Request}

theorem credentialsOf_ok {now : ℕ} {r : TokenResponse} {credentials : Credentials}
    (h : credentialsOf server now r = .ok credentials) :
    ∃ expiryTime, tokenExpirationDate server.runtime now (some r) = .ok expiryTime ∧
      credentials =
        { authHeaderValueExtra := true, refresh_token := r.refreshToken, expiryTime } := by
  unfold credentialsOf at h
  cases hexpiry : tokenExpirationDate server.runtime now (some r) with
  | error e =>
    rw [hexpiry] at h
    cases h
  | ok expiryTime =>
    rw [hexpiry] at h
    cases h
    exact ⟨expiryTime, rfl, rfl⟩

/-- With an OpenID cookie no header is added. -/
theorem openId_getAdditionalAuthHeader (htype : scheme.validatedBy server cookie = some .openId)
    (hread : request.session = .ok (some cookie)) :
    (scheme.authentication server environment).getAdditionalAuthHeader request = .ok .empty := by
  cases scheme with
  | single authType =>
    cases htype
    rfl
  | multiple authHandlers =>
    change MultipleAuthentication.getAdditionalAuthHeader server environment authHandlers request =
      .ok .empty
    have hhandler : MultipleAuthentication.handlerOf server environment authHandlers (some cookie) =
        some (AuthType.openId.handler server environment) := by
      rw [handlerOf_eq, htype, Option.map_some]
    rw [MultipleAuthentication.getAdditionalAuthHeader, hread]
    dsimp only [bind, Except.bind]
    rw [hhandler]
    rfl

/-- After a refresh the headers carry the new token. -/
theorem cookieHeaders_renewed (hn : 0 < server.config.openid.extra_storage.additional_cookies)
    (htype : scheme.validatedBy server cookie = some .openId)
    (hread : request.session = .ok (some cookie)) {credentials : Credentials} {queue : Queue}
    {idToken : String} (hextra : credentials.authHeaderValueExtra = true)
    (hstore : setExtraAuthStorage server.runtime [] (.str ("Bearer " ++ idToken))
      (getExtraAuthStorageOptions server) = .ok queue.states) :
    (((scheme.authentication server environment).cookieHeaders
      { cookie with credentials := some credentials } request).exec { queue }).1 =
        .ok (Js.Assigned.empty.set "authorization" (.str ("Bearer " ++ idToken))) := by
  have htype' : scheme.validatedBy server { cookie with credentials := some credentials } =
      some .openId := htype
  have hvalue : ExtraStorage.value server (getExtraAuthStorageOptions server) request
      { cookie with credentials := some credentials } queue = "Bearer " ++ idToken := by
    simp only [ExtraStorage.value, Option.any_some, hextra, if_true,
      getExtra_of_set hn hstore request]
  have hbuild : (World.onQueue ((scheme.authentication server environment).buildAuthHeaderFromCookie
      { cookie with credentials := some credentials } request)).exec { queue } =
        (.ok (Js.Assigned.empty.set "authorization" (.str ("Bearer " ++ idToken))), { queue }) := by
    have hheader : OpenIdAuthentication.buildAuthHeaderFromCookie server
        { cookie with credentials := some credentials } request queue =
          .ok (Js.Assigned.empty.set "authorization" (.str ("Bearer " ++ idToken))) := by
      simp only [OpenIdAuthentication.buildAuthHeaderFromCookie, hextra, if_true, hvalue]
    rw [(scheme_methods htype').2.2, ← hheader]
    rfl
  unfold AuthenticationType.cookieHeaders
  rw [Proc.exec_bind_of_ok hbuild, openId_getAdditionalAuthHeader htype hread]
  rfl

theorem exchanged_of_stored (hn : 0 < server.config.openid.extra_storage.additional_cookies)
    {r : TokenResponse} {idToken : String} (hcalls : w.queue.tokenCalls = [.ok r])
    (hstore : setExtraAuthStorage server.runtime [] (.str ("Bearer " ++ idToken))
      (getExtraAuthStorageOptions server) = .ok w.queue.states) : w.exchanged = some r := by
  have hne : w.queue.states ≠ [] := states_ne_nil hn hstore
  unfold World.exchanged
  rw [hcalls]
  cases hstates : w.queue.states with
  | nil => exact absurd hstates hne
  | cons state states => rfl

/-- Under the condition a refresh is followed by a write of the session cookie. -/
theorem session_isSome_of_renewed
    (hn : 0 < server.config.openid.extra_storage.additional_cookies) {idToken : String}
    {credentials : Credentials} (htype : scheme.validatedBy server cookie = some .openId)
    (hread : (v.sent s).session = .ok (some cookie))
    (hextra : credentials.authHeaderValueExtra = true)
    (hstore : setExtraAuthStorage server.runtime [] (.str ("Bearer " ++ idToken))
      (getExtraAuthStorageOptions server) = .ok w.queue.states)
    (heffect : AuthenticationType.CookieEffect (scheme.authentication server v.environment) server
      v.environment (v.sent s) { cookie with credentials := some credentials } result w)
    (hwrites : server.config.session.keepalive = true ∨
      TenantWrites server v.environment (v.sent s) cookie
        (Js.Assigned.empty.set "authorization" (.str ("Bearer " ++ idToken)))) :
    w.session.isSome = true := by
  have htype' : scheme.validatedBy server { cookie with credentials := some credentials } =
      some .openId := htype
  by_cases hkeepalive : server.config.session.keepalive = true
  · refine heffect.keepalive hkeepalive (some ((v.sent s).now + server.config.session.ttl)) ?_
    rw [(scheme_methods htype').2.1]
    rfl
  · rcases hwrites with hwrites | hwrites
    · exact absurd hwrites hkeepalive
    · exact heffect.tenant (by simpa using hkeepalive) _
        (cookieHeaders_renewed hn htype hread hextra hstore)
        (AuthenticationType.tenantWrites_congr rfl hwrites)

/-- A request that refreshes the token and writes the session cookie leaves both from one token
response. -/
theorem persisted_of_renewed {r : TokenResponse} {idToken : String} {credentials : Credentials}
    (hid : r.idToken.filter (· != "") = some idToken)
    (hcredentials : credentialsOf server (v.sent s).now r = .ok credentials)
    (hexchanged : w.exchanged = some r) (hsome : w.session.isSome = true)
    (hstore : setExtraAuthStorage server.runtime [] (.str ("Bearer " ++ idToken))
      (getExtraAuthStorageOptions server) = .ok w.queue.states)
    (heffect : AuthenticationType.CookieEffect (scheme.authentication server v.environment) server
      v.environment (v.sent s) { cookie with credentials := some credentials } result w) :
    (v.record server scheme s result w).Persisted server := by
  obtain ⟨expiryTime, hexpiry, hfields⟩ := credentialsOf_ok hcredentials
  refine ⟨fun r' now h => ?_, fun h => ⟨?_, ?_⟩⟩
  · have hsource : (v.record server scheme s result w).source = some (r, (v.sent s).now) := by
      simp only [Visit.record, hexchanged]
    rw [hsource] at h
    cases h
    refine ⟨idToken, expiryTime, (Option.filter_eq_some_iff.mp hid).1, hexpiry,
      holds_applyStates hstore s.browser, fun cookie' hc => ?_⟩
    rcases after_session hc with ⟨hw, -⟩ | ⟨written, hw, rfl⟩
    · rw [hw] at hsome
      cases hsome
    · rcases heffect.session with h' | ⟨h', -⟩ | ⟨expiryTime', tenant, h', -⟩
      · rw [h'] at hw; cases hw
      · rw [h'] at hw; cases hw
      · rw [h'] at hw
        cases hw
        refine ⟨credentials.stored, rfl, ?_, ?_⟩ <;> rw [hfields] <;> rfl
  · simp only [Visit.record, hexchanged, Option.isSome_some]
  · have hauthenticated : isAuthenticated result = true := by
      simpa [Visit.record, hexchanged] using h
    show (s.browser.after w).session.isSome = true
    unfold Browser.after
    rcases heffect.session with hw | ⟨-, hno⟩ | ⟨expiryTime', tenant, hw, -⟩
    · rw [hw] at hsome
      cases hsome
    · rw [hno] at hauthenticated
      cases hauthenticated
    · rw [hw]
      rfl

/-! ## A run -/

/-- Under the condition every step keeps the two kinds of cookies together. -/
theorem persisted_step (hn : 0 < server.config.openid.extra_storage.additional_cookies)
    (event : Event) (s : History) (hwrites : WritesRefresh server scheme event s)
    (hs : s.Persisted server) : (sessionStep server scheme event s).2.Persisted server := by
  cases event with
  | replaced browser => exact persisted_of_none rfl rfl
  | visit v =>
    cases houtcome : v.outcome server scheme s with
    | mk result w =>
      have hstep : (sessionStep server scheme (.visit v) s).2 =
          v.record server scheme s result w := by
        simp only [sessionStep, houtcome]
      rw [hstep]
      cases AuthenticationType.authHandler_effect (scheme_framed scheme) houtcome with
      | nothing hstates hsession =>
        exact persisted_of_unchanged hs hstates fun cookie h => by rw [hsession] at h; cases h
      | failedLogin hincl hstates hcalls hsession =>
        refine persisted_of_login (exchanged_of_calls hcalls) ?_
        rw [hincl, writes_of_states hstates, Bool.and_true]
      | login authInfo cookie tenant hmint hsession =>
        have hcalls : w.queue.tokenCalls = [] := by
          have hframed : (((scheme.authentication server v.environment).getCookie (v.sent s)
              authInfo).exec {}).2.tokenCalls = [] := (scheme_framed scheme).getCookie _ _
          rw [hmint.2] at hframed
          exact hframed
        have hsome : w.session.isSome = true := by
          rcases hsession with hw | hw <;> rw [hw] <;> rfl
        refine persisted_of_login (exchanged_of_calls hcalls) ?_
        rw [hmint.1, writes_of_session hsome, Bool.and_true]
      | cleared hincl hstates hsession =>
        exact persisted_of_unchanged hs hstates fun cookie h => by rw [hsession] at h; cases h
      | accepted cookie cookie' hrequired hincl hread hvalid heffect =>
        rcases scheme_accepts_cases hvalid with ⟨rfl, hqueue⟩ |
          ⟨r, idToken, credentials, htype, hrenews, hcredentials, rfl, hcalls, hstore⟩
        · refine persisted_of_unchanged hs (by rw [hqueue]) fun cookie' h => ?_
          rcases heffect.session with hw | ⟨hw, -⟩ | ⟨expiryTime, tenant, hw, -⟩
          · rw [hw] at h; cases h
          · rw [hw] at h; cases h
          · rw [hw] at h
            cases h
            exact ⟨_, session_of_request hread, rfl⟩
        · have hextra : credentials.authHeaderValueExtra = true := by
            obtain ⟨expiryTime, -, hfields⟩ := credentialsOf_ok hcredentials
            rw [hfields]
          have hsome : w.session.isSome = true :=
            session_isSome_of_renewed hn htype hread hextra hstore heffect
              (hwrites cookie r idToken ⟨hrequired, hincl, hread⟩ htype hrenews)
          exact persisted_of_renewed hrenews.idToken hcredentials
            (exchanged_of_stored hn hcalls hstore) hsome hstore heffect

end Refresh

/-- As long as every refresh is followed by a write of the session cookie, the session cookie and
the split cookies of a browser come from the same token response, after every run of requests. -/
theorem session_persisted (server : Server) (scheme : Scheme) (browser : Browser) (clock : ℕ)
    (events : List Event) (hn : 0 < server.config.openid.extra_storage.additional_cookies)
    (hwrites : Machine.Meets (sessionStep server scheme) (WritesRefresh server scheme) events
      { browser, clock }) :
    (Machine.exec (sessionStep server scheme) events { browser, clock }).Persisted server :=
  Machine.exec_of_meets (History.Persisted server) (persisted_step hn) hwrites
    (persisted_of_none rfl rfl)

namespace Sample

def staleCookie : SecuritySessionCookie where
  username := some "alice"
  credentials := some
    { authHeaderValueExtra := true, refresh_token := some "first", expiryTime := some 2000 }
  authType := some "openid"
  expiryTime := some 901000

/-- alice logged in, and her token expires at second 2. -/
def openIdBrowser : Browser :=
  { (Browser.applyStates {} (splitValueIntoCookies [] "security_authentication_oidc" tokenText 5)) with
    session := some staleCookie }

def laterResponse : TokenResponse where
  idToken := some laterToken
  refreshToken := some "second"

/-- The token endpoint rotates the refresh token. -/
def refreshBackend : Environment :=
  { aliceBackend with
    tokenEndpoint := fun _ => .ok { statusCode := some 200, payload := .ok laterResponse } }

/-- A request at second 3. -/
def refreshVisit : Visit where
  request := { url := { pathname := "/api/status" } }
  elapsed := 3000
  environment := refreshBackend

theorem refresh_persisted :
    (Machine.exec (sessionStep (server {}) (.single .openId)) [.visit refreshVisit]
      { browser := openIdBrowser, clock := 0 }).Persisted (server {}) :=
  session_persisted (server {}) (.single .openId) openIdBrowser 0 [.visit refreshVisit] (by decide)
    ⟨fun _ _ _ _ _ _ => Or.inl rfl, trivial⟩

def noKeepalive : Server := server { session := { keepalive := false } }

/-- The browser after the request at second 3, if sessions are not kept alive. -/
def afterRefresh : History :=
  Machine.exec (sessionStep noKeepalive (.single .openId)) [.visit refreshVisit]
    { browser := openIdBrowser, clock := 0 }

theorem afterRefresh_not_persisted :
    afterRefresh.renewed = true ∧ ¬ afterRefresh.Persisted noKeepalive := by
  have hsource : afterRefresh.source = some (laterResponse, 3000) := by decide
  have hsession : afterRefresh.browser.session = some staleCookie := by decide
  refine ⟨by decide, fun h => ?_⟩
  obtain ⟨idToken, expiryTime, -, -, -, hcookie⟩ := h.agree _ _ hsource
  obtain ⟨credentials, hcredentials, hrefresh, -⟩ := hcookie _ hsession
  cases hcredentials
  exact absurd hrefresh (by decide)

end Sample

end SecurityDashboards
