import Mathlib.Algebra.Order.Ring.Rat
import SecurityDashboards.Proofs.SessionsProofs

/-!
# Proofs: sessions of a JWT

When a session ends with the token that started it.
-/

namespace SecurityDashboards

/-- The expiry that the helper reads off a token. -/
theorem getExpirationDate_of_expires {runtime : Runtime} {token : String} {exp : ℚ}
    (h : JwtExpires runtime token exp) (defaultExpiry : ℚ) :
    getExpirationDate runtime (.str ("Bearer " ++ token)) defaultExpiry =
      .ok (some (min (exp * 1000) defaultExpiry)) := by
  obtain ⟨header, payload, signature, hparts, hexp⟩ := h.payload
  have hwords : Js.split ("Bearer " ++ token) ' ' = ["Bearer", token] := by
    have hcut : "Bearer " ++ token = "Bearer" ++ (String.singleton ' ' ++ token) := by
      rw [← String.append_assoc]
      rfl
    rw [hcut, Js.split_append (by decide), Js.split_of_not_mem h.noSpace]
  have htruthy : (ExpClaim.num exp).truthy = true := by
    simpa [ExpClaim.truthy] using h.positive.ne'
  simp only [getExpirationDate, Js.startsWith_append, if_true, hwords, List.getD_cons_succ,
    List.getD_cons_zero, hparts, hexp, htruthy]
  rfl

theorem jwt_additionalCookies_pos (server : Server) :
    0 < (JwtAuthentication.getExtraAuthStorageOptions server).additionalCookies := by
  unfold JwtAuthentication.getExtraAuthStorageOptions
  split
  · dsimp only
    split
    · decide
    · omega
  · decide

/-- What `getKeepAliveExpiry` computes for a session of this token. -/
theorem keepAliveExpiry_le {server : Server} {cookie : SecuritySessionCookie} {request : Request}
    {token : String} {exp : ℚ} {expiryTime : Option ℚ}
    (hholds : request.cookies.Holds server.runtime
      (JwtAuthentication.getExtraAuthStorageOptions server) ("Bearer " ++ token))
    (hcredentials : cookie.credentials = some { authHeaderValueExtra := true })
    (hexpires : JwtExpires server.runtime token exp)
    (hfinds : JwtAuthentication.authHeaderName server = "authorization" ∨
      JwtAuthentication.authHeaderName server ∈ Js.objectPrototype ∨
      (request.now : ℚ) + server.config.session.ttl ≤ exp * 1000)
    (h : JwtAuthentication.getKeepAliveExpiry server cookie request {} = .ok expiryTime) :
    ∃ e, expiryTime = some e ∧ e ≤ exp * 1000 ∧
      e ≤ request.now + server.config.session.ttl := by
  have hvalue : ExtraStorage.value server (JwtAuthentication.getExtraAuthStorageOptions server)
      request cookie {} = "Bearer " ++ token := by
    simp only [ExtraStorage.value, hcredentials, Option.any_some, if_true,
      getExtra_of_holds (jwt_additionalCookies_pos server) hholds]
  have hheader : JwtAuthentication.buildAuthHeaderFromCookie server cookie request {} =
      .ok (Js.Assigned.empty.set "authorization" (.str ("Bearer " ++ token))) := by
    simp only [JwtAuthentication.buildAuthHeaderFromCookie, hcredentials, if_true, hvalue]
  unfold JwtAuthentication.getKeepAliveExpiry at h
  rw [hheader] at h
  change getExpirationDate server.runtime _ _ = _ at h
  by_cases hname : JwtAuthentication.authHeaderName server = "authorization"
  · have hget : HeaderObject.get (Js.Assigned.empty.set "authorization"
        (.str ("Bearer " ++ token))) (JwtAuthentication.authHeaderName server) =
          .str ("Bearer " ++ token) := by
      rw [hname]
      rfl
    rw [hget, getExpirationDate_of_expires hexpires] at h
    cases h
    exact ⟨_, rfl, min_le_left _ _, min_le_right _ _⟩
  · have hown : (Js.Assigned.empty.set "authorization"
        (HeaderValue.str ("Bearer " ++ token))).own (JwtAuthentication.authHeaderName server) =
          none := Js.Assigned.own_set_ne hname
    unfold HeaderObject.get at h
    rw [hown] at h
    by_cases hinherited : JwtAuthentication.authHeaderName server ∈ Js.objectPrototype
    · simp only [hinherited, if_true, getExpirationDate] at h
      cases h
    · simp only [hinherited, if_false, getExpirationDate] at h
      cases h
      rcases hfinds with hfinds | hfinds | hfinds
      · exact absurd hfinds hname
      · exact absurd hfinds hinherited
      · exact ⟨_, rfl, hfinds, le_refl _⟩

/-! ## A session of a token -/

/-- The cookies of the browser are those of a session that was started with this token and ends in
time. -/
structure History.Bound (server : Server) (scheme : Scheme) (s : History) (token : String)
    (exp : ℚ) : Prop where
  holds : s.browser.Holds server.runtime (JwtAuthentication.getExtraAuthStorageOptions server)
    ("Bearer " ++ token)
  session : ∀ cookie, s.browser.session = some cookie →
    scheme.validatedBy server cookie = some .jwt ∧
      cookie.credentials = some { authHeaderValueExtra := true } ∧
      ∃ e, cookie.expiryTime = some e ∧ e ≤ exp * 1000 ∧
        e ≤ s.written + server.config.session.ttl

section Session

variable {server : Server} {scheme : Scheme} {v : Visit} {s : History}
  {result : Except JsError AuthResult} {w : World} {token : String} {exp : ℚ}

/-- A request that is no login keeps the token and at most clears the session cookie or writes it
again with another expiry time or tenant. -/
theorem bound_of_kept (hs : s.Bound server scheme token exp) (hstates : w.queue.states = [])
    (hsession : ∀ cookie, w.session = some (some cookie) → ∃ cookie₀ expiryTime tenant,
      s.browser.session = some cookie₀ ∧ cookie = { cookie₀ with expiryTime, tenant } ∧
      ∃ e, expiryTime = some e ∧ e ≤ exp * 1000 ∧
        e ≤ (v.sent s).now + server.config.session.ttl) :
    (v.record server scheme s result w).Bound server scheme token exp := by
  refine ⟨fun i hi => ?_, fun cookie hc => ?_⟩
  · have hsplit : (v.record server scheme s result w).browser.split = s.browser.split :=
      after_split hstates
    rw [hsplit]
    exact hs.holds i hi
  · rcases after_session hc with ⟨hw, hbefore⟩ | ⟨written, hw, rfl⟩
    · have hwritten : (v.record server scheme s result w).written = s.written := by
        simp [Visit.record, hw]
      rw [hwritten]
      exact hs.session cookie hbefore
    · have hwritten : (v.record server scheme s result w).written = (v.sent s).now := by
        simp [Visit.record, hw]
      obtain ⟨cookie₀, expiryTime, tenant, hc₀, rfl, hexpiry⟩ := hsession written hw
      obtain ⟨htype, hcredentials, -⟩ := hs.session cookie₀ hc₀
      refine ⟨htype, ?_, ?_⟩
      · simp only [SecuritySessionCookie.stored, hcredentials]
        rfl
      · rw [hwritten]
        exact hexpiry

theorem validatedBy_jwt {request : Request} {environment : Environment}
    {cookie : SecuritySessionCookie}
    (hby : scheme.mintedBy server environment request = some .jwt)
    (htype : cookie.authType = some JWT) : scheme.validatedBy server cookie = some .jwt := by
  cases scheme with
  | single authType =>
    cases hby
    rfl
  | multiple authHandlers =>
    have hmem : AuthType.jwt ∈ authHandlers := List.mem_of_find?_eq_some hby
    have hkey : JWT = AuthType.jwt.key := rfl
    simp only [Scheme.validatedBy, htype, hkey, Option.map_some, toLowerCase_key,
      Option.bind_some, find_key hmem]

theorem mints_jwt {request : Request} {environment : Environment} {authInfo : AuthInfo}
    {cookie : SecuritySessionCookie} {queue : Queue}
    (hby : scheme.mintedBy server environment request = some .jwt)
    (hmint : (scheme.authentication server environment).Mints request authInfo cookie queue) :
    (JwtAuthentication server).Mints request authInfo cookie queue := by
  cases scheme with
  | single authType =>
    cases hby
    exact hmint
  | multiple authHandlers => exact (mints_of_claimant hby hmint).2

/-- A login with a token starts a session that ends in time. -/
theorem bound_of_login {authInfo : AuthInfo} {cookie : SecuritySessionCookie}
    {tenant : Option String} (hby : scheme.mintedBy server v.environment (v.sent s) = some .jwt)
    (hbearer : JwtAuthentication.getBearerToken server (v.sent s) = .str ("Bearer " ++ token))
    (hexpires : JwtExpires server.runtime token exp)
    (hmint : (scheme.authentication server v.environment).Mints (v.sent s) authInfo cookie w.queue)
    (hsession : w.session = some none ∨ w.session = some (some { cookie with tenant })) :
    (v.record server scheme s result w).Bound server scheme token exp := by
  obtain ⟨⟨content, hcontent, hstore⟩, expiryTime, hexpiry, hcookie⟩ :=
    jwt_getCookie_ok (mints_jwt hby hmint).2
  have htruthy : (HeaderValue.str ("Bearer " ++ token)).truthy = true := by
    simp [HeaderValue.truthy]
  rw [hbearer, HeaderValue.or_truthy htruthy] at hcontent
  cases hcontent
  rw [hbearer, getExpirationDate_of_expires hexpires] at hexpiry
  cases hexpiry
  refine ⟨holds_applyStates hstore s.browser, fun cookie' hc => ?_⟩
  have hwritten : (v.record server scheme s result w).written = (v.sent s).now := by
    rcases hsession with hw | hw <;> simp [Visit.record, hw]
  rw [hwritten]
  rcases after_session hc with ⟨hw, -⟩ | ⟨written, hw, rfl⟩
  · rcases hsession with h | h <;> rw [h] at hw <;> cases hw
  · rcases hsession with h | h
    · rw [h] at hw; cases hw
    · rw [h] at hw
      cases hw
      refine ⟨validatedBy_jwt hby ?_, ?_, ?_⟩
      · rw [hcookie]; rfl
      · rw [hcookie]; rfl
      · rw [hcookie]
        exact ⟨_, rfl, min_le_left _ _, min_le_right _ _⟩

/-- A request that is authenticated by the session cookie keeps the session in time. -/
theorem bound_of_accepted {cookie cookie' : SecuritySessionCookie}
    (hs : s.Bound server scheme token exp) (hclock : s.written ≤ s.clock)
    (hexpires : JwtExpires server.runtime token exp)
    (hread : (v.sent s).session = .ok (some cookie))
    (hvalid : ((scheme.authentication server v.environment).isValidCookie cookie
      (v.sent s)).exec {} = (.ok (true, cookie'), w.queue))
    (heffect : AuthenticationType.CookieEffect (scheme.authentication server v.environment) server
      v.environment (v.sent s) cookie' result w)
    (hfinds : JwtAuthentication.isValidCookie server cookie (v.sent s) {} = true →
      server.config.session.keepalive = true →
      JwtAuthentication.authHeaderName server = "authorization" ∨
        JwtAuthentication.authHeaderName server ∈ Js.objectPrototype ∨
        ((v.sent s).now : ℚ) + server.config.session.ttl ≤ exp * 1000) :
    (v.record server scheme s result w).Bound server scheme token exp := by
  have hc₀ : s.browser.session = some cookie := session_of_request hread
  obtain ⟨htype, hcredentials, e, hexpiry, hexp, httl⟩ := hs.session cookie hc₀
  have hjwt : ((JwtAuthentication server).isValidCookie cookie (v.sent s)).exec {} =
      (.ok (true, cookie'), w.queue) := by
    rw [(scheme_methods htype).1] at hvalid
    exact hvalid
  have hdecision : JwtAuthentication.isValidCookie server cookie (v.sent s) {} = true :=
    congrArg Prod.fst (Except.ok.inj (congrArg Prod.fst hjwt))
  obtain ⟨rfl, hqueue⟩ := accepts_pure hjwt
  refine bound_of_kept hs (by rw [hqueue]) fun written hw => ?_
  rcases heffect.session with hnone | ⟨hnone, -⟩ | ⟨expiryTime, tenant, hset, hkept⟩
  · rw [hnone] at hw; cases hw
  · rw [hnone] at hw; cases hw
  · rw [hset] at hw
    cases hw
    refine ⟨cookie', expiryTime, tenant, hc₀, rfl, ?_⟩
    rcases hkept with rfl | ⟨hkeepalive, hrenewed⟩
    · -- Written for its tenant only: the clock has not gone back since the last write.
      refine ⟨e, hexpiry, hexp, httl.trans ?_⟩
      have hle : s.written ≤ (v.sent s).now := hclock.trans (Nat.le_add_right _ _)
      have hle' : (s.written : ℚ) ≤ (v.sent s).now := by exact_mod_cast hle
      exact add_le_add_left hle' _
    · rw [(scheme_methods htype).2.1, hqueue] at hrenewed
      have hcomputed : JwtAuthentication.getKeepAliveExpiry server cookie' (v.sent s) {} =
          .ok expiryTime := congrArg Prod.fst hrenewed
      exact keepAliveExpiry_le hs.holds hcredentials hexpires (hfinds hdecision hkeepalive)
        hcomputed

/-! ## A run -/

/-- What holds after every run: every token that started the session binds it. -/
structure History.TokenBound (server : Server) (scheme : Scheme) (s : History) : Prop where
  clock : s.written ≤ s.clock
  bound : ∀ token exp, s.bearer = .str ("Bearer " ++ token) →
    JwtExpires server.runtime token exp → s.Bound server scheme token exp

theorem tokenBound_step (event : Event) (s : History) (hfinds : FindsToken server scheme event s)
    (hs : s.TokenBound server scheme) :
    (sessionStep server scheme event s).2.TokenBound server scheme := by
  cases event with
  | replaced browser =>
    refine ⟨Nat.zero_le _, fun token exp hb => ?_⟩
    cases hb
  | visit v =>
    cases houtcome : v.outcome server scheme s with
    | mk result w =>
      have hstep : (sessionStep server scheme (.visit v) s).2 =
          v.record server scheme s result w := by
        simp only [sessionStep, houtcome]
      rw [hstep]
      have hclock : (v.record server scheme s result w).written ≤ (v.sent s).now := by
        have hle : s.written ≤ (v.sent s).now := hs.clock.trans (Nat.le_add_right _ _)
        simp only [Visit.record]
        split
        · exact le_refl _
        · exact hle
      refine ⟨hclock, fun token exp hb hexpires => ?_⟩
      -- Without a login the token is the one from before.
      have hkeeps : ((scheme.authentication server v.environment).requestIncludesAuthInfo
          (v.sent s) && w.writes) = false → s.Bound server scheme token exp := by
        intro hlogin
        have hbearer : (v.record server scheme s result w).bearer = s.bearer := by
          simp only [Visit.record, hlogin]
          rfl
        exact hs.bound token exp (hbearer ▸ hb) hexpires
      cases AuthenticationType.authHandler_effect (scheme_framed scheme) houtcome with
      | nothing hstates hsession =>
        have hwrites : w.writes = false := by simp [World.writes, hstates, hsession]
        exact bound_of_kept (hkeeps (by rw [hwrites, Bool.and_false])) hstates fun cookie h => by
          rw [hsession] at h; cases h
      | failedLogin hincl hstates hcalls hsession =>
        simp [Visit.record, hincl, writes_of_states hstates, hsession] at hb
      | login authInfo cookie tenant hmint hsession =>
        have hsome : w.session.isSome = true := by
          rcases hsession with hw | hw <;> rw [hw] <;> rfl
        have hwrites : w.writes = true := writes_of_session hsome
        by_cases hby : scheme.mintedBy server v.environment (v.sent s) = some .jwt
        · have hbearer : JwtAuthentication.getBearerToken server (v.sent s) =
              .str ("Bearer " ++ token) := by
            simpa [Visit.record, hmint.1, hwrites, hsome, hby] using hb
          exact bound_of_login hby hbearer hexpires hmint hsession
        · simp [Visit.record, hmint.1, hwrites, hby] at hb
      | cleared hincl hstates hsession =>
        exact bound_of_kept (hkeeps (by rw [hincl, Bool.false_and])) hstates fun cookie h => by
          rw [hsession] at h; cases h
      | accepted cookie cookie' hrequired hincl hread hvalid heffect =>
        have hbearer : (v.record server scheme s result w).bearer = s.bearer := by
          simp only [Visit.record, hincl, Bool.false_and]
          rfl
        exact bound_of_accepted (hkeeps (by rw [hincl, Bool.false_and])) hs.clock hexpires hread
          hvalid heffect (hfinds cookie token exp (hbearer ▸ hb) hexpires ⟨hrequired, hincl, hread⟩)

end Session

/-- As long as every keepalive finds the token, a session that was started with a JWT ends with its
token and `session.ttl` after the last write of its cookie, after every run of requests. -/
theorem session_withinToken (server : Server) (scheme : Scheme) (browser : Browser) (clock : ℕ)
    (events : List Event)
    (hfinds : Machine.Meets (sessionStep server scheme) (FindsToken server scheme) events
      { browser, clock }) :
    (Machine.exec (sessionStep server scheme) events { browser, clock }).WithinToken server := by
  have hbound : (Machine.exec (sessionStep server scheme) events
      { browser, clock }).TokenBound server scheme :=
    Machine.exec_of_meets (History.TokenBound server scheme) tokenBound_step hfinds
      ⟨Nat.zero_le _, fun token exp hb => by cases hb⟩
  intro token exp hb hexpires cookie hc
  exact ((hbound.bound token exp hb hexpires).session cookie hc).2.2

namespace Sample

/-- A login at second 1, and a request half a second later. -/
def tokenVisits (header : String) : List Event :=
  [.visit { request := tokenRequest header, elapsed := 1000, environment := aliceBackend },
    .visit
      { request := { url := { pathname := "/api/status" } }
        elapsed := 500
        environment := aliceBackend }]

theorem bearer_withinToken :
    (Machine.exec (sessionStep bearerServer (.single .jwt)) (tokenVisits "authorization")
      { browser := {}, clock := 0 }).WithinToken bearerServer := by
  have hname : JwtAuthentication.authHeaderName bearerServer = "authorization" := by decide
  exact session_withinToken bearerServer (.single .jwt) {} 0 (tokenVisits "authorization")
    ⟨fun _ _ _ _ _ _ _ _ => Or.inl hname, fun _ _ _ _ _ _ _ _ => Or.inl hname, trivial⟩

def customHistory : History :=
  Machine.exec (sessionStep customServer (.single .jwt)) (tokenVisits "x-auth-token")
    { browser := {}, clock := 0 }

theorem custom_outlives_token :
    customHistory.bearer = .str ("Bearer " ++ token) ∧ JwtExpires runtime token 2 ∧
      ¬ customHistory.WithinToken customServer := by
  have hbearer : customHistory.bearer = .str ("Bearer " ++ token) := by decide
  have hexpires : JwtExpires runtime token 2 :=
    { noSpace := by decide
      payload := ⟨"eyJhbGciOiJIUzI1NiJ9", "eyJleHAiOjJ9", "c2ln", by decide, by decide⟩
      positive := by decide }
  have hsession : customHistory.browser.session.map (·.expiryTime) = some (some 901500) := by
    decide +kernel
  refine ⟨hbearer, hexpires, fun h => ?_⟩
  obtain ⟨cookie, hcookie, hexpiry⟩ := Option.map_eq_some_iff.mp hsession
  obtain ⟨e, he, hle, -⟩ := h token 2 hbearer hexpires cookie hcookie
  rw [hexpiry] at he
  cases he
  exact absurd hle (by decide +kernel)

end Sample

end SecurityDashboards
