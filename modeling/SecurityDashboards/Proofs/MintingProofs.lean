import Mathlib.Data.Nat.Cast.Order.Ring
import SecurityDashboards.Minting
import SecurityDashboards.Proofs.CookieSplitterProofs
import SecurityDashboards.Proofs.PlainObjectProofs
import SecurityDashboards.SampleServer

/-!
# Proofs: sessions minted from a request

For each authentication type, what `getCookie` mints and what the other methods make of it on a
later request of the same browser.
-/

namespace SecurityDashboards

/-! ## Values of headers -/

theorem HeaderValue.or_truthy {v : HeaderValue} (h : v.truthy = true) (w : HeaderValue) :
    v.or w = v := by
  simp [HeaderValue.or, h]

theorem Request.header_of_truthy {request : Request} {name : String}
    (h : (request.header name).truthy = true) (hname : name ∉ Js.objectPrototype) :
    ∃ s, request.header name = .str s ∧ s ≠ "" ∧ request.headers.own name = some s := by
  unfold Request.header at h ⊢
  cases hown : request.headers.own name with
  | some s =>
    rw [hown] at h
    exact ⟨s, rfl, by simpa [HeaderValue.truthy] using h, rfl⟩
  | none =>
    rw [hown] at h
    simp [hname, HeaderValue.truthy] at h

theorem authorization_not_inherited : "authorization" ∉ Js.objectPrototype := by decide

/-! ## Split cookies of a login -/

section Storage

variable {server : Server} {options : ExtraAuthStorageOptions} {content : String}

theorem exec_store (s : String) (queue : Queue) :
    (ExtraStorage.store server options (.str s)).exec queue =
      (.ok (), { queue with
        states := splitValueIntoCookies queue.states options.cookiePrefix
          (Buffer.toBase64 (server.runtime.deflateSync s)) options.additionalCookies }) :=
  rfl

/-- Only strings can be stored. -/
theorem store_ok {v : HeaderValue} {queue queue' : Queue}
    (h : (ExtraStorage.store server options v).exec queue = (.ok (), queue')) :
    ∃ s, v = .str s ∧ setExtraAuthStorage server.runtime queue.states (.str s) options =
      .ok queue'.states := by
  cases v with
  | str s =>
    rw [exec_store] at h
    cases h
    exact ⟨s, rfl, rfl⟩
  | undefined => cases h
  | inherited => cases h

/-- The encoding of a deflated value is not empty, so a value that fits needs a cookie. -/
theorem additionalCookies_pos (h : (Buffer.toBase64
    (server.runtime.deflateSync content)).length ≤ options.additionalCookies * maxLengthPerCookie) :
    0 < options.additionalCookies := by
  rcases Nat.eq_zero_or_pos options.additionalCookies with hn | hn
  · exfalso
    rw [hn, Nat.zero_mul, Nat.le_zero, List.length_eq_zero_iff] at h
    exact encoded_ne_nil server.runtime content h
  · exact hn

/-- What a login stores is the value that later requests find. -/
theorem value_of_follows {request later : Request} {cookie : SecuritySessionCookie} {queue : Queue}
    {tenant : Option String} (hn : 0 < options.additionalCookies)
    (hstore : setExtraAuthStorage server.runtime [] (.str content) options = .ok queue.states)
    (hfollows : Follows request later cookie queue tenant) {written : SecuritySessionCookie}
    (hextra : written.credentials.any (·.authHeaderValueExtra) = true) :
    ExtraStorage.value server options later written {} = content := by
  have hholds : later.cookies.Holds server.runtime options content := by
    rw [hfollows]
    exact holds_applyStates hstore request.cookies
  simp only [ExtraStorage.value, hextra, if_true, getExtra_of_holds hn hholds]

end Storage

/-! ## What the types mint -/

section Mint

variable {server : Server} {environment : Environment} {request : Request} {authInfo : AuthInfo}
  {cookie : SecuritySessionCookie} {queue : Queue}

theorem jwt_getCookie_ok
    (h : (JwtAuthentication.getCookie server request authInfo).exec {} = (.ok cookie, queue)) :
    (∃ s, (JwtAuthentication.getBearerToken server request).or (.str "") = .str s ∧
      setExtraAuthStorage server.runtime [] (.str s)
        (JwtAuthentication.getExtraAuthStorageOptions server) = .ok queue.states) ∧
      ∃ expiryTime,
        getExpirationDate server.runtime (JwtAuthentication.getBearerToken server request)
          (request.now + server.config.session.ttl) = .ok expiryTime ∧
        cookie =
          { username := authInfo.user_name
            credentials := some { authHeaderValueExtra := true }
            authType := some JWT
            expiryTime } := by
  obtain ⟨u, q, hstore, hrest⟩ := Proc.exec_bind_ok h
  obtain ⟨expiryTime, q', hexpiry, hcookie⟩ := Proc.exec_bind_ok hrest
  rw [Proc.exec_ofExcept, Prod.mk.injEq] at hexpiry
  obtain ⟨hexpiry, rfl⟩ := hexpiry
  cases hcookie
  exact ⟨store_ok hstore, expiryTime, hexpiry, rfl⟩

theorem jwt_bearer_truthy (h : JwtAuthentication.requestIncludesAuthInfo server request = true) :
    (JwtAuthentication.getBearerToken server request).truthy = true := by
  unfold JwtAuthentication.requestIncludesAuthInfo at h
  unfold JwtAuthentication.getBearerToken
  cases htoken : JwtAuthentication.getTokenFromUrlParam server request with
  | some token => simp [HeaderValue.truthy]
  | none =>
    have hheader : (request.header (JwtAuthentication.authHeaderName server)).truthy = true := by
      simpa [htoken] using h
    simp only [HeaderValue.or_truthy hheader, hheader]

/-- The three types with split cookies store a string and mint a cookie that refers to it. -/
theorem mint_split (authType : AuthType) {options : ExtraAuthStorageOptions} {v : HeaderValue}
    (hsplit : authType.splitValue server request = some (options, v))
    (h : (authType.handler server environment).Mints request authInfo cookie queue) :
    (∃ s, v = .str s ∧
      setExtraAuthStorage server.runtime [] (.str s) options = .ok queue.states) ∧
      ∃ expiryTime, cookie =
        { username := authInfo.user_name
          credentials := some { authHeaderValueExtra := true }
          authType := some authType.key
          expiryTime } := by
  obtain ⟨-, hmint⟩ := h
  cases authType with
  | basic => cases hsplit
  | proxy => cases hsplit
  | openId =>
    cases hsplit
    obtain ⟨u, q, hstore, hcookie⟩ := Proc.exec_bind_ok hmint
    cases hcookie
    exact ⟨store_ok hstore, _, rfl⟩
  | saml =>
    cases hsplit
    obtain ⟨u, q, hstore, hcookie⟩ := Proc.exec_bind_ok hmint
    cases hcookie
    exact ⟨store_ok hstore, _, rfl⟩
  | jwt =>
    cases hsplit
    obtain ⟨hstore, expiryTime, -, hcookie⟩ := jwt_getCookie_ok hmint
    exact ⟨hstore, expiryTime, hcookie⟩

/-- The value that goes to the split cookies is not empty. -/
theorem split_content_ne {authType : AuthType} {options : ExtraAuthStorageOptions} {s : String}
    (hsplit : authType.splitValue server request = some (options, .str s))
    (h : (authType.handler server environment).requestIncludesAuthInfo request = true) :
    s ≠ "" := by
  cases authType with
  | basic => cases hsplit
  | proxy => cases hsplit
  | openId =>
    obtain ⟨s', hs', hne, -⟩ := Request.header_of_truthy h authorization_not_inherited
    simp only [AuthType.splitValue, hs', Option.some.injEq, Prod.mk.injEq,
      HeaderValue.str.injEq] at hsplit
    exact hsplit.2 ▸ hne
  | saml =>
    obtain ⟨s', hs', hne, -⟩ := Request.header_of_truthy h authorization_not_inherited
    simp only [AuthType.splitValue, hs', Option.some.injEq, Prod.mk.injEq,
      HeaderValue.str.injEq] at hsplit
    exact hsplit.2 ▸ hne
  | jwt =>
    have htruthy := jwt_bearer_truthy h
    simp only [AuthType.splitValue, HeaderValue.or_truthy htruthy, Option.some.injEq,
      Prod.mk.injEq] at hsplit
    rw [hsplit.2] at htruthy
    simpa [HeaderValue.truthy] using htruthy

end Mint

/-! ## Acceptance -/

theorem truthyNumber_of_lt {now : ℕ} {expiryTime : ℚ} (h : (now : ℚ) < expiryTime) :
    truthyNumber (some expiryTime) = true := by
  have hnow : (0 : ℚ) ≤ now := Nat.cast_nonneg now
  have hne : expiryTime ≠ 0 := (lt_of_le_of_lt hnow h).ne'
  simpa [truthyNumber] using hne

/-- A type that answers `valid` without changing anything. -/
theorem accepts_of_valid {self : AuthenticationType} {cookie : SecuritySessionCookie}
    {request : Request} {valid : Bool} (h : valid = true)
    (hexec : (self.isValidCookie cookie request).exec {} = (.ok (valid, cookie), {})) :
    self.Accepts cookie request :=
  ⟨cookie, by rw [hexec, h]⟩

section Accept

variable {server : Server} {environment : Environment} {request later : Request}
  {authInfo : AuthInfo} {cookie : SecuritySessionCookie} {queue : Queue} {tenant : Option String}

theorem basic_accepts (huser : truthyString authInfo.user_name = true)
    (hincl : BasicAuthentication.requestIncludesAuthInfo request = true)
    (hbefore : ∃ e, (BasicAuthentication.getCookie server request authInfo).expiryTime = some e ∧
      (later.now : ℚ) < e) (tenant : Option String) :
    BasicAuthentication.isValidCookie server
      ((BasicAuthentication.getCookie server request authInfo).written tenant) = true := by
  obtain ⟨e, he, hlt⟩ := hbefore
  obtain ⟨s, hs, hne, -⟩ := Request.header_of_truthy hincl authorization_not_inherited
  have htime := truthyNumber_of_lt hlt
  rw [← he] at htime
  unfold BasicAuthentication.getCookie at htime ⊢
  split
  · rename_i hanonymous
    rw [if_pos hanonymous] at htime
    simp only [Bool.and_eq_true] at hanonymous
    simpa [BasicAuthentication.isValidCookie, SecuritySessionCookie.written,
      SecuritySessionCookie.stored, hanonymous.1] using htime
  · rename_i hnamed
    rw [if_neg hnamed] at htime
    have hname : (HeaderValue.str s).truthy = true := by simpa [HeaderValue.truthy] using hne
    simpa [BasicAuthentication.isValidCookie, SecuritySessionCookie.written,
      SecuritySessionCookie.stored, Credentials.stored, hs, HeaderValue.isString, hname, huser]
      using htime

/-- With split cookies: the tests of the JWT and the SAML type, and the first ones of the OpenID
type. -/
theorem split_accepts (authType : AuthType) {options : ExtraAuthStorageOptions} {v : HeaderValue}
    (hsplit : authType.splitValue server request = some (options, v))
    (hmint : (authType.handler server environment).Mints request authInfo cookie queue)
    (hfits : authType.Fits server request) (huser : truthyString authInfo.user_name = true)
    (hfollows : Follows request later cookie queue tenant)
    (hbefore : ∃ e, cookie.expiryTime = some e ∧ (later.now : ℚ) < e) :
    ((cookie.written tenant).authType == some authType.key &&
      truthyString (cookie.written tenant).username &&
      truthyNumber (cookie.written tenant).expiryTime &&
      ExtraStorage.hasAuthHeaderValue server options later (cookie.written tenant) {}) = true := by
  obtain ⟨⟨s, rfl, hstore⟩, expiryTime, hcookie⟩ := mint_split authType hsplit hmint
  obtain ⟨e, he, hlt⟩ := hbefore
  have hextra : (cookie.written tenant).credentials.any (·.authHeaderValueExtra) = true := by
    rw [hcookie]; rfl
  have htype : (cookie.written tenant).authType = some authType.key := by rw [hcookie]; rfl
  have hname : (cookie.written tenant).username = authInfo.user_name := by rw [hcookie]; rfl
  have htime : truthyNumber (cookie.written tenant).expiryTime = true := by
    have hstored : (cookie.written tenant).expiryTime = cookie.expiryTime := rfl
    rw [hstored, he]
    exact truthyNumber_of_lt hlt
  have hvalue : ExtraStorage.value server options later (cookie.written tenant) {} = s :=
    value_of_follows (additionalCookies_pos (hfits _ _ hsplit)) hstore hfollows hextra
  have hne : s ≠ "" := split_content_ne hsplit hmint.1
  simp [htype, hname, huser, htime, ExtraStorage.hasAuthHeaderValue, hvalue, hne]

/-- A header login with OpenID leaves neither the expiry of a token nor a refresh token behind. -/
theorem openId_rejects
    (hmint : (OpenIdAuthentication server environment).Mints request authInfo cookie queue) :
    ¬ (OpenIdAuthentication server environment).Accepts (cookie.written tenant) later := by
  obtain ⟨-, expiryTime, hcookie⟩ := mint_split .openId rfl hmint
  rintro ⟨cookie', h⟩
  have hfresh : OpenIdAuthentication.isFresh (cookie.written tenant) later.now = false := by
    rw [hcookie]; rfl
  have hrefresh : ((cookie.written tenant).credentials.bind (·.refresh_token)).filter (· != "") =
      none := by rw [hcookie]; rfl
  have hresult : (OpenIdAuthentication.isValidCookie server environment (cookie.written tenant)
      later).exec {} = (.ok (false, cookie.written tenant), {}) := by
    unfold OpenIdAuthentication.isValidCookie
    rw [Proc.exec_bind_of_ok (Proc.exec_get _), hfresh, hrefresh]
    split <;> rfl
  have h' : (OpenIdAuthentication.isValidCookie server environment (cookie.written tenant)
      later).exec {} = (.ok (true, cookie'), {}) := h
  rw [hresult] at h'
  cases h'

theorem proxy_rejects
    (hmint : (ProxyAuthentication server).Mints request authInfo cookie queue) :
    ¬ (ProxyAuthentication server).Accepts (cookie.written tenant) later := by
  obtain ⟨-, hcookie⟩ := hmint
  cases hcookie
  rintro ⟨cookie', h⟩
  cases h

/-- A type accepts the cookies it mints, exactly when it is none of those whose two methods differ
in the fields they use. -/
theorem handler_accepts_iff (authType : AuthType)
    (hmint : (authType.handler server environment).Mints request authInfo cookie queue)
    (hfits : authType.Fits server request) (huser : truthyString authInfo.user_name = true)
    (hfollows : Follows request later cookie queue tenant)
    (hbefore : ∃ e, cookie.expiryTime = some e ∧ (later.now : ℚ) < e) :
    (authType.handler server environment).Accepts (cookie.written tenant) later ↔
      authType ∈ [AuthType.basic, AuthType.jwt, AuthType.saml] := by
  cases authType with
  | basic =>
    obtain ⟨hincl, hcookie⟩ := hmint
    cases hcookie
    have hvalid := basic_accepts huser hincl hbefore tenant
    exact ⟨fun _ => by simp, fun _ => accepts_of_valid hvalid rfl⟩
  | openId => exact ⟨fun h => absurd h (openId_rejects hmint), fun h => by simp at h⟩
  | proxy => exact ⟨fun h => absurd h (proxy_rejects hmint), fun h => by simp at h⟩
  | saml =>
    have hvalid := split_accepts .saml rfl hmint hfits huser hfollows hbefore
    exact ⟨fun _ => by simp, fun _ => accepts_of_valid hvalid rfl⟩
  | jwt =>
    have hvalid := split_accepts .jwt rfl hmint hfits huser hfollows hbefore
    exact ⟨fun _ => by simp, fun _ => accepts_of_valid hvalid rfl⟩

end Accept

/-! ## Dispatch -/

theorem AuthType.key_inj {authType authType' : AuthType} (h : authType.key = authType'.key) :
    authType = authType' := by
  revert h
  cases authType <;> cases authType' <;> decide

theorem toLowerCase_of_all (runtime : Runtime) {s : String}
    (h : (s.toList.all fun c => decide (c.toNat < 128)) = true) :
    runtime.toLowerCase s = asciiToLowerCase s :=
  runtime.toLowerCase_ascii s fun c hc => of_decide_eq_true (List.all_eq_true.mp h c hc)

theorem toLowerCase_key (runtime : Runtime) (authType : AuthType) :
    runtime.toLowerCase authType.key = authType.key := by
  rw [toLowerCase_of_all runtime (by cases authType <;> decide)]
  cases authType <;> decide

section Dispatch

variable {server : Server} {environment : Environment} {authHandlers : List AuthType}
  {request later : Request} {authInfo : AuthInfo} {cookie : SecuritySessionCookie} {queue : Queue}
  {tenant : Option String}

theorem find_key {authType : AuthType} (hmem : authType ∈ authHandlers) :
    authHandlers.find? (fun t => t.key == authType.key) = some authType := by
  cases hfind : authHandlers.find? (fun t => t.key == authType.key) with
  | none =>
    have hno := List.find?_eq_none.mp hfind authType hmem
    simp at hno
  | some t =>
    have hkey := List.find?_some hfind
    have heq : t = authType := AuthType.key_inj (by simpa using hkey)
    rw [heq]

/-- A cookie goes to the handler whose type it names. -/
theorem handlerOf_of_key {authType : AuthType} (hmem : authType ∈ authHandlers)
    (htype : cookie.authType = some authType.key) :
    MultipleAuthentication.handlerOf server environment authHandlers (some cookie) =
      some (authType.handler server environment) := by
  simp [MultipleAuthentication.handlerOf, htype, toLowerCase_key, find_key hmem]

/-- Cookies of the proxy type name no handler. -/
theorem handlerOf_proxycache (htype : cookie.authType = some ProxyAuthentication.authType) :
    MultipleAuthentication.handlerOf server environment authHandlers (some cookie) = none := by
  have hlower : server.runtime.toLowerCase ProxyAuthentication.authType =
      ProxyAuthentication.authType := by
    rw [toLowerCase_of_all server.runtime (by decide)]
    decide
  have hfind : authHandlers.find? (fun t => t.key == ProxyAuthentication.authType) = none := by
    refine List.find?_eq_none.mpr fun t _ => ?_
    cases t <;> decide
  simp [MultipleAuthentication.handlerOf, htype, hlower, hfind]

/-- The first handler that claims the request mints the cookie. -/
theorem mints_of_claimant {authType : AuthType}
    (hby : MultipleAuthentication.claimant server environment authHandlers request = some authType)
    (hmint : (MultipleAuthentication server environment authHandlers).Mints request authInfo cookie
      queue) :
    authType ∈ authHandlers ∧
      (authType.handler server environment).Mints request authInfo cookie queue := by
  have hincl : (authType.handler server environment).requestIncludesAuthInfo request = true :=
    List.find?_some (p := fun t => (AuthType.handler server environment t).requestIncludesAuthInfo
      request) hby
  refine ⟨List.mem_of_find?_eq_some hby, hincl, ?_⟩
  have hcookie : (MultipleAuthentication.getCookie server environment authHandlers request
      authInfo).exec {} = (.ok cookie, queue) := hmint.2
  rw [MultipleAuthentication.getCookie, hby] at hcookie
  exact hcookie

/-- The cookies of all types but the proxy type name the type that minted them. -/
theorem authType_of_mints {authType : AuthType} (hne : authType ≠ .proxy)
    (hmint : (authType.handler server environment).Mints request authInfo cookie queue) :
    cookie.authType = some authType.key := by
  cases authType with
  | proxy => exact absurd rfl hne
  | basic =>
    have hcookie : cookie = BasicAuthentication.getCookie server request authInfo := by
      cases hmint.2; rfl
    rw [hcookie, BasicAuthentication.getCookie]
    split <;> rfl
  | openId =>
    obtain ⟨-, expiryTime, hcookie⟩ := mint_split .openId rfl hmint
    rw [hcookie]
  | saml =>
    obtain ⟨-, expiryTime, hcookie⟩ := mint_split .saml rfl hmint
    rw [hcookie]
  | jwt =>
    obtain ⟨-, expiryTime, hcookie⟩ := mint_split .jwt rfl hmint
    rw [hcookie]

theorem multiple_accepts_iff {authType : AuthType}
    (hmem : authType ∈ authHandlers)
    (hmint : (authType.handler server environment).Mints request authInfo cookie queue) :
    (MultipleAuthentication server environment authHandlers).Accepts (cookie.written tenant) later ↔
      (authType.handler server environment).Accepts (cookie.written tenant) later := by
  by_cases hproxy : authType = .proxy
  · subst hproxy
    have hcookie : cookie = ProxyAuthentication.getCookie server request authInfo := by
      cases hmint.2; rfl
    have hnone : MultipleAuthentication.handlerOf server environment authHandlers
        (some (cookie.written tenant)) = none :=
      handlerOf_proxycache (by rw [hcookie]; rfl)
    refine ⟨fun ⟨cookie', h⟩ => ?_, fun h => absurd h (proxy_rejects hmint)⟩
    have h' : (MultipleAuthentication.isValidCookie server environment authHandlers
        (cookie.written tenant) later).exec {} = (.ok (true, cookie'), {}) := h
    rw [MultipleAuthentication.isValidCookie, hnone] at h'
    cases h'
  · have htype : cookie.authType = some authType.key := authType_of_mints hproxy hmint
    have hhandler : MultipleAuthentication.handlerOf server environment authHandlers
        (some (cookie.written tenant)) = some (authType.handler server environment) :=
      handlerOf_of_key hmem htype
    have hvalid : (MultipleAuthentication server environment authHandlers).isValidCookie
        (cookie.written tenant) later =
          (authType.handler server environment).isValidCookie (cookie.written tenant) later := by
      change MultipleAuthentication.isValidCookie server environment authHandlers _ _ = _
      rw [MultipleAuthentication.isValidCookie, hhandler]
    rw [AuthenticationType.Accepts, AuthenticationType.Accepts, hvalid]

end Dispatch

/-- A session minted from a request is accepted until it expires, exactly when the basic, the JWT or
the SAML type minted it. -/
theorem minted_accepted_iff (server : Server) (environment : Environment) (scheme : Scheme)
    (authType : AuthType) (request later : Request) (authInfo : AuthInfo)
    (cookie : SecuritySessionCookie) (queue : Queue) (tenant : Option String)
    (hby : scheme.mintedBy server environment request = some authType)
    (hmint : (scheme.authentication server environment).Mints request authInfo cookie queue)
    (hfits : authType.Fits server request) (huser : truthyString authInfo.user_name = true)
    (hfollows : Follows request later cookie queue tenant)
    (hbefore : ∃ e, cookie.expiryTime = some e ∧ (later.now : ℚ) < e) :
    (scheme.authentication server environment).Accepts (cookie.written tenant) later ↔
      authType ∈ [AuthType.basic, AuthType.jwt, AuthType.saml] := by
  cases scheme with
  | single t =>
    cases hby
    exact handler_accepts_iff _ hmint hfits huser hfollows hbefore
  | multiple authHandlers =>
    obtain ⟨hmem, hmint'⟩ := mints_of_claimant hby hmint
    exact (multiple_accepts_iff hmem hmint').trans
      (handler_accepts_iff _ hmint' hfits huser hfollows hbefore)

namespace Sample

def jwtCookie : SecuritySessionCookie where
  username := some "alice"
  credentials := some { authHeaderValueExtra := true }
  authType := some "jwt"
  expiryTime := some 2000

def openIdCookie : SecuritySessionCookie where
  username := some "alice"
  credentials := some { authHeaderValueExtra := true }
  authType := some "openid"
  expiryTime := some 901000

/-- The queue after the login of alice. -/
def loginQueue (server : Server) (authType : AuthType) (request : Request) : Queue :=
  (((authType.handler server aliceBackend).getCookie request alice).exec {}).2

/-- The next request of the browser, half a second after the login. -/
def nextRequest (queue : Queue) (cookie : SecuritySessionCookie) : Request where
  url := { pathname := "/api/status" }
  cookies := Browser.after {} { queue, session := some (some { cookie with tenant := none }) }
  now := 1500

def jwtLogin : Queue := loginQueue bearerServer .jwt bearerRequest

def openIdLogin : Queue := loginQueue bearerServer .openId bearerRequest

theorem bearer_fits (authType : AuthType) : authType.Fits bearerServer bearerRequest := by
  intro options content h
  cases authType with
  | basic => cases h
  | proxy => cases h
  | openId => cases h; decide +kernel
  | saml => cases h; decide +kernel
  | jwt => cases h; decide +kernel

theorem jwtCookie_accepted :
    ((Scheme.single .jwt).authentication bearerServer aliceBackend).Accepts (jwtCookie.written none)
      (nextRequest jwtLogin jwtCookie) :=
  (minted_accepted_iff bearerServer aliceBackend (.single .jwt) .jwt bearerRequest
    (nextRequest jwtLogin jwtCookie) alice jwtCookie jwtLogin none rfl
    ⟨by decide, Prod.ext (by decide +kernel) rfl⟩ (bearer_fits .jwt) (by decide) rfl
    ⟨2000, rfl, by decide⟩).mpr (by decide)

theorem openIdCookie_rejected :
    ((Scheme.single .openId).authentication bearerServer aliceBackend).Mints bearerRequest alice
        openIdCookie openIdLogin ∧
      AuthType.openId.Fits bearerServer bearerRequest ∧ truthyString alice.user_name = true ∧
      Follows bearerRequest (nextRequest openIdLogin openIdCookie) openIdCookie openIdLogin
        none ∧
      (∃ e, openIdCookie.expiryTime = some e ∧
        ((nextRequest openIdLogin openIdCookie).now : ℚ) < e) ∧
      ¬ ((Scheme.single .openId).authentication bearerServer aliceBackend).Accepts
        (openIdCookie.written none) (nextRequest openIdLogin openIdCookie) := by
  have hmint : (OpenIdAuthentication bearerServer aliceBackend).Mints bearerRequest alice
      openIdCookie openIdLogin :=
    ⟨by decide, Prod.ext (by decide +kernel) rfl⟩
  exact ⟨hmint, bearer_fits .openId, by decide, rfl, ⟨901000, rfl, by decide⟩,
    openId_rejects hmint⟩

end Sample

end SecurityDashboards
