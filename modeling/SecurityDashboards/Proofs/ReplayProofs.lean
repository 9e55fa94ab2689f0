import SecurityDashboards.Proofs.MintingProofs

/-!
# Proofs: which types replay the headers of a login

The headers that `buildAuthHeaderFromCookie` gives on the next request, compared with those of the
request that started the session.
-/

namespace SecurityDashboards

theorem sent_empty (name : String) :
    HeaderObject.sent Js.Assigned.empty name = .undefined := rfl

theorem sent_set (headers : HeaderObject) (k name : String) (v : HeaderValue) :
    HeaderObject.sent (headers.set k v) name =
      if name = k ∧ k ≠ "__proto__" then v else HeaderObject.sent headers name := by
  simp only [HeaderObject.sent, Js.Assigned.own_set]
  split <;> rfl

/-! ## Split cookies -/

section Split

variable {server : Server} {environment : Environment} {request later : Request}
  {authInfo : AuthInfo} {cookie : SecuritySessionCookie} {queue : Queue} {tenant : Option String}

/-- The types with split cookies hand the stored value on under the name `authorization`. -/
theorem build_split (environment : Environment) (authType : AuthType)
    {options : ExtraAuthStorageOptions} {v : HeaderValue}
    (hsplit : authType.splitValue server request = some (options, v))
    (hmint : (authType.handler server environment).Mints request authInfo cookie queue)
    (hfits : authType.Fits server request)
    (hfollows : Follows request later cookie queue tenant) :
    ((authType.handler server environment).buildAuthHeaderFromCookie (cookie.written tenant)
      later).exec {} = (.ok (Js.Assigned.empty.set "authorization" v), {}) := by
  obtain ⟨⟨s, rfl, hstore⟩, expiryTime, hcookie⟩ := mint_split authType hsplit hmint
  have hextra : (cookie.written tenant).credentials.any (·.authHeaderValueExtra) = true := by
    rw [hcookie]; rfl
  have hvalue : ExtraStorage.value server options later (cookie.written tenant) {} = s :=
    value_of_follows (additionalCookies_pos (hfits _ _ hsplit)) hstore hfollows hextra
  subst hcookie
  rw [← hvalue]
  have hoptions : ∀ {o : ExtraAuthStorageOptions} {w : HeaderValue},
      some (o, w) = some (options, HeaderValue.str s) → o = options := by
    rintro o w h
    cases h
    rfl
  cases authType with
  | basic => cases hsplit
  | proxy => cases hsplit
  | openId => rw [← hoptions hsplit]; rfl
  | saml => rw [← hoptions hsplit]; rfl
  | jwt => rw [← hoptions hsplit]; rfl

theorem jwt_replays_iff
    (hmint : (JwtAuthentication server).Mints request authInfo cookie queue)
    (hfits : AuthType.jwt.Fits server request)
    (hfollows : Follows request later cookie queue tenant) :
    AuthType.jwt.Replays server environment request (cookie.written tenant) later ↔
      JwtAuthentication.authHeaderName server = "authorization" := by
  have hbuild := build_split environment .jwt rfl hmint hfits hfollows
  have htruthy := jwt_bearer_truthy hmint.1
  rw [HeaderValue.or_truthy htruthy] at hbuild
  have hne : JwtAuthentication.getBearerToken server request ≠ .undefined := by
    intro h
    rw [h] at htruthy
    cases htruthy
  constructor
  · rintro ⟨headers, queue', hexec, hsent⟩
    rw [hbuild] at hexec
    cases hexec
    have h := hsent "authorization"
    rw [sent_set, if_pos ⟨rfl, by decide⟩, AuthType.original] at h
    split at h
    · rename_i hname; exact hname.symm
    · exact absurd h hne
  · intro hname
    refine ⟨_, _, hbuild, fun name => ?_⟩
    rw [sent_set, AuthType.original, hname]
    by_cases h : name = "authorization" <;> simp [h, sent_empty]

/-- SAML and OpenID read and write the same header. -/
theorem authorization_replays (authType : AuthType)
    (htype : authType = .saml ∨ authType = .openId)
    (hmint : (authType.handler server environment).Mints request authInfo cookie queue)
    (hfits : authType.Fits server request)
    (hfollows : Follows request later cookie queue tenant) :
    authType.Replays server environment request (cookie.written tenant) later := by
  have hincl : (request.header "authorization").truthy = true := by
    rcases htype with rfl | rfl <;> exact hmint.1
  obtain ⟨s, hs, -, hown⟩ := Request.header_of_truthy hincl authorization_not_inherited
  have hsplit : ∃ options, authType.splitValue server request =
      some (options, request.header "authorization") := by
    rcases htype with rfl | rfl <;> exact ⟨_, rfl⟩
  obtain ⟨options, hsplit⟩ := hsplit
  have hbuild := build_split environment authType hsplit hmint hfits hfollows
  have horiginal : ∀ name, authType.original server request name =
      if name = "authorization" then request.sent name else .undefined := by
    rcases htype with rfl | rfl <;> exact fun _ => rfl
  refine ⟨_, _, hbuild, fun name => ?_⟩
  rw [sent_set, horiginal]
  by_cases h : name = "authorization"
  · subst h
    simp [hs, Request.sent, hown]
  · simp [h, sent_empty]

end Split

/-! ## The proxy type -/

section Proxy

open ProxyAuthentication

variable {server : Server} {request : Request}

/-- The headers that the proxy type stores. -/
def keptNames (server : Server) : List String :=
  [userHeaderName server, roleHeaderName server, XFF, "authorization"]

theorem own_keepHeader (name k : String) (credentials : HeaderObject) :
    (keepHeader request name credentials).own k =
      if k = name ∧ k ≠ "__proto__" ∧ (request.header k).truthy = true then
        some (request.header k)
      else credentials.own k := by
  unfold keepHeader
  by_cases hk : k = name
  · subst hk
    by_cases h : (request.header k).truthy = true
    · rw [if_pos h, Js.Assigned.own_set]
      simp only [h, true_and, and_true]
    · rw [if_neg h, if_neg fun h' => h h'.2.2]
  · have hno : ¬ (k = name ∧ k ≠ "__proto__" ∧ (request.header k).truthy = true) :=
      fun h => hk h.1
    rw [if_neg hno]
    split
    · exact Js.Assigned.own_set_ne hk
    · rfl

theorem own_cookieCredentials (k : String) :
    (cookieCredentials server request).own k =
      if k ∈ keptNames server ∧ k ≠ "" ∧ k ≠ "__proto__" ∧ (request.header k).truthy = true then
        some (request.header k)
      else none := by
  have hempty : k = "" → k ≠ XFF ∧ k ≠ "authorization" := by
    rintro rfl
    decide
  have hskip : ∀ (name : String) (credentials : HeaderObject),
      (if name = "" then credentials else keepHeader request name credentials).own k =
        if k = name ∧ k ≠ "" ∧ k ≠ "__proto__" ∧ (request.header k).truthy = true then
          some (request.header k)
        else credentials.own k := by
    intro name credentials
    by_cases hname : name = ""
    · rw [if_pos hname, if_neg fun h => h.2.1 (h.1.trans hname)]
    · rw [if_neg hname, own_keepHeader]
      by_cases hk : k = name
      · simp [hk, hname]
      · simp [hk]
  unfold cookieCredentials keptNames
  simp only [own_keepHeader, hskip, Js.Assigned.own_empty, List.mem_cons, List.not_mem_nil,
    or_false]
  by_cases h : k ≠ "__proto__" ∧ (request.header k).truthy = true
  · grind
  · simp [h]

/-- The stored credentials of a proxy session. -/
def storedCredentials (server : Server) (request : Request) : Credentials :=
  Credentials.stored { headers := cookieCredentials server request }

theorem own_storedCredentials {k : String} (hkept : k ∈ keptNames server) (hk : k ≠ "") :
    (storedCredentials server request).headers.own k =
      ((request.headers.own k).filter (· != "")).map .str := by
  have hstored : (storedCredentials server request).headers.own k =
      ((cookieCredentials server request).own k).filter HeaderValue.isString :=
    Js.Assigned.own_filterValues _ _ k
  rw [hstored, own_cookieCredentials]
  cases hown : request.headers.own k with
  | none =>
    have hnot : HeaderValue.isString (request.header k) = false := by
      unfold Request.header
      rw [hown]
      dsimp only
      split <;> rfl
    split <;> simp [Option.filter, hnot]
  | some s =>
    have hproto : k ≠ "__proto__" := by
      rintro rfl
      rw [Js.Assigned.own_proto] at hown
      cases hown
    have hheader : request.header k = .str s := by
      unfold Request.header
      rw [hown]
    by_cases hs : s = "" <;>
      simp [hkept, hk, hproto, hheader, HeaderValue.truthy, hs, Option.filter,
        HeaderValue.isString]

/-- What `credentials[name]` gives for a header that is stored if it is there. -/
theorem property_storedCredentials {k : String} (hkept : k ∈ keptNames server) (hk : k ≠ "") :
    (storedCredentials server request).property k =
      match (request.headers.own k).filter (· != "") with
      | some s => .str s
      | none => if k ∈ Js.objectPrototype then .inherited else .undefined := by
  have hrefresh : (if k = "refresh_token" then
      (storedCredentials server request).refresh_token else none) = none := by
    split <;> rfl
  unfold Credentials.property
  rw [hrefresh]
  simp only [HeaderObject.get, own_storedCredentials hkept hk]
  cases (request.headers.own k).filter (· != "") <;> rfl

theorem property_eq_sent_iff {k : String} (hkept : k ∈ keptNames server) (hk : k ≠ "") :
    (if k ≠ "__proto__" then (storedCredentials server request).property k else .undefined) =
      request.sent k ↔ request.Restorable k := by
  rw [property_storedCredentials hkept hk, Request.sent, Request.Restorable]
  by_cases hproto : k = "__proto__"
  · subst hproto
    simp [Js.Assigned.own_proto]
  · rw [if_pos hproto]
    cases hown : request.headers.own k with
    | none =>
      by_cases hinherited : k ∈ Js.objectPrototype <;> simp [hinherited, hproto]
    | some s =>
      by_cases hs : s = ""
      · by_cases hinherited : k ∈ Js.objectPrototype <;> simp [hinherited, hs, Option.filter]
      · simp [hs, Option.filter]

/-- A stored header is never the empty string. -/
theorem property_falsy {k : String} (hkept : k ∈ keptNames server) (hk : k ≠ "")
    (h : ((storedCredentials server request).property k).truthy = false) :
    (storedCredentials server request).property k = .undefined := by
  rw [property_storedCredentials hkept hk] at h ⊢
  cases hown : (request.headers.own k).filter (· != "") with
  | none =>
    rw [hown] at h
    by_cases hinherited : k ∈ Js.objectPrototype
    · simp [hinherited, HeaderValue.truthy] at h
    · simp [hinherited]
  | some s =>
    rw [hown] at h
    have hs : s ≠ "" := by simpa using (Option.filter_eq_some_iff.mp hown).2
    exact absurd h (by simpa [HeaderValue.truthy] using hs)

theorem lodashGet_of_ne {credentials : Credentials} {k : String}
    (h : credentials.property k ≠ .undefined) :
    lodashGet server (some credentials) k = credentials.property k := by
  simp [lodashGet, h]

/-- No header without a name is stored. -/
theorem property_empty : (storedCredentials server request).property "" = .undefined := by
  have hown : (storedCredentials server request).headers.own "" = none := by
    have hstored : (storedCredentials server request).headers.own "" =
        ((cookieCredentials server request).own "").filter HeaderValue.isString :=
      Js.Assigned.own_filterValues _ _ ""
    rw [hstored, own_cookieCredentials]
    simp
  unfold Credentials.property
  rw [hown]
  dsimp only
  rw [if_neg (by decide), HeaderObject.get, hown]
  rfl

/-- Every header that is handed to the backend so far is one of the credentials. -/
def Copied (server : Server) (request : Request) (headers : HeaderObject) : Prop :=
  ∀ k, HeaderObject.sent headers k = .undefined ∨
    HeaderObject.sent headers k = (storedCredentials server request).property k

/-- Copying a header makes it what it is in the credentials. -/
theorem sent_copyHeader {name : String} {headers : HeaderObject} (hkept : name ∈ keptNames server)
    (h : Copied server request headers) (k : String) :
    HeaderObject.sent
        (copyHeader server (some (storedCredentials server request)) name headers) k =
      if k = name ∧ k ≠ "__proto__" then (storedCredentials server request).property k
      else HeaderObject.sent headers k := by
  unfold copyHeader
  by_cases hget :
      (lodashGet server (some (storedCredentials server request)) name).truthy = true
  · rw [if_pos hget, sent_set]
    by_cases hk : k = name
    · subst hk; rfl
    · simp [hk]
  · rw [if_neg hget]
    split
    · rename_i hk
      obtain ⟨rfl, -⟩ := hk
      have hnone : (storedCredentials server request).property k = .undefined := by
        by_contra hne
        rw [lodashGet_of_ne hne, Bool.not_eq_true] at hget
        by_cases hempty : k = ""
        · subst hempty; exact hne property_empty
        · exact hne (property_falsy hkept hempty hget)
      rcases h k with h | h
      · rw [h, hnone]
      · exact h
    · rfl

theorem copied_copyHeader {name : String} {headers : HeaderObject}
    (hkept : name ∈ keptNames server) (h : Copied server request headers) :
    Copied server request
      (copyHeader server (some (storedCredentials server request)) name headers) := by
  intro k
  rw [sent_copyHeader hkept h]
  split
  · exact Or.inr rfl
  · exact h k

/-- With a configured user header the login found it, so it is in the credentials. -/
theorem user_kept (hincl : requestIncludesAuthInfo server request = true)
    (huser : userHeaderName server ≠ "") :
    (lodashGet server (some (storedCredentials server request))
      (userHeaderName server)).truthy = true := by
  simp only [requestIncludesAuthInfo, Bool.and_eq_true] at hincl
  have htruthy : ((storedCredentials server request).property
      (userHeaderName server)).truthy = true := by
    have hheader := hincl.2
    rw [property_storedCredentials (by simp [keptNames]) huser]
    unfold Request.header at hheader
    cases hown : request.headers.own (userHeaderName server) with
    | none =>
      rw [hown] at hheader
      by_cases hinherited : userHeaderName server ∈ Js.objectPrototype
      · simp [hinherited, HeaderValue.truthy]
      · simp [hinherited, HeaderValue.truthy] at hheader
    | some s =>
      rw [hown] at hheader
      have hs : s ≠ "" := by simpa [HeaderValue.truthy] using hheader
      simp [hs, HeaderValue.truthy, Option.filter]
  rw [lodashGet_of_ne]
  · exact htruthy
  · intro h
    rw [h] at htruthy
    cases htruthy

theorem sent_build {cookie : SecuritySessionCookie}
    (hincl : requestIncludesAuthInfo server request = true) (huser : userHeaderName server ≠ "")
    (hcookie : cookie.credentials = some (storedCredentials server request)) (k : String) :
    HeaderObject.sent (ProxyAuthentication.buildAuthHeaderFromCookie server cookie) k =
      if (k = userHeaderName server ∨ k = roleHeaderName server ∨ k = XFF) ∧ k ≠ "__proto__" then
        (storedCredentials server request).property k
      else .undefined := by
  have hkept : userHeaderName server ∈ keptNames server ∧ roleHeaderName server ∈ keptNames server ∧
      XFF ∈ keptNames server := by simp [keptNames]
  have hget : (lodashGet server cookie.credentials (userHeaderName server)).truthy = true := by
    rw [hcookie]
    exact user_kept hincl huser
  have h₀ : Copied server request .empty := fun k => Or.inl (sent_empty k)
  have h₁ := copied_copyHeader hkept.1 h₀
  have h₂ := copied_copyHeader hkept.2.1 h₁
  unfold ProxyAuthentication.buildAuthHeaderFromCookie
  rw [if_pos hget, hcookie, sent_copyHeader hkept.2.2 h₂, sent_copyHeader hkept.2.1 h₁,
    sent_copyHeader hkept.1 h₀, sent_empty]
  by_cases hproto : k = "__proto__"
  · simp [hproto]
  · grind

variable {authInfo : AuthInfo} {cookie : SecuritySessionCookie} {queue : Queue}
  {tenant : Option String} {environment : Environment} {later : Request}

theorem original_proxy (k : String) :
    AuthType.proxy.original server request k =
      if k ∈ keptNames server ∧ k ≠ "" then request.sent k else .undefined := rfl

theorem xff_sent (hincl : requestIncludesAuthInfo server request = true) :
    ∃ s, request.headers.own XFF = some s ∧ s ≠ "" := by
  simp only [requestIncludesAuthInfo, Bool.and_eq_true] at hincl
  obtain ⟨s, -, hs, hown⟩ := Request.header_of_truthy hincl.1 (by decide)
  exact ⟨s, hown, hs⟩

/-- Without a user header the stored `x-forwarded-for` is not handed on. -/
theorem xff_dropped {cookie : SecuritySessionCookie} (huser : userHeaderName server = "")
    (hcookie : cookie.credentials = some (storedCredentials server request)) :
    HeaderObject.sent (ProxyAuthentication.buildAuthHeaderFromCookie server cookie) XFF =
      .undefined := by
  have hget : lodashGet server cookie.credentials (userHeaderName server) = .undefined := by
    rw [hcookie, huser, lodashGet, if_neg, property_empty]
    rintro ⟨-, h⟩
    exact absurd h (by decide)
  unfold ProxyAuthentication.buildAuthHeaderFromCookie
  rw [hget, if_neg (by decide)]
  split
  · rw [sent_set, if_neg (by decide), sent_empty]
  · exact sent_empty _

/-- A configured header and `x-forwarded-for` agree if they are stored and restored. -/
theorem sent_eq_original_iff_restorable {cookie : SecuritySessionCookie} {k : String}
    (hincl : requestIncludesAuthInfo server request = true) (huser : userHeaderName server ≠ "")
    (hcookie : cookie.credentials = some (storedCredentials server request))
    (hk : k = userHeaderName server ∨ k = roleHeaderName server ∨ k = XFF) (hne : k ≠ "") :
    HeaderObject.sent (ProxyAuthentication.buildAuthHeaderFromCookie server cookie) k =
      AuthType.proxy.original server request k ↔ request.Restorable k := by
  have hkept : k ∈ keptNames server := by
    simp only [keptNames, List.mem_cons]
    tauto
  rw [original_proxy, if_pos ⟨hkept, hne⟩, sent_build hincl huser hcookie,
    ← property_eq_sent_iff hkept hne]
  simp only [hk, true_and]

/-- Beside them an authorization header is lost. -/
theorem authorization_eq_original_iff {cookie : SecuritySessionCookie}
    (hincl : requestIncludesAuthInfo server request = true) (huser : userHeaderName server ≠ "")
    (hcookie : cookie.credentials = some (storedCredentials server request))
    (hu : userHeaderName server ≠ "authorization") (hr : roleHeaderName server ≠ "authorization") :
    HeaderObject.sent (ProxyAuthentication.buildAuthHeaderFromCookie server cookie)
        "authorization" = AuthType.proxy.original server request "authorization" ↔
      request.headers.own "authorization" = none := by
  have hno : ¬ (("authorization" = userHeaderName server ∨
      "authorization" = roleHeaderName server ∨ "authorization" = XFF) ∧
        "authorization" ≠ "__proto__") := by
    rintro ⟨h | h | h, -⟩
    · exact hu h.symm
    · exact hr h.symm
    · exact absurd h (by decide)
  rw [sent_build hincl huser hcookie, if_neg hno, original_proxy,
    if_pos ⟨by simp [keptNames], by decide⟩, Request.sent]
  cases request.headers.own "authorization" <;> simp

/-- Which headers agree: those that are stored and restored, and an authorization header only if it
is one of the configured two. -/
theorem sent_eq_original_iff {cookie : SecuritySessionCookie}
    (hincl : requestIncludesAuthInfo server request = true) (huser : userHeaderName server ≠ "")
    (hcookie : cookie.credentials = some (storedCredentials server request)) :
    (∀ k, HeaderObject.sent (ProxyAuthentication.buildAuthHeaderFromCookie server cookie) k =
        AuthType.proxy.original server request k) ↔
      request.Restorable (userHeaderName server) ∧
        (roleHeaderName server = "" ∨ request.Restorable (roleHeaderName server)) ∧
        (request.headers.own "authorization" = none ∨ userHeaderName server = "authorization" ∨
          roleHeaderName server = "authorization") := by
  have hrestored := fun {k} => sent_eq_original_iff_restorable (k := k) hincl huser hcookie
  have hauthorization := authorization_eq_original_iff hincl huser hcookie
  constructor
  · intro h
    refine ⟨(hrestored (Or.inl rfl) huser).mp (h _), ?_, ?_⟩
    · by_cases hrole : roleHeaderName server = ""
      · exact Or.inl hrole
      · exact Or.inr ((hrestored (Or.inr (Or.inl rfl)) hrole).mp (h _))
    · by_cases hu : userHeaderName server = "authorization"
      · exact Or.inr (Or.inl hu)
      by_cases hr : roleHeaderName server = "authorization"
      · exact Or.inr (Or.inr hr)
      exact Or.inl ((hauthorization hu hr).mp (h _))
  · rintro ⟨hu, hr, ha⟩ k
    by_cases hkept : k = userHeaderName server ∨ k = roleHeaderName server ∨ k = XFF
    · by_cases hk : k = ""
      · subst hk
        rw [original_proxy, if_neg fun h => h.2 rfl, sent_build hincl huser hcookie,
          property_empty]
        split <;> rfl
      · refine (hrestored hkept hk).mpr ?_
        rcases hkept with rfl | rfl | rfl
        · exact hu
        · exact hr.resolve_left hk
        · obtain ⟨s, hown, hs⟩ := xff_sent hincl
          exact Or.inl ⟨s, hown, hs⟩
    · by_cases hk : k = "authorization"
      · subst hk
        have hu' : userHeaderName server ≠ "authorization" := fun h => hkept (Or.inl h.symm)
        have hr' : roleHeaderName server ≠ "authorization" :=
          fun h => hkept (Or.inr (Or.inl h.symm))
        refine (hauthorization hu' hr').mpr ?_
        rcases ha with ha | ha | ha
        · exact ha
        · exact absurd ha hu'
        · exact absurd ha hr'
      · have hnot : k ∉ keptNames server := by
          simp only [keptNames, List.mem_cons, List.not_mem_nil, or_false]
          tauto
        rw [original_proxy, if_neg fun h => hnot h.1, sent_build hincl huser hcookie,
          if_neg fun h => hkept h.1]

/-- The proxy type replays what it can store, and leaves an authorization header out. -/
theorem proxy_replays_iff
    (hmint : (ProxyAuthentication server).Mints request authInfo cookie queue) :
    AuthType.proxy.Replays server environment request (cookie.written tenant) later ↔
      AuthType.proxy.CanReplay server request := by
  obtain ⟨hincl, hcookie⟩ := hmint
  cases hcookie
  set written := (ProxyAuthentication.getCookie server request authInfo).written tenant
  have hcredentials : written.credentials = some (storedCredentials server request) := rfl
  have hreplays : AuthType.proxy.Replays server environment request written later ↔
      ∀ k, HeaderObject.sent (ProxyAuthentication.buildAuthHeaderFromCookie server written) k =
        AuthType.proxy.original server request k := by
    constructor
    · rintro ⟨headers, queue', hexec, hsent⟩
      cases hexec
      exact hsent
    · exact fun h => ⟨_, _, rfl, h⟩
  rw [hreplays]
  by_cases huser : userHeaderName server = ""
  · constructor
    · intro h
      obtain ⟨s, hown, -⟩ := xff_sent hincl
      have hxff := h XFF
      rw [xff_dropped huser hcredentials, original_proxy,
        if_pos ⟨by simp [keptNames], by decide⟩, Request.sent, hown] at hxff
      cases hxff
    · exact fun h => absurd huser h.1
  · exact (sent_eq_original_iff hincl huser hcredentials).trans ⟨fun h => ⟨huser, h⟩, fun h => h.2⟩

end Proxy

/-- The next request of a browser is handed on with the authentication headers of the login,
exactly when the type can store and restore them. -/
theorem replays_iff (server : Server) (environment : Environment) (authType : AuthType)
    (request later : Request) (authInfo : AuthInfo) (cookie : SecuritySessionCookie)
    (queue : Queue) (tenant : Option String) (htype : authType ≠ .basic)
    (hmint : (authType.handler server environment).Mints request authInfo cookie queue)
    (hfits : authType.Fits server request)
    (hfollows : Follows request later cookie queue tenant) :
    authType.Replays server environment request (cookie.written tenant) later ↔
      authType.CanReplay server request := by
  cases authType with
  | basic => exact absurd rfl htype
  | proxy => exact proxy_replays_iff hmint
  | openId =>
    exact ⟨fun _ => trivial, fun _ => authorization_replays _ (Or.inr rfl) hmint hfits hfollows⟩
  | saml =>
    exact ⟨fun _ => trivial, fun _ => authorization_replays _ (Or.inl rfl) hmint hfits hfollows⟩
  | jwt => exact jwt_replays_iff hmint hfits hfollows

namespace Sample

theorem jwtCookie_replayed :
    AuthType.jwt.Replays bearerServer aliceBackend bearerRequest (jwtCookie.written none)
      (nextRequest jwtLogin jwtCookie) :=
  (replays_iff bearerServer aliceBackend .jwt bearerRequest (nextRequest jwtLogin jwtCookie) alice
    jwtCookie jwtLogin none (by decide) ⟨by decide, Prod.ext (by decide +kernel) rfl⟩
    (bearer_fits .jwt) rfl).mpr
    (show JwtAuthentication.authHeaderName bearerServer = "authorization" by decide)

def customLogin : Queue := loginQueue customServer .jwt customRequest

theorem customHeader_not_replayed :
    (JwtAuthentication customServer).Mints customRequest alice jwtCookie customLogin ∧
      AuthType.jwt.Fits customServer customRequest ∧
      Follows customRequest (nextRequest customLogin jwtCookie) jwtCookie customLogin none ∧
      ¬ AuthType.jwt.Replays customServer aliceBackend customRequest (jwtCookie.written none)
        (nextRequest customLogin jwtCookie) := by
  have hmint : (JwtAuthentication customServer).Mints customRequest alice jwtCookie customLogin :=
    ⟨by decide, Prod.ext (by decide +kernel) rfl⟩
  have hfits : AuthType.jwt.Fits customServer customRequest := by
    intro options content h
    cases h
    decide +kernel
  have hfollows : Follows customRequest (nextRequest customLogin jwtCookie) jwtCookie customLogin
      none := rfl
  refine ⟨hmint, hfits, hfollows, fun h => ?_⟩
  exact absurd ((jwt_replays_iff hmint hfits hfollows).mp h) (by decide)

end Sample

end SecurityDashboards
