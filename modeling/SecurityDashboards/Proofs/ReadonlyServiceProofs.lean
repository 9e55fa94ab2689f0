import SecurityDashboards.Proofs.PlainObjectProofs
import SecurityDashboards.ReadonlyService

/-!
# When the read-only service is exact
-/

namespace SecurityDashboards

namespace ReadonlyService

variable {service : ReadonlyService} {request : RoutedRequest} {serverBasePath : String}

/-! ## The tenant -/

theorem truthyString_eq_isSome (o : Option String) :
    truthyString o = (o.filter (· != "")).isSome := by
  cases o with
  | none => rfl
  | some s => by_cases hs : s = "" <;> simp [truthyString, hs]

/-- `o || d` -/
theorem ite_truthyString (o : Option String) (d : String) :
    (if truthyString o then o.getD "" else d) = (o.filter (· != "")).getD d := by
  cases o with
  | none => rfl
  | some s =>
    by_cases hs : s = ""
    · rw [hs]
      rfl
    · have hfilter : (some s).filter (· != "") = some s := by simp [hs]
      rw [truthyString_eq_isSome, hfilter]
      rfl

theorem filter_withCookieTenant (authInfo : OpenSearchAuthInfo)
    (cookie : Option SecuritySessionCookie) :
    (withCookieTenant authInfo cookie).user_requested_tenant.filter (· != "") =
      (authInfo.user_requested_tenant.filter (· != "")).or
        ((cookie.bind (·.tenant)).filter (· != "")) := by
  unfold withCookieTenant
  cases cookie with
  | none => exact Option.or_none.symm
  | some cookie =>
    rw [truthyString_eq_isSome]
    cases h : authInfo.user_requested_tenant.filter (· != "") with
    | none => rfl
    | some tenant => exact h

theorem tenants_withCookieTenant (authInfo : OpenSearchAuthInfo)
    (cookie : Option SecuritySessionCookie) :
    (withCookieTenant authInfo cookie).tenants = authInfo.tenants := by
  unfold withCookieTenant
  split
  · split <;> rfl
  · rfl

theorem readWriteAccess_eq_false_iff {tenants : Tenants} {name : String} :
    readWriteAccess tenants name = false ↔ tenants.own name ≠ some true ∧
      ¬(tenants.own name = none ∧ name ∈ Js.objectPrototype) := by
  unfold readWriteAccess
  cases tenants.own name with
  | none => simp
  | some access => cases access <;> simp

/-- The private tenant aside, an inherited name grants access. -/
theorem isReadOnlyTenant_iff (authInfo : OpenSearchAuthInfo)
    (cookie : Option SecuritySessionCookie) :
    isReadOnlyTenant (withCookieTenant authInfo cookie) = true ↔
      LacksWriteAccess authInfo.tenants (effectiveTenant authInfo cookie) ∧
        ¬(authInfo.tenants.own (effectiveTenant authInfo cookie) = none ∧
          effectiveTenant authInfo cookie ∈ Js.objectPrototype) := by
  have htenant : (if truthyString (withCookieTenant authInfo cookie).user_requested_tenant then
      (withCookieTenant authInfo cookie).user_requested_tenant.getD "" else globalTenantName) =
      effectiveTenant authInfo cookie := by
    rw [ite_truthyString, filter_withCookieTenant, effectiveTenant]
  simp only [isReadOnlyTenant, htenant, tenants_withCookieTenant, LacksWriteAccess]
  by_cases hprivate : effectiveTenant authInfo cookie = PRIVATE_TENANT_SYMBOL
  · simp [isPrivateTenant, hprivate]
  · have hnot : isPrivateTenant (some (effectiveTenant authInfo cookie)) = false := by
      simp [isPrivateTenant, hprivate]
    rw [hnot, if_neg Bool.false_ne_true, Bool.not_eq_true', readWriteAccess_eq_false_iff]
    exact ⟨fun h => ⟨⟨hprivate, h.1⟩, h.2⟩, fun h => ⟨h.1.2, h.2⟩⟩

/-! ## The calls -/

theorem truthyFlag_iff {o : Option Bool} : truthyFlag o = true ↔ o = some true := by
  cases o with
  | none => simp [truthyFlag]
  | some b => simp [truthyFlag]

/-- The calls have one answer each. -/
theorem Answered.unique {cookie cookie' : Option SecuritySessionCookie}
    {dashboardsInfo dashboardsInfo' : DashboardsInfo} {authInfo authInfo' : OpenSearchAuthInfo}
    {headers headers' : ForwardedHeaders}
    (h : service.Answered request cookie dashboardsInfo authInfo headers)
    (h' : service.Answered request cookie' dashboardsInfo' authInfo' headers') :
    cookie = cookie' ∧ authInfo = authInfo' := by
  have hcookie : cookie = cookie' := Except.ok.inj (h.session.symm.trans h'.session)
  subst hcookie
  have hheaders : headers = headers' := Except.ok.inj (h.forwarded.symm.trans h'.forwarded)
  subst hheaders
  exact ⟨rfl, Except.ok.inj (h.authinfo.symm.trans h'.authinfo)⟩

theorem resolveReadonly_eq_true_iff : service.resolveReadonly request = .ok true ↔
    ∃ cookie dashboardsInfo authInfo headers,
      service.Answered request cookie dashboardsInfo authInfo headers ∧
        dashboardsInfo.multitenancy_enabled = some true ∧
        isReadOnlyTenant (withCookieTenant authInfo cookie) = true := by
  constructor
  · intro h
    obtain ⟨cookie, hcookie, h⟩ := Except.bind_eq_ok_iff.mp h
    obtain ⟨headers, hheaders, h⟩ := Except.bind_eq_ok_iff.mp h
    obtain ⟨dashboardsInfo, hdashboards, h⟩ := Except.bind_eq_ok_iff.mp h
    by_cases henabled : truthyFlag dashboardsInfo.multitenancy_enabled = true
    · rw [henabled] at h
      obtain ⟨authInfo, hauth, h⟩ := Except.bind_eq_ok_iff.mp h
      exact ⟨cookie, dashboardsInfo, authInfo, headers, ⟨hcookie, hheaders, hdashboards, hauth⟩,
        truthyFlag_iff.mp henabled, Except.ok.inj h⟩
    · rw [Bool.not_eq_true] at henabled
      rw [henabled] at h
      cases h
  · rintro ⟨cookie, dashboardsInfo, authInfo, headers, answered, henabled, hreadonly⟩
    refine Except.bind_eq_ok_iff.mpr ⟨cookie, answered.session, ?_⟩
    refine Except.bind_eq_ok_iff.mpr ⟨headers, answered.forwarded, ?_⟩
    refine Except.bind_eq_ok_iff.mpr ⟨dashboardsInfo, answered.dashboardsinfo, ?_⟩
    rw [truthyFlag_iff.mpr henabled]
    exact Except.bind_eq_ok_iff.mpr ⟨authInfo, answered.authinfo, congrArg Except.ok hreadonly⟩

/-- The `try` block gives true for a user who may not write, unless the tenant has an inherited
name. -/
theorem resolveReadonly_iff_worksReadonly : service.resolveReadonly request = .ok true ↔
    service.WorksReadonly request ∧ ¬service.InInheritedTenant request := by
  rw [resolveReadonly_eq_true_iff]
  constructor
  · rintro ⟨cookie, dashboardsInfo, authInfo, headers, answered, henabled, hreadonly⟩
    obtain ⟨hlacks, hown⟩ := (isReadOnlyTenant_iff authInfo cookie).mp hreadonly
    refine ⟨⟨cookie, dashboardsInfo, authInfo, headers, answered, henabled, hlacks⟩, ?_⟩
    rintro ⟨cookie', dashboardsInfo', authInfo', headers', answered', hinherited⟩
    obtain ⟨rfl, rfl⟩ := answered.unique answered'
    exact hown hinherited
  · rintro ⟨⟨cookie, dashboardsInfo, authInfo, headers, answered, henabled, hlacks⟩, hinherited⟩
    refine ⟨cookie, dashboardsInfo, authInfo, headers, answered, henabled, ?_⟩
    refine (isReadOnlyTenant_iff authInfo cookie).mpr ⟨hlacks, fun hown => hinherited ?_⟩
    exact ⟨cookie, dashboardsInfo, authInfo, headers, answered, hown⟩

/-! ## The page -/

/-- The page test, by the Referer that it reads. -/
theorem isAnonymousPage_of_referer {url : String} (h : referer request = some url) :
    service.isAnonymousPage request =
      match service.urlPathname url with
      | none => .error (.error "Invalid URL")
      | some pathname => .ok (ROUTES_TO_IGNORE.any fun path => Js.includes pathname path) := by
  unfold referer at h
  have hfilter : (request.headers.own "referer").filter (· != "") = some url := by
    split at h
    · cases h
    · exact h
  have htruthy : truthyString (request.headers.own "referer") = true := by
    rw [truthyString_eq_isSome, hfilter]
    rfl
  have hurl : (request.headers.own "referer").getD "" = url := by
    have hor := ite_truthyString (request.headers.own "referer") ""
    rw [hfilter, htruthy] at hor
    exact hor
  unfold isAnonymousPage
  split at h
  · cases h
  · rw [htruthy, hurl]
    rfl

theorem isAnonymousPage_of_noReferer (h : referer request = none) :
    service.isAnonymousPage request = .ok (decide (request.authRequired = .boolean false)) := by
  unfold referer at h
  unfold isAnonymousPage
  cases hauth : request.authRequired with
  | boolean authRequired => cases authRequired <;> rfl
  | optional =>
    have hfilter : (request.headers.own "referer").filter (· != "") = none := by
      rw [hauth] at h
      exact h
    rw [truthyString_eq_isSome, hfilter]
    rfl
  | undefined =>
    have hfilter : (request.headers.own "referer").filter (· != "") = none := by
      rw [hauth] at h
      exact h
    rw [truthyString_eq_isSome, hfilter]
    rfl

/-- A Referer is read only if the option of the route does not decide. -/
theorem authRequired_ne_of_referer {url : String} (h : referer request = some url) (b : Bool) :
    request.authRequired ≠ .boolean b := by
  intro hauth
  unfold referer at h
  rw [hauth] at h
  cases h

theorem isAnonymousPage_throws_iff (service : ReadonlyService) (request : RoutedRequest) :
    (∃ e, service.isAnonymousPage request = .error e) ↔
      ∃ url, referer request = some url ∧ service.urlPathname url = none := by
  constructor
  · rintro ⟨e, he⟩
    cases hreferer : referer request with
    | none =>
      rw [isAnonymousPage_of_noReferer hreferer] at he
      cases he
    | some url =>
      rw [isAnonymousPage_of_referer hreferer] at he
      cases hpath : service.urlPathname url with
      | none => exact ⟨url, rfl, hpath⟩
      | some path =>
        rw [hpath] at he
        cases he
  · rintro ⟨url, hreferer, hpath⟩
    rw [isAnonymousPage_of_referer hreferer, hpath]
    exact ⟨_, rfl⟩

/-- The path of an anonymous page contains the path that the code looks for. -/
theorem includes_of_mem_anonymousPages {path : String}
    (h : path ∈ anonymousPages serverBasePath) :
    ∃ page ∈ ROUTES_TO_IGNORE, Js.includes path page = true := by
  obtain ⟨page, hpage, rfl⟩ := List.mem_map.mp h
  refine ⟨page, hpage, decide_eq_true ?_⟩
  rw [String.toList_append]
  exact (List.suffix_append _ _).isInfix

/-- The code takes an anonymous page for one, and similar pages as well. -/
theorem isAnonymousPage_eq_true_iff : service.isAnonymousPage request = .ok true ↔
    service.OnAnonymousPage serverBasePath request ∨
      service.OnSimilarPage serverBasePath request := by
  unfold OnAnonymousPage OnSimilarPage
  cases hreferer : referer request with
  | none =>
    rw [isAnonymousPage_of_noReferer hreferer]
    simp
  | some url =>
    have hauth : request.authRequired ≠ .boolean false := authRequired_ne_of_referer hreferer false
    rw [isAnonymousPage_of_referer hreferer]
    cases hpath : service.urlPathname url with
    | none => simp [hauth, hpath]
    | some path =>
      have hany : (ROUTES_TO_IGNORE.any fun page => Js.includes path page) = true ↔
          ∃ page ∈ ROUTES_TO_IGNORE, Js.includes path page = true := List.any_eq_true
      simp only [Except.ok.injEq, hany, hauth, false_or, Option.some.injEq, exists_and_left,
        exists_eq_left', hpath]
      constructor
      · intro hincludes
        by_cases hmem : path ∈ anonymousPages serverBasePath
        · exact Or.inl hmem
        · exact Or.inr ⟨hincludes, hmem⟩
      · rintro (hmem | ⟨hincludes, -⟩)
        · exact includes_of_mem_anonymousPages hmem
        · exact hincludes

/-- An anonymous page is not just similar to one. -/
theorem OnAnonymousPage.not_similar (h : service.OnAnonymousPage serverBasePath request) :
    ¬service.OnSimilarPage serverBasePath request := by
  rintro ⟨url, path, hreferer, hpath, -, hnot⟩
  rcases h with hauth | ⟨url', path', hreferer', hpath', hmem⟩
  · exact authRequired_ne_of_referer hreferer false hauth
  · have hurl : url' = url := Option.some.inj (hreferer'.symm.trans hreferer)
    subst hurl
    have hsame : path' = path := Option.some.inj (hpath'.symm.trans hpath)
    subst hsame
    exact hnot hmem

/-! ## The answer -/

theorem isReadonly_of_disabled (h : service.config.multitenancy.enabled = false) :
    service.isReadonly request = .ok false := by
  rw [isReadonly, h]
  rfl

/-- With multitenancy, the answer is what the `try` block gives for a page that is not anonymous. -/
theorem isReadonly_of_enabled (h : service.config.multitenancy.enabled = true) :
    service.isReadonly request =
      (service.isAnonymousPage request).map fun anonymous =>
        !anonymous && decide (service.resolveReadonly request = .ok true) := by
  rw [isReadonly, h, Bool.not_true, if_neg Bool.false_ne_true]
  cases service.isAnonymousPage request with
  | error e => rfl
  | ok anonymous =>
    cases anonymous with
    | true => rfl
    | false =>
      cases service.resolveReadonly request with
      | error e => rfl
      | ok answer => cases answer <;> rfl

theorem isReadonly_resolves_iff : (∃ answer, service.isReadonly request = .ok answer) ↔
    (service.config.multitenancy.enabled = true →
      ∀ url, referer request = some url → (service.urlPathname url).isSome = true) := by
  by_cases henabled : service.config.multitenancy.enabled = true
  · have hthrows := isAnonymousPage_throws_iff service request
    rw [isReadonly_of_enabled henabled]
    cases hpage : service.isAnonymousPage request with
    | error e =>
      obtain ⟨url, hreferer, hpath⟩ := hthrows.mp ⟨e, hpage⟩
      constructor
      · rintro ⟨answer, hanswer⟩
        cases hanswer
      · intro hparses
        have hsome := hparses henabled url hreferer
        rw [hpath] at hsome
        cases hsome
    | ok anonymous =>
      refine ⟨fun _ _ url hreferer => ?_, fun _ => ⟨_, rfl⟩⟩
      rw [Option.isSome_iff_ne_none]
      intro hpath
      obtain ⟨e, he⟩ := hthrows.mpr ⟨url, hreferer, hpath⟩
      rw [hpage] at he
      cases he
  · refine ⟨fun _ h => absurd h henabled, fun _ => ⟨false, ?_⟩⟩
    exact isReadonly_of_disabled (by simpa using henabled)

theorem isReadonly_eq_true_iff : service.isReadonly request = .ok true ↔
    service.config.multitenancy.enabled = true ∧ service.isAnonymousPage request = .ok false ∧
      service.resolveReadonly request = .ok true := by
  by_cases henabled : service.config.multitenancy.enabled = true
  · rw [isReadonly_of_enabled henabled]
    cases service.isAnonymousPage request with
    | error e => simp [Except.map]
    | ok anonymous => cases anonymous <;> simp [Except.map, henabled]
  · rw [isReadonly_of_disabled (by simpa using henabled)]
    constructor
    · intro h
      cases h
    · intro h
      exact absurd h.1 henabled

/-- A page that is not anonymous for the code: the Referer parses, and its path contains neither
path. -/
theorem isAnonymousPage_eq_false_iff (serverBasePath : String) :
    service.isAnonymousPage request = .ok false ↔
      (∀ url, referer request = some url → (service.urlPathname url).isSome = true) ∧
        ¬service.OnAnonymousPage serverBasePath request ∧
        ¬service.OnSimilarPage serverBasePath request := by
  rw [← not_or, ← isAnonymousPage_eq_true_iff]
  have hthrows := isAnonymousPage_throws_iff service request
  have hparses : (∀ url, referer request = some url → (service.urlPathname url).isSome = true) ↔
      ¬∃ e, service.isAnonymousPage request = .error e := by
    rw [hthrows, not_exists]
    refine forall_congr' fun url => ?_
    rw [not_and]
    exact forall_congr' fun _ => Option.isSome_iff_ne_none
  rw [hparses]
  cases service.isAnonymousPage request with
  | error e => simp
  | ok anonymous => cases anonymous <;> simp

/-- The service is exact for the regular requests, and with multitenancy for no others. -/
theorem isReadonly_exact_iff (service : ReadonlyService) (serverBasePath : String)
    (request : RoutedRequest) :
    service.Exact serverBasePath request ↔
      (service.config.multitenancy.enabled = true → service.Regular serverBasePath request) := by
  have hexact : service.Exact serverBasePath request ↔
      (∃ answer, service.isReadonly request = .ok answer) ∧
        (service.isReadonly request = .ok true ↔ service.config.multitenancy.enabled = true ∧
          ¬service.OnAnonymousPage serverBasePath request ∧ service.WorksReadonly request) := by
    unfold Exact
    cases service.isReadonly request with
    | error e => simp
    | ok answer => simp
  have hdisjoint : service.OnAnonymousPage serverBasePath request →
      ¬service.OnSimilarPage serverBasePath request := OnAnonymousPage.not_similar
  rw [hexact, isReadonly_resolves_iff, isReadonly_eq_true_iff,
    isAnonymousPage_eq_false_iff serverBasePath, resolveReadonly_iff_worksReadonly, Regular]
  constructor
  · rintro ⟨hparses, hiff⟩ henabled
    refine ⟨hparses henabled, fun hworks => ?_⟩
    by_cases hpage : service.OnAnonymousPage serverBasePath request
    · exact ⟨hdisjoint hpage, Or.inl hpage⟩
    · obtain ⟨-, ⟨-, -, hsimilar⟩, -, hinherited⟩ := hiff.mpr ⟨henabled, hpage, hworks⟩
      exact ⟨hsimilar, Or.inr hinherited⟩
  · intro hregular
    refine ⟨fun henabled => (hregular henabled).1, ?_, ?_⟩
    · rintro ⟨henabled, ⟨-, hpage, -⟩, hworks, -⟩
      exact ⟨henabled, hpage, hworks⟩
    · rintro ⟨henabled, hpage, hworks⟩
      obtain ⟨hparses, hrest⟩ := hregular henabled
      obtain ⟨hsimilar, hor⟩ := hrest hworks
      exact ⟨henabled, ⟨hparses, hpage, hsimilar⟩, hworks, hor.resolve_left hpage⟩

namespace Sample

/-- A service with multitenancy, for requests that authenticate themselves. The URLs it is shown are
those of one host. -/
def readonlyService : ReadonlyService where
  config := { multitenancy := { enabled := true } }
  auth :=
    { requestIncludesAuthInfo := fun _ => true
      getAdditionalAuthHeader := fun _ => .ok .empty
      getCookie := fun _ _ => pure {}
      isValidCookie := fun cookie _ => pure (true, cookie)
      getKeepAliveExpiry := fun cookie _ => pure cookie.expiryTime
      buildAuthHeaderFromCookie := fun _ _ => pure .empty
      handleUnauthedRequest := fun _ => .unauthorized none }
  urlPathname := fun url =>
    let host := "https://dashboards.example"
    if Js.startsWith url (host ++ "/") then
      some (String.ofList (url.toList.drop host.toList.length))
    else none
  dashboardsinfo := fun _ _ => .ok { multitenancy_enabled := some true }
  authinfo := fun _ _ => .ok { tenants := .empty }

/-- A request of the browser from this page. -/
def requestFrom (referer : String) : RoutedRequest where
  url := { pathname := "/api/core/capabilities" }
  headers := Js.Assigned.empty.set "referer" referer
  authRequired := .optional

/-- A Referer that is no URL rejects the promise. -/
theorem malformedReferer_rejects :
    readonlyService.isReadonly (requestFrom "dashboards.example/app/home") =
        .error (.error "Invalid URL") ∧
      ¬readonlyService.Exact "" (requestFrom "dashboards.example/app/home") := by
  have hrejects : readonlyService.isReadonly (requestFrom "dashboards.example/app/home") =
      .error (.error "Invalid URL") := by decide
  refine ⟨hrejects, ?_⟩
  rintro ⟨answer, hanswer, -⟩
  rw [hrejects] at hanswer
  cases hanswer

end Sample

end ReadonlyService

end SecurityDashboards
