import Mathlib.Data.List.Dedup
import Mathlib.Data.List.TakeWhile
import SecurityDashboards.Proofs.TenantResolverProofs
import SecurityDashboards.Proofs.UrlEncodingProofs
import SecurityDashboards.SharedLinks

/-!
# Proofs: where links that name a tenant lead

A link leads to the tenant that its query names first. That this is the wrong one is shown by a
recipient to whom both tenants are available.
-/

namespace SecurityDashboards

/-! ## The tenant that a query names -/

section Query

variable {request : Request} {params : QueryParams} {cookie : SecuritySessionCookie}
  {multitenancyEnabled : Option Bool} {defaultTenant : Option String}

theorem selectedTenantOf_older (hquery : request.HasQuery params) {older : String}
    (holder : olderTenantParam params = some older) :
    selectedTenantOf request cookie multitenancyEnabled defaultTenant = some older := by
  unfold Request.HasQuery at hquery
  unfold olderTenantParam at holder
  unfold selectedTenantOf Url.param
  rw [hquery]
  split_ifs at holder with hfirst hsecond
  · rw [if_pos hfirst, holder]
  · rw [if_neg hfirst, if_pos hsecond, holder]

theorem selectedTenantOf_security (hquery : request.HasQuery params)
    (holder : olderTenantParam params = none) {tenant : String}
    (htenant : params.lookup "security_tenant" = some tenant) (hne : tenant ≠ "") :
    selectedTenantOf request cookie multitenancyEnabled defaultTenant = some tenant := by
  have htruthy : truthyString (some tenant) = true := by simpa [truthyString] using hne
  unfold Request.HasQuery at hquery
  unfold olderTenantParam at holder
  unfold selectedTenantOf Url.param
  rw [hquery, htenant]
  split_ifs at holder with hfirst hsecond
  · rw [holder] at hfirst
    cases hfirst
  · rw [holder] at hsecond
    cases hsecond
  · rw [if_neg hfirst, if_neg hsecond, if_pos htruthy]

/-- A request that a request with a query stands for. -/
def queryRequest (params : QueryParams) : Request where
  url := { pathname := "/", searchParams := params }

/-- Without a name in the query the cookie of the user decides. -/
theorem selectedTenantOf_cookie (holder : olderTenantParam params = none)
    (hempty : params.lookup "security_tenant" = some "") (hcookie : cookie.tenant.isSome = true) :
    selectedTenantOf (queryRequest params) cookie multitenancyEnabled defaultTenant =
      cookie.tenant := by
  have hheader : ∀ name, (queryRequest params).headers.own name = none := fun name => rfl
  unfold olderTenantParam at holder
  unfold selectedTenantOf Url.param queryRequest
  unfold queryRequest at hheader
  rw [hempty, hheader, hheader, hcookie]
  split_ifs at holder with hfirst hsecond
  · rw [holder] at hfirst
    cases hfirst
  · rw [holder] at hsecond
    cases hsecond
  · rw [if_neg hfirst, if_neg hsecond]
    rfl

/-- The parameters of other names do not matter. -/
theorem olderTenantParam_congr {params' : QueryParams}
    (h : ∀ name ∈ ["securityTenant_", "securitytenant"], params'.lookup name = params.lookup name) :
    olderTenantParam params' = olderTenantParam params := by
  unfold olderTenantParam
  rw [h "securityTenant_" (by decide), h "securitytenant" (by decide)]

theorem lookup_addSecurityTenant_other {tenant name : String} (hname : name ≠ "security_tenant") :
    (addSecurityTenant tenant params).lookup name = params.lookup name := by
  unfold addSecurityTenant
  split_ifs
  · rw [List.lookup_append]
    simp [List.lookup_cons, beq_false_of_ne hname]
  · rfl

theorem lookup_addSecurityTenant_absent {tenant : String}
    (h : params.lookup "security_tenant" = none) :
    (addSecurityTenant tenant params).lookup "security_tenant" = some tenant := by
  unfold addSecurityTenant
  rw [h, if_pos Option.isNone_none, List.lookup_append, h]
  rfl

theorem addSecurityTenant_present {tenant : String}
    (h : (params.lookup "security_tenant").isSome = true) :
    addSecurityTenant tenant params = params := by
  unfold addSecurityTenant
  rw [if_neg (by simpa [Option.isSome_iff_ne_none] using h)]

end Query

/-! ## Recipients -/

namespace Recipient

variable {toLowerCase : String → String} {r : Recipient} {request : Request} {tenant : String}

theorem follow_selected
    (h : selectedTenantOf request r.cookie r.multitenancyEnabled r.defaultTenant = some tenant) :
    r.follow toLowerCase request =
      ((r.resolution none).requesting tenant).result toLowerCase := by
  unfold follow resolveTenant
  rw [h]
  rfl

/-- A tenant that is available is the one in which a link that names it is seen. -/
theorem follow_of_offers (hoffers : r.Offers tenant)
    (h : selectedTenantOf request r.cookie r.multitenancyEnabled r.defaultTenant = some tenant) :
    r.follow toLowerCase request = .ok (some tenant) := by
  obtain ⟨hactive, hoffers⟩ := hoffers
  rw [follow_selected h]
  refine Resolution.result_requesting hactive ?_
  split_ifs at hoffers with hglobal hprivate
  · refine Or.inr ?_
    have henabled : (r.resolution none).globalTenantEnabled = true := hoffers
    rw [hglobal, Resolution.aliasOf, henabled]
    rfl
  · refine Or.inr ?_
    have henabled : (r.resolution none).privateEnabled = true := hoffers.1
    have huser : (r.resolution none).availableTenants.has (r.resolution none).username = true :=
      hoffers.2
    have hno : GLOBAL_TENANTS.contains PRIVATE_TENANT_SYMBOL = false := by decide
    rw [hprivate, Resolution.aliasOf, henabled, huser, hno, Bool.and_false]
    rfl
  · exact Or.inl hoffers

/-! ### A recipient with a given list of tenants -/

/-- The list of the backend with these names in it. -/
def listing (names : List String) : Tenants where
  props := names.dedup.map fun name => (name, true)
  nodup := by
    have hnames : ((names.dedup.map fun name => (name, true)).map Prod.fst) = names.dedup := by
      rw [List.map_map]
      exact List.map_id _
    rw [hnames]
    exact names.nodup_dedup

theorem keys_listing (names : List String) : (listing names).keys = names.dedup := by
  rw [listing, Js.PlainObject.keys, List.map_map]
  exact List.map_id _

theorem has_listing {names : List String} {name : String} (h : name ∈ names) :
    (listing names).has name = true := by
  refine Js.PlainObject.has_iff.mpr (Or.inl ?_)
  rw [keys_listing]
  exact List.mem_dedup.mpr h

/-- A recipient with a private tenant who may use the global one and these. -/
def memberOf (names : List String) : Recipient where
  username := "member"
  availableTenants := listing ("member" :: names)
  config := {}
  multitenancyEnabled := some true
  privateTenantEnabled := some true

variable {names : List String}

theorem memberOf_offers (h : tenant ∈ names) : (memberOf names).Offers tenant := by
  refine ⟨⟨rfl, Or.inl rfl⟩, ?_⟩
  split_ifs
  · rfl
  · exact ⟨rfl, has_listing List.mem_cons_self⟩
  · exact has_listing (List.mem_cons_of_mem _ h)

/-- Such a recipient sees the page in whichever of these tenants is selected. -/
theorem memberOf_follow (toLowerCase : String → String) (names : List String)
    (hname : tenant ∈ names) (cookie : SecuritySessionCookie)
    (h : selectedTenantOf request cookie (some true) none = some tenant) :
    ({ memberOf names with cookie } : Recipient).follow toLowerCase request = .ok (some tenant) := by
  rw [follow_selected (r := { memberOf names with cookie }) h]
  exact Resolution.result_requesting ⟨rfl, Or.inl rfl⟩
    (Or.inl (has_listing (List.mem_cons_of_mem _ hname)))

end Recipient

/-! ## Short links -/

section ShortLinks

variable {tools : UrlTools} {toLowerCase : String → String} {pathname tenant location : String}

/-- The location of a short link changes if it is not empty, does not contain the name of the
parameter, and the tenant is not empty. -/
theorem resolvedLocation_eq (tools : UrlTools) (tenant location : String)
    (hshort : Js.startsWith pathname (GOTO_PREFIX ++ "/") = true) :
    resolvedLocation tools pathname tenant location =
      if location ≠ "" ∧ Js.includes location "security_tenant" = false ∧ tenant ≠ "" then
        tools.modifyUrl location (addSecurityTenant tenant)
      else location := by
  have htruthy : truthyString (some tenant) = true ↔ tenant ≠ "" := by simp [truthyString]
  unfold resolvedLocation addTenantParameterToResolvedShortLink
  rw [if_pos hshort]
  simp only [htruthy]
  split_ifs
  · rfl
  · rfl

/-- What the parameter adds to the query of a location. -/
theorem lookup_modified_other (hfaithful : tools.Faithful) {name : String}
    (hname : name ≠ "security_tenant") :
    (tools.params (tools.modifyUrl location (addSecurityTenant tenant))).lookup name =
      (tools.params location).lookup name := by
  rw [hfaithful, lookup_addSecurityTenant_other hname]

theorem olderTenantParam_modified (hfaithful : tools.Faithful) :
    olderTenantParam (tools.params (tools.modifyUrl location (addSecurityTenant tenant))) =
      olderTenantParam (tools.params location) := by
  refine olderTenantParam_congr fun name hname => lookup_modified_other hfaithful ?_
  rintro rfl
  exact absurd hname (by decide)

/-- A location that has the parameter stays as it is. -/
theorem keeps_of_param (hfaithful : tools.Faithful)
    (hshort : Js.startsWith pathname (GOTO_PREFIX ++ "/") = true)
    (hparam : ((tools.params location).lookup "security_tenant").isSome = true) :
    KeepsShortLinkTenant tools toLowerCase pathname tenant location := by
  have hsome : (tools.params location).lookup "security_tenant" ≠ none := by
    simpa [Option.isSome_iff_ne_none] using hparam
  have hsame : ∀ name,
      (tools.params (resolvedLocation tools pathname tenant location)).lookup name =
        (tools.params location).lookup name := by
    intro name
    rw [resolvedLocation_eq tools tenant location hshort]
    split_ifs
    · rw [hfaithful, addSecurityTenant_present hparam]
    · rfl
  exact ⟨fun _ => hsame, fun hnone => absurd hnone hsome, fun hnone => absurd hnone hsome⟩

/-- A location that gets the parameter leads to the tenant, if no older parameter says another
one. -/
theorem keeps_of_modified (hfaithful : tools.Faithful) (htenant : tenant ≠ "")
    (hlocation : resolvedLocation tools pathname tenant location =
      tools.modifyUrl location (addSecurityTenant tenant))
    (hnone : (tools.params location).lookup "security_tenant" = none)
    (holder : ∀ older, olderTenantParam (tools.params location) = some older → older = tenant) :
    KeepsShortLinkTenant tools toLowerCase pathname tenant location := by
  have hadded : (tools.params (resolvedLocation tools pathname tenant location)).lookup
      "security_tenant" = some tenant := by
    rw [hlocation, hfaithful, lookup_addSecurityTenant_absent hnone]
  have holder' : olderTenantParam (tools.params (resolvedLocation tools pathname tenant location)) =
      olderTenantParam (tools.params location) := by
    rw [hlocation, olderTenantParam_modified hfaithful]
  refine ⟨fun hparam => ?_, fun _ => ?_, fun _ r request hoffers hquery => ?_⟩
  · rw [hnone] at hparam
    cases hparam
  · rw [hadded]
    rfl
  · refine Recipient.follow_of_offers hoffers ?_
    cases hold : olderTenantParam (tools.params location) with
    | none =>
      rw [hold] at holder'
      exact selectedTenantOf_security hquery holder' hadded htenant
    | some older =>
      rw [hold, holder older hold] at holder'
      exact selectedTenantOf_older hquery holder'

/-- A recipient to whom the tenant of the older parameter is available as well ends up there. -/
theorem older_eq_of_keeps (hfaithful : tools.Faithful)
    (hlocation : resolvedLocation tools pathname tenant location =
      tools.modifyUrl location (addSecurityTenant tenant))
    (hnone : (tools.params location).lookup "security_tenant" = none)
    (hkeeps : KeepsShortLinkTenant tools toLowerCase pathname tenant location) {older : String}
    (holder : olderTenantParam (tools.params location) = some older) : older = tenant := by
  have holder' : olderTenantParam (tools.params (resolvedLocation tools pathname tenant
      location)) = some older := by
    rw [hlocation, olderTenantParam_modified hfaithful, holder]
  have hquery : (queryRequest (tools.params (resolvedLocation tools pathname tenant
      location))).HasQuery _ := rfl
  have hresolved := hkeeps.resolved hnone (Recipient.memberOf [tenant, older])
    (queryRequest _) (Recipient.memberOf_offers (by simp)) hquery
  have hseen := Recipient.memberOf_follow toLowerCase [tenant, older] (by simp) {}
    (selectedTenantOf_older hquery holder')
  exact Option.some.inj (Except.ok.inj (hseen.symm.trans hresolved))

/-- A short link takes the tenant along exactly if its location names one already, or the tenant is
not the global one and the location neither contains the name of the parameter nor names another
tenant in an older parameter. -/
theorem shortLink_keepsTenant_iff (hfaithful : tools.Faithful)
    (hshort : Js.startsWith pathname (GOTO_PREFIX ++ "/") = true) :
    KeepsShortLinkTenant tools toLowerCase pathname tenant location ↔
      ShortLinkTakesTenant tools tenant location := by
  by_cases hparam : ((tools.params location).lookup "security_tenant").isSome = true
  · exact ⟨fun _ => Or.inl hparam, fun _ => keeps_of_param hfaithful hshort hparam⟩
  have hnone : (tools.params location).lookup "security_tenant" = none :=
    Option.not_isSome_iff_eq_none.mp hparam
  have hlocation := resolvedLocation_eq tools tenant location hshort
  constructor
  · intro hkeeps
    by_cases hmodified : location ≠ "" ∧ Js.includes location "security_tenant" = false ∧
        tenant ≠ ""
    · obtain ⟨hpresent, hincludes, htenant⟩ := hmodified
      rw [if_pos ⟨hpresent, hincludes, htenant⟩] at hlocation
      exact Or.inr ⟨hpresent, htenant, hincludes, fun _ holder =>
        older_eq_of_keeps hfaithful hlocation hnone hkeeps holder⟩
    · have hcarried := hkeeps.carried hnone
      rw [hlocation, if_neg hmodified, hnone] at hcarried
      cases hcarried
  · rintro (h | ⟨hpresent, htenant, hincludes, holder⟩)
    · exact absurd h hparam
    · rw [if_pos ⟨hpresent, hincludes, htenant⟩] at hlocation
      exact keeps_of_modified hfaithful htenant hlocation hnone holder

end ShortLinks

namespace Sample

open UrlEncoding

/-- The parts of the text of a URL before its query and after it. -/
def beforeQuery (url : List Char) : List Char :=
  url.takeWhile fun c => decide (c ≠ '?') && decide (c ≠ '#')

def fragmentText (url : List Char) : List Char := url.dropWhile (· ≠ '#')

def urlTools : UrlTools where
  params location := formParse (queryText location.toList)
  modifyUrl location change := String.ofList (beforeQuery location.toList ++
    '?' :: formSerialize (change (formParse (queryText location.toList))) ++
    fragmentText location.toList)

theorem fragmentText_shape (url : List Char) :
    fragmentText url = [] ∨ ∃ text, fragmentText url = '#' :: text := by
  induction url with
  | nil => exact Or.inl rfl
  | cons c url ih =>
    by_cases hc : c = '#'
    · exact Or.inr ⟨url, by rw [hc]; rfl⟩
    · rw [fragmentText, List.dropWhile_cons_of_pos (by simpa using hc)]
      exact ih

theorem urlTools_faithful : urlTools.Faithful := by
  intro location tenant name
  have hpath : ∀ c ∈ beforeQuery location.toList, c ≠ '?' ∧ c ≠ '#' := by
    intro c hc
    simpa using List.mem_takeWhile_imp hc
  have hsafe : ∀ params, '#' ∉ formSerialize params := fun params =>
    not_mem_formSerialize (by decide) (by decide) (by decide) (by decide) (by decide)
  simp only [urlTools, String.toList_ofList]
  rw [queryText_eq hpath (hsafe _) (fragmentText_shape _), formParse_formSerialize]

/-- The tenant of a page with a query and a hash is added to the query. -/
theorem shortLink_keepsAnalysts :
    resolvedLocation urlTools "/goto/abc" "analysts" "/app/home?x=1#/view" =
        "/app/home?x=1&security_tenant=analysts#/view" ∧
      KeepsShortLinkTenant urlTools asciiToLowerCase "/goto/abc" "analysts" "/app/home?x=1#/view" := by
  refine ⟨by decide, (shortLink_keepsTenant_iff urlTools_faithful (by decide)).mpr (Or.inr ?_)⟩
  exact ⟨by decide, by decide, by decide, by decide⟩

/-- The global tenant is not added, and a recipient stays in the tenant of the own cookie. -/
theorem shortLink_losesGlobal :
    resolvedLocation urlTools "/goto/abc" "" "/app/home" = "/app/home" ∧
      (Recipient.memberOf ["analysts"]).Offers "" ∧
      ({ Recipient.memberOf ["analysts"] with cookie := { tenant := some "analysts" } } :
          Recipient).follow asciiToLowerCase { url := { pathname := "/app/home" } } =
        .ok (some "analysts") ∧
      ¬ KeepsShortLinkTenant urlTools asciiToLowerCase "/goto/abc" "" "/app/home" := by
  refine ⟨by decide, ⟨⟨rfl, Or.inl rfl⟩, rfl⟩, by decide, fun hkeeps => ?_⟩
  have hcarried := hkeeps.carried (by decide)
  revert hcarried
  decide

end Sample

end SecurityDashboards
