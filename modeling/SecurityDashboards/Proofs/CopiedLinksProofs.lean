import SecurityDashboards.Proofs.SharedLinksProofs
import SecurityDashboards.ResourceNames

/-!
# Proofs: the tenant of a copied link

The name of a tenant is written as HTML on the server and read as JSON in the browser before it
becomes a parameter. `linkName` is what is left of it, and `Means` says when the server finds the
tenant under that name.
-/

namespace SecurityDashboards

namespace SharePlatform

variable {platform : SharePlatform} {toLowerCase : String → String} {tenant url link : String}
  {parsed : ShareUrl}

/-! ### What the link says -/

/-- The name of the tenant in the link. -/
def linkName (platform : SharePlatform) (tenant : String) : String :=
  (platform.parseBody (platform.encode tenant)).shareName

theorem addTenantToShareURL_eq :
    platform.addTenantToShareURL (some { tenant := some tenant }) =
      some (platform.linkName tenant) := rfl

theorem shareName_falsy {body : FetchedValue} (h : body.truthy = false) :
    body.shareName = "global" := by
  rw [FetchedValue.shareName, h]
  rfl

theorem shareName_private : (FetchedValue.text PRIVATE_TENANT_SYMBOL).shareName = "private" := rfl

theorem shareName_other {body : FetchedValue} (htruthy : body.truthy = true)
    (hprivate : body ≠ .text PRIVATE_TENANT_SYMBOL) : body.shareName = body.asString := by
  rw [FetchedValue.shareName, htruthy, if_neg (by decide), if_neg hprivate]

theorem linkName_global (hdoc : platform.Documented) : platform.linkName "" = "global" := by
  have hencode : platform.encode "" = "" := (hdoc.encode_eq_iff "").mpr (by simp)
  rw [linkName, hencode, hdoc.names "" (by simp)]
  rfl

theorem linkName_private (hdoc : platform.Documented) :
    platform.linkName PRIVATE_TENANT_SYMBOL = "private" := by
  have hencode : platform.encode PRIVATE_TENANT_SYMBOL = PRIVATE_TENANT_SYMBOL :=
    (hdoc.encode_eq_iff _).mpr hdoc.noEntity
  rw [linkName, hencode, hdoc.names _ (by simp), shareName_private]

theorem linkName_of_passes (hdoc : platform.Documented) (hcustom : IsCustom tenant)
    (h : platform.PassesUnchanged tenant) : platform.linkName tenant = tenant := by
  obtain ⟨hentities, htruthy, hsame⟩ := h
  have hencode : platform.encode tenant = tenant := (hdoc.encode_eq_iff tenant).mpr hentities
  have hbody : platform.parseBody tenant ≠ .text PRIVATE_TENANT_SYMBOL := by
    intro hbody
    rw [hbody] at hsame
    exact hcustom.2 hsame.symm
  rw [linkName, hencode, shareName_other htruthy hbody, hsame]

/-- A name with an entity arrives in its encoded form. -/
theorem linkName_encoded (hdoc : platform.Documented) (h : platform.encode tenant ≠ tenant) :
    platform.linkName tenant = platform.encode tenant := by
  have hampersand := hdoc.ampersand tenant h
  have hbody : platform.parseBody (platform.encode tenant) = .text (platform.encode tenant) :=
    hdoc.text _ hampersand (hdoc.quotes tenant)
  have htruthy : (FetchedValue.text (platform.encode tenant)).truthy = true := by
    have hne : platform.encode tenant ≠ "" := by
      intro hempty
      rw [hempty] at hampersand
      cases hampersand
    simpa [FetchedValue.truthy] using hne
  have hprivate : FetchedValue.text (platform.encode tenant) ≠ .text PRIVATE_TENANT_SYMBOL := by
    intro hsame
    rw [FetchedValue.text.inj hsame] at hampersand
    revert hampersand
    decide
  rw [linkName, hbody, shareName_other htruthy hprivate]
  rfl

theorem passes_of_linkName (hdoc : platform.Documented) (h : platform.linkName tenant = tenant) :
    platform.PassesUnchanged tenant := by
  have hencode : platform.encode tenant = tenant := by
    by_contra hencode
    exact hencode ((linkName_encoded hdoc hencode).symm.trans h)
  rw [linkName, hencode] at h
  have htruthy : (platform.parseBody tenant).truthy = true := by
    by_contra hfalsy
    rw [Bool.not_eq_true] at hfalsy
    have hname : "global" = tenant := (shareName_falsy hfalsy).symm.trans h
    rw [← hname, hdoc.names "global" (by simp)] at hfalsy
    cases hfalsy
  have hprivate : platform.parseBody tenant ≠ .text PRIVATE_TENANT_SYMBOL := by
    intro hbody
    rw [hbody, shareName_private] at h
    rw [← h, hdoc.names "private" (by simp)] at hbody
    exact absurd (FetchedValue.text.inj hbody) (by decide)
  exact ⟨(hdoc.encode_eq_iff tenant).mp hencode, htruthy,
    (shareName_other htruthy hprivate).symm.trans h⟩

/-! ### The query of the link -/

theorem copiedLink_eq (hparse : platform.parseUrl url = some parsed)
    (hadds : parsed.params.lookup "security_tenant" = none) :
    platform.copiedLink tenant url =
      some (Js.replaceString url url (parsed.withTenant (platform.linkName tenant))) := by
  have horiginal : (if truthyString (some url) then (some url).getD "" else url) = url := ite_self _
  unfold copiedLink
  rw [addTenantToShareURL_eq, Option.bind_some, updateClipboard, hparse, Option.bind_some, hadds,
    if_neg (by decide)]
  dsimp only
  rw [horiginal]

/-- What is copied has the parameters of the URL and the tenant. In a path, `$&` would stand for the
URL itself, with the query of its own. -/
theorem formParse_link (url : String) {parsed : ShareUrl} (hpath : ¬ ['$', '&'] <:+: parsed.base)
    (name : String) :
    UrlEncoding.formParse (UrlEncoding.queryText
        (Js.replaceString url url (parsed.withTenant name)).toList) =
      parsed.params ++ [("security_tenant", name)] := by
  let query := UrlEncoding.formSerialize (parsed.params ++ [("security_tenant", name)])
  have hquestion : '?' ∉ ['$', '&', '`', '\''] := by decide
  obtain ⟨base, hmem, hselect⟩ := Js.substitution_select url.toList hquestion
    (query ++ parsed.hash) hpath
  have hplain : '$' ∉ '?' :: query := by
    intro h
    rcases List.mem_cons.mp h with h | h
    · exact absurd h (by decide)
    · exact UrlEncoding.not_mem_formSerialize (by decide) (by decide) (by decide) (by decide)
        (by decide) h
  have hhash : Js.substitution [] url.toList [] parsed.hash = [] ∨
      ∃ text, Js.substitution [] url.toList [] parsed.hash = '#' :: text := by
    rcases parsed.hash_shape with h | ⟨text, h⟩
    · rw [h]
      exact Or.inl rfl
    · rw [h]
      exact Or.inr ⟨_, Js.substitution_cons (by decide) _⟩
  have hbase : ∀ c ∈ base, c ≠ '?' ∧ c ≠ '#' := fun c hc => parsed.base_plain c (hmem c hc)
  have hsafe : '#' ∉ query := UrlEncoding.not_mem_formSerialize (by decide) (by decide) (by decide)
    (by decide) (by decide)
  have htext : (Js.replaceString url url (parsed.withTenant name)).toList =
      base ++ '?' :: query ++ Js.substitution [] url.toList [] parsed.hash := by
    rw [Js.replaceString_self, String.toList_ofList, ShareUrl.withTenant, String.toList_ofList,
      List.append_assoc, List.cons_append, hselect, ← List.cons_append,
      Js.substitution_append hplain, List.append_assoc]
  rw [htext, UrlEncoding.queryText_eq hbase hsafe hhash, UrlEncoding.formParse_formSerialize]

theorem olderTenantParam_link (params : QueryParams) (name : String) :
    olderTenantParam (params ++ [("security_tenant", name)]) = olderTenantParam params := by
  refine olderTenantParam_congr fun older holder => ?_
  have hne : older ≠ "security_tenant" := by
    rintro rfl
    exact absurd holder (by decide)
  rw [List.lookup_append]
  simp [List.lookup_cons, beq_false_of_ne hne]

theorem lookup_link {params : QueryParams} (hadds : params.lookup "security_tenant" = none)
    (name : String) :
    (params ++ [("security_tenant", name)]).lookup "security_tenant" = some name := by
  rw [List.lookup_append, hadds]
  rfl

/-! ### What the name means to a recipient -/

section Name

variable {available : Tenants} {name : String}

/-- Only the tenant itself means a custom tenant. -/
theorem means_iff_eq (hcustom : IsCustom tenant) : Means name tenant available ↔ name = tenant := by
  refine or_iff_left ?_
  rintro ⟨⟨hglobal, -⟩ | ⟨hprivate, -⟩, -⟩
  · exact hcustom.1 hglobal
  · exact hcustom.2 hprivate

theorem means_spelling (hspells : Spells name tenant) (hne : name ≠ tenant) :
    Means name tenant available ↔ ¬ available.has name = true := by
  rw [Bool.not_eq_true]
  exact (or_iff_right hne).trans (and_iff_right hspells)

/-- The name in the link means the tenant, unless it is a custom one whose name was changed, or the
list has a tenant of that name. -/
theorem means_linkName_iff (hdoc : platform.Documented) :
    Means (platform.linkName tenant) tenant available ↔
      (IsCustom tenant → platform.PassesUnchanged tenant) ∧ ¬ Clashes tenant available := by
  by_cases hglobal : tenant = GLOBAL_TENANT_SYMBOL
  · have hnotcustom : ¬ IsCustom tenant := fun hcustom => hcustom.1 hglobal
    have hnotprivate : tenant ≠ PRIVATE_TENANT_SYMBOL := by rw [hglobal]; decide
    have hname : platform.linkName tenant = "global" := by rw [hglobal]; exact linkName_global hdoc
    have hspells : Spells "global" tenant := Or.inl ⟨hglobal, by decide⟩
    have hclash : Clashes tenant available ↔ available.has "global" = true :=
      (or_iff_left fun h => hnotprivate h.1).trans (and_iff_right hglobal)
    rw [hname, means_spelling hspells (by rw [hglobal]; decide), hclash,
      and_iff_right fun hcustom => absurd hcustom hnotcustom]
  by_cases hprivate : tenant = PRIVATE_TENANT_SYMBOL
  · have hnotcustom : ¬ IsCustom tenant := fun hcustom => hcustom.2 hprivate
    have hname : platform.linkName tenant = "private" := by
      rw [hprivate]
      exact linkName_private hdoc
    have hspells : Spells "private" tenant := Or.inr ⟨hprivate, by decide⟩
    have hclash : Clashes tenant available ↔ available.has "private" = true :=
      (or_iff_right fun h => hglobal h.1).trans (and_iff_right hprivate)
    rw [hname, means_spelling hspells (by rw [hprivate]; decide), hclash,
      and_iff_right fun hcustom => absurd hcustom hnotcustom]
  · have hcustom : IsCustom tenant := ⟨hglobal, hprivate⟩
    have hnoclash : ¬ Clashes tenant available := by
      rintro (⟨h, -⟩ | ⟨h, -⟩)
      · exact hglobal h
      · exact hprivate h
    rw [means_iff_eq hcustom, and_iff_left hnoclash]
    exact ⟨fun hname _ => passes_of_linkName hdoc hname,
      fun hpasses => linkName_of_passes hdoc hcustom (hpasses hcustom)⟩

/-- Only the name of a custom tenant may be lost altogether. -/
theorem isCustom_of_linkName_empty (hdoc : platform.Documented)
    (hempty : platform.linkName tenant = "") : IsCustom tenant := by
  refine ⟨?_, ?_⟩
  · rintro rfl
    rw [GLOBAL_TENANT_SYMBOL, linkName_global hdoc] at hempty
    exact absurd hempty (by decide)
  · rintro rfl
    rw [linkName_private hdoc] at hempty
    exact absurd hempty (by decide)

end Name

section Follow

variable {r : Recipient} {request : Request} {name : String}

theorem follow_listed (hactive : (r.resolution none).Active)
    (hlisted : r.availableTenants.has name = true)
    (h : selectedTenantOf request r.cookie r.multitenancyEnabled r.defaultTenant = some name) :
    r.follow toLowerCase request = .ok (some name) := by
  rw [Recipient.follow_selected h]
  exact Resolution.result_requesting_name hactive (if_pos hlisted)

/-- A name that is not listed stands for the tenant that it spells, and otherwise for none. -/
theorem follow_unlisted (hactive : (r.resolution none).Active)
    (hlisted : r.availableTenants.has name = false)
    (h : selectedTenantOf request r.cookie r.multitenancyEnabled r.defaultTenant = some name) :
    r.follow toLowerCase request =
      match (r.resolution none).aliasOf name with
      | some t => .ok (some t)
      | none => (r.resolution none).result toLowerCase := by
  rw [Recipient.follow_selected h]
  cases halias : (r.resolution none).aliasOf name with
  | some t =>
    refine Resolution.result_requesting_name hactive ?_
    rw [if_neg (by rw [Bool.not_eq_true]; exact hlisted), halias]
  | none =>
    have hactive' : ((r.resolution none).requesting name).Active := hactive
    have hpicked : (((r.resolution none).requesting name).requestedTenant.bind fun k =>
        if ((r.resolution none).requesting name).availableTenants.has k then some k
        else ((r.resolution none).requesting name).aliasOf k) = none :=
      (if_neg (by rw [Bool.not_eq_true]; exact hlisted)).trans halias
    rw [Resolution.result_of_active hactive', Resolution.result_of_active hactive, hpicked]
    rfl

/-- A name leads to the tenant that it means. -/
theorem follow_of_means (hoffers : r.Offers tenant)
    (hmeans : Means name tenant r.availableTenants)
    (h : selectedTenantOf request r.cookie r.multitenancyEnabled r.defaultTenant = some name) :
    r.follow toLowerCase request = .ok (some tenant) := by
  rcases hmeans with rfl | ⟨⟨rfl, hname⟩ | ⟨rfl, hname⟩, hlisted⟩
  · exact Recipient.follow_of_offers hoffers h
  · have henabled : (r.resolution none).globalTenantEnabled = true := hoffers.2
    have hglobal : GLOBAL_TENANTS.contains name = true := List.contains_iff_mem.mpr hname
    rw [follow_unlisted hoffers.1 hlisted h, Resolution.aliasOf, henabled, hglobal]
    rfl
  · have hprivate : truthyFlag r.privateTenantEnabled = true ∧
        r.availableTenants.has r.username = true := hoffers.2
    have henabled : (r.resolution none).privateEnabled = true := hprivate.1
    have huser : (r.resolution none).availableTenants.has (r.resolution none).username = true :=
      hprivate.2
    have hyes : PRIVATE_TENANTS.contains name = true := List.contains_iff_mem.mpr hname
    have hno : GLOBAL_TENANTS.contains name = false := by
      by_contra hglobal
      rw [Bool.not_eq_false] at hglobal
      rw [Resolution.not_private_of_global hglobal] at hyes
      cases hyes
    rw [follow_unlisted hoffers.1 hlisted h, Resolution.aliasOf, henabled, huser, hyes, hno,
      Bool.and_false]
    rfl

/-- A name that is not listed and does not mean the tenant stands for another one, or for none. -/
theorem aliasOf_ne (hlisted : r.availableTenants.has name = false)
    (hmeans : ¬ Means name tenant r.availableTenants) :
    (r.resolution none).aliasOf name ≠ some tenant := by
  intro halias
  refine hmeans (Or.inr ⟨?_, hlisted⟩)
  unfold Resolution.aliasOf at halias
  split_ifs at halias with hglobal hprivate
  · rw [Bool.and_eq_true] at hglobal
    exact Or.inl ⟨(Option.some.inj halias).symm, List.contains_iff_mem.mp hglobal.2⟩
  · rw [Bool.and_eq_true, Bool.and_eq_true] at hprivate
    exact Or.inr ⟨(Option.some.inj halias).symm, List.contains_iff_mem.mp hprivate.1.2⟩

/-- A recipient whom the name does not tell anything goes wherever the others go without a name. -/
theorem follow_ne_of_fallback (hactive : (r.resolution none).Active)
    (hmeans : ¬ Means name tenant r.availableTenants)
    (hfallback : ∃ other, other ≠ tenant ∧
      (r.resolution none).result toLowerCase = .ok (some other))
    (h : selectedTenantOf request r.cookie r.multitenancyEnabled r.defaultTenant = some name) :
    r.follow toLowerCase request ≠ .ok (some tenant) := by
  intro hlead
  cases hlisted : r.availableTenants.has name with
  | true =>
    rw [follow_listed hactive hlisted h] at hlead
    exact hmeans (Or.inl (Option.some.inj (Except.ok.inj hlead)))
  | false =>
    rw [follow_unlisted hactive hlisted h] at hlead
    cases halias : (r.resolution none).aliasOf name with
    | some t =>
      rw [halias] at hlead
      exact aliasOf_ne hlisted hmeans (halias.trans (congrArg some (Option.some.inj
        (Except.ok.inj hlead))))
    | none =>
      obtain ⟨other, hne, hother⟩ := hfallback
      rw [halias] at hlead
      exact hne (Option.some.inj (Except.ok.inj (hother.symm.trans hlead)))

end Follow

/-! ### Recipients with the same tenants -/

/-- A recipient who may use the global tenant and would get it without a name. -/
def prefersGlobal (r : Recipient) : Recipient :=
  { r with
    config.multitenancy.tenants.enable_global := true
    config.multitenancy.tenants.preferred := [] }

/-- A recipient with a private tenant who would get it without a name. Every object inherits the
name of this user. -/
def prefersPrivate (r : Recipient) : Recipient :=
  { r with
    username := "constructor"
    privateTenantEnabled := some true
    config.multitenancy.tenants.preferred := ["private"] }

theorem prefersGlobal_offers {r : Recipient} (hglobal : tenant ≠ GLOBAL_TENANT_SYMBOL)
    (hoffers : r.Offers tenant) : (prefersGlobal r).Offers tenant := by
  obtain ⟨⟨henabled, -⟩, hoffers⟩ := hoffers
  refine ⟨⟨henabled, Or.inl rfl⟩, ?_⟩
  rw [if_neg hglobal] at hoffers ⊢
  exact hoffers

theorem prefersGlobal_result {r : Recipient} (hactive : (r.resolution none).Active) :
    ((prefersGlobal r).resolution none).result toLowerCase = .ok (some GLOBAL_TENANT_SYMBOL) := by
  refine Resolution.result_global ⟨hactive.1, Or.inl rfl⟩ (Or.inr ⟨⟨?_, rfl⟩, rfl⟩)
  rintro k ⟨⟩

theorem prefersPrivate_offers {r : Recipient} (hoffers : r.Offers GLOBAL_TENANT_SYMBOL) :
    (prefersPrivate r).Offers GLOBAL_TENANT_SYMBOL :=
  ⟨⟨hoffers.1.1, Or.inl hoffers.2⟩, hoffers.2⟩

theorem prefersPrivate_result {r : Recipient} (hlower : toLowerCase "private" = "private")
    (hactive : (r.resolution none).Active) :
    ((prefersPrivate r).resolution none).result toLowerCase =
      .ok (some PRIVATE_TENANT_SYMBOL) := by
  have huser : ((prefersPrivate r).resolution none).availableTenants.has "constructor" = true :=
    Js.PlainObject.has_iff.mpr (Or.inr (by decide))
  have hno : GLOBAL_TENANTS.contains "private" = false := by decide
  have hyes : PRIVATE_TENANTS.contains "private" = true := by decide
  have halias : ((prefersPrivate r).resolution none).aliasOf "private" =
      some PRIVATE_TENANT_SYMBOL := by
    have henabled : ((prefersPrivate r).resolution none).privateEnabled = true := rfl
    have hname : ((prefersPrivate r).resolution none).username = "constructor" := rfl
    rw [Resolution.aliasOf, henabled, hname, huser, hno, hyes, Bool.and_false]
    rfl
  have husable : ((prefersPrivate r).resolution none).usable "private" = true := by
    rw [Resolution.usable, halias, Option.isSome_some, Bool.or_true]
  have hfirst : ((prefersPrivate r).resolution none).firstUsable toLowerCase = some "private" := by
    have hlist : ((((prefersPrivate r).resolution none).preferredTenants.getD []).map
        toLowerCase) = [toLowerCase "private"] := rfl
    rw [Resolution.firstUsable, hlist, hlower, List.find?_cons_of_pos husable]
  refine Resolution.result_private ⟨hactive.1, Or.inr (Or.inl rfl)⟩
    (Or.inl (Or.inr ⟨?_, "private", hfirst, halias⟩))
  rintro k ⟨⟩

/-- If the name does not mean the tenant, someone with the same tenants gets another one. -/
theorem exists_misled {r : Recipient} {name : String} (request : Request)
    (hlower : toLowerCase "private" = "private") (hoffers : r.Offers tenant)
    (hmeans : ¬ Means name tenant r.availableTenants)
    (hselected : ∀ (cookie : SecuritySessionCookie) multitenancyEnabled defaultTenant,
      cookie.tenant = some name →
      selectedTenantOf request cookie multitenancyEnabled defaultTenant = some name) :
    ∃ peer : Recipient, peer.availableTenants = r.availableTenants ∧ peer.Offers tenant ∧
      peer.follow toLowerCase request ≠ .ok (some tenant) := by
  let cookie : SecuritySessionCookie := { tenant := some name }
  by_cases hglobal : tenant = GLOBAL_TENANT_SYMBOL
  · subst hglobal
    have hpeer := prefersPrivate_offers hoffers
    refine ⟨{ prefersPrivate r with cookie }, rfl, hpeer, ?_⟩
    exact follow_ne_of_fallback (r := { prefersPrivate r with cookie }) hpeer.1 hmeans
      ⟨_, by decide, prefersPrivate_result (r := r) hlower hoffers.1⟩ (hselected cookie _ _ rfl)
  · have hpeer := prefersGlobal_offers hglobal hoffers
    refine ⟨{ prefersGlobal r with cookie }, rfl, hpeer, ?_⟩
    exact follow_ne_of_fallback (r := { prefersGlobal r with cookie }) hpeer.1 hmeans
      ⟨_, Ne.symm hglobal, prefersGlobal_result (r := r) hoffers.1⟩ (hselected cookie _ _ rfl)

/-! ### Where the link leads -/

section Link

variable {params : QueryParams} {r : Recipient}
  (hquery : UrlEncoding.formParse (UrlEncoding.queryText link.toList) = params)

include hquery

/-- The name in the query leads all recipients with these tenants to the tenant exactly if it means
it to them. -/
theorem leadsAll_iff_means {name : String} (hlower : toLowerCase "private" = "private")
    (hoffers : r.Offers tenant)
    (hselected : ∀ request : Request, request.HasQuery params → ∀ cookie multitenancyEnabled
      defaultTenant, selectedTenantOf request cookie multitenancyEnabled defaultTenant =
        some name) :
    LeadsAll toLowerCase tenant link r.availableTenants ↔
      Means name tenant r.availableTenants := by
  constructor
  · intro hleads
    by_contra hmeans
    obtain ⟨peer, hsame, hpeer, hother⟩ := exists_misled (queryRequest params) hlower hoffers hmeans
      fun cookie multitenancyEnabled defaultTenant _ =>
        hselected (queryRequest params) rfl cookie multitenancyEnabled defaultTenant
    exact hother (hleads peer hsame hpeer (queryRequest params) hquery.symm)
  · intro hmeans peer hsame hpeer request hrequest
    rw [hquery] at hrequest
    rw [← hsame] at hmeans
    exact follow_of_means hpeer hmeans (hselected request hrequest _ _ _)

theorem leadsAll_iff_saysTenant (hdoc : platform.Documented)
    (hlower : toLowerCase "private" = "private") (hoffers : r.Offers tenant)
    (hsecurity : params.lookup "security_tenant" = some (platform.linkName tenant)) :
    LeadsAll toLowerCase tenant link r.availableTenants ↔
      platform.SaysTenant params tenant r.availableTenants := by
  unfold SaysTenant
  cases holder : olderTenantParam params with
  | some older =>
    exact leadsAll_iff_means hquery hlower hoffers fun request hrequest _ _ _ =>
      selectedTenantOf_older hrequest holder
  | none =>
    dsimp only
    rw [← means_linkName_iff hdoc]
    by_cases hempty : platform.linkName tenant = ""
    · -- the query says nothing, and the tenant of the cookie may be the global one
      have hcustom := isCustom_of_linkName_empty hdoc hempty
      have hmeans : ¬ Means (platform.linkName tenant) tenant r.availableTenants := by
        rw [means_iff_eq hcustom, hempty]
        exact fun h => hcustom.1 h.symm
      refine iff_of_false (fun hleads => ?_) hmeans
      rw [hempty] at hsecurity hmeans
      obtain ⟨peer, hsame, hpeer, hother⟩ := exists_misled (queryRequest params) hlower
        hoffers hmeans fun cookie multitenancyEnabled defaultTenant hcookie =>
          (selectedTenantOf_cookie holder hsecurity (by rw [hcookie]; rfl)).trans hcookie
      exact hother (hleads peer hsame hpeer (queryRequest params) hquery.symm)
    · exact leadsAll_iff_means hquery hlower hoffers fun request hrequest _ _ _ =>
        selectedTenantOf_security hrequest holder hsecurity hempty

end Link

/-- A copied link leads all recipients with the same tenants to the tenant of the sharer exactly if
it says the tenant to them. -/
theorem copiedLink_leads_iff (toLowerCase : String → String) (tenant : String)
    (hlower : toLowerCase "private" = "private") (hdoc : platform.Documented)
    (hparse : platform.parseUrl url = some parsed)
    (hadds : parsed.params.lookup "security_tenant" = none)
    (hpath : ¬ ['$', '&'] <:+: parsed.base) :
    ∃ link, platform.copiedLink tenant url = some link ∧
      ∀ r : Recipient, r.Offers tenant →
        (LeadsAll toLowerCase tenant link r.availableTenants ↔
          platform.SaysTenant parsed.params tenant r.availableTenants) := by
  have hquery := formParse_link url hpath (platform.linkName tenant)
  have hsecurity := lookup_link hadds (platform.linkName tenant)
  have holder := olderTenantParam_link parsed.params (platform.linkName tenant)
  refine ⟨_, copiedLink_eq hparse hadds, fun r hoffers => ?_⟩
  have hleads := leadsAll_iff_saysTenant hquery hdoc hlower hoffers hsecurity
  rwa [SaysTenant, holder, ← SaysTenant] at hleads

end SharePlatform

namespace Sample

open UrlEncoding SharePlatform

/-! ### A platform -/

def entities : List (Char × String) :=
  [('&', "amp"), ('<', "lt"), ('>', "gt"), ('"', "quot"), ('\'', "apos")]

def encodeChar (c : Char) : List Char :=
  ((entities.lookup c).map fun name => '&' :: name.toList ++ [';']).getD [c]

/-- The client reads some names as JSON. -/
def parseBody (body : String) : FetchedValue :=
  if body = "null" ∨ body = "false" ∨ body = "0" then .other false body
  else if body = "true" then .other true body
  else .text body

theorem beforeQuery_plain {url : List Char} {c : Char} (hc : c ∈ beforeQuery url) :
    c ≠ '?' ∧ c ≠ '#' := by
  simpa using List.mem_takeWhile_imp hc

def parseUrl (url : String) : Option ShareUrl :=
  some
    { base := beforeQuery url.toList
      params := formParse (queryText url.toList)
      hash := fragmentText url.toList
      base_plain := fun _ hc => beforeQuery_plain hc
      hash_shape := fragmentText_shape url.toList }

def sharePlatform : SharePlatform where
  encode s := String.ofList (s.toList.flatMap encodeChar)
  hasEntity c := (entities.lookup c).isSome
  parseBody := parseBody
  parseUrl := parseUrl

theorem parseUrl_parts (url : String) :
    ∃ parsed, sharePlatform.parseUrl url = some parsed ∧
      parsed.base = beforeQuery url.toList ∧
      parsed.params = formParse (queryText url.toList) :=
  ⟨_, rfl, rfl, rfl⟩

theorem encodeChar_plain {c : Char} (h : (entities.lookup c).isSome = false) :
    encodeChar c = [c] := by
  rw [encodeChar, Option.isSome_eq_false_iff.mp h |> Option.isNone_iff_eq_none.mp]
  rfl

/-- The entity of a character begins with an ampersand and has more characters. -/
theorem encodeChar_entity {c : Char} (h : (entities.lookup c).isSome = true) :
    ∃ text, text ≠ [] ∧ encodeChar c = '&' :: text := by
  obtain ⟨name, hname⟩ := Option.isSome_iff_exists.mp h
  refine ⟨name.toList ++ [';'], by simp, ?_⟩
  rw [encodeChar, hname]
  rfl

theorem quote_not_mem_encodeChar (c : Char) : '"' ∉ encodeChar c := by
  cases h : entities.lookup c with
  | none =>
    rw [encodeChar_plain (by rw [h]; rfl), List.mem_singleton]
    rintro rfl
    cases h
  | some name =>
    have hnames : ∀ entry ∈ entities, '"' ∉ '&' :: entry.2.toList ++ [';'] := by decide
    obtain ⟨before, after, hentry, -⟩ := List.lookup_eq_some_iff.mp h
    rw [encodeChar, h]
    exact hnames (c, name) (by rw [hentry]; simp)

theorem length_encodeChar (c : Char) : 1 ≤ (encodeChar c).length := by
  cases h : (entities.lookup c).isSome with
  | false => rw [encodeChar_plain h]; exact le_rfl
  | true =>
    obtain ⟨text, -, heq⟩ := encodeChar_entity h
    rw [heq]
    exact Nat.succ_pos _

theorem length_le_flatMap (l : List Char) : l.length ≤ (l.flatMap encodeChar).length := by
  induction l with
  | nil => exact le_rfl
  | cons c l ih =>
    have hc := length_encodeChar c
    rw [List.flatMap_cons, List.length_append, List.length_cons]
    omega

theorem flatMap_encodeChar_iff (l : List Char) :
    l.flatMap encodeChar = l ↔ ∀ c ∈ l, (entities.lookup c).isSome = false := by
  induction l with
  | nil => simp
  | cons c l ih =>
    rw [List.flatMap_cons, List.forall_mem_cons, ← ih]
    cases h : (entities.lookup c).isSome with
    | false =>
      rw [encodeChar_plain h]
      simp
    | true =>
      obtain ⟨text, htext, heq⟩ := encodeChar_entity h
      refine ⟨fun hsame => ?_, fun hfalse => absurd hfalse.1 (by decide)⟩
      have hlength := congrArg List.length hsame
      have hshort := length_le_flatMap l
      have hpos := List.length_pos_of_ne_nil htext
      rw [heq, List.length_append, List.length_cons, List.length_cons] at hlength
      omega

theorem encode_eq_iff (s : String) :
    sharePlatform.encode s = s ↔ ∀ c ∈ s.toList, sharePlatform.hasEntity c = false := by
  have hlist := flatMap_encodeChar_iff s.toList
  constructor
  · intro h
    refine hlist.mp ?_
    have h' := congrArg String.toList h
    rwa [sharePlatform, String.toList_ofList] at h'
  · intro h
    have h' : s.toList.flatMap encodeChar = s.toList := hlist.mpr h
    simp only [sharePlatform, h', String.ofList_toList]

theorem ampersand_mem_encode {s : String} (h : sharePlatform.encode s ≠ s) :
    '&' ∈ (sharePlatform.encode s).toList := by
  rw [ne_eq, encode_eq_iff] at h
  push Not at h
  obtain ⟨c, hc, hentity⟩ := h
  obtain ⟨text, -, htext⟩ := encodeChar_entity (Bool.eq_true_of_not_eq_false hentity)
  rw [sharePlatform, String.toList_ofList, List.mem_flatMap]
  exact ⟨c, hc, by rw [htext]; exact List.mem_cons_self⟩

theorem parseBody_of_ampersand {s : String} (h : '&' ∈ s.toList) : parseBody s = .text s := by
  have hjson : ∀ value ∈ ["null", "false", "0", "true"], s ≠ value := by
    rintro value hvalue rfl
    have hno : ∀ value ∈ ["null", "false", "0", "true"], '&' ∉ value.toList := by decide
    exact hno s hvalue h
  rw [parseBody, if_neg, if_neg (hjson "true" (by simp))]
  rintro (h | h | h)
  · exact hjson "null" (by simp) h
  · exact hjson "false" (by simp) h
  · exact hjson "0" (by simp) h

theorem sharePlatform_documented : sharePlatform.Documented where
  encode_eq_iff := encode_eq_iff
  ampersand _ h := ampersand_mem_encode h
  quotes s := by
    rw [sharePlatform, String.toList_ofList, List.mem_flatMap]
    rintro ⟨c, -, hquote⟩
    exact quote_not_mem_encodeChar c hquote
  noEntity := by decide
  text _ hampersand _ := parseBody_of_ampersand hampersand
  names := by decide

/-- A link to a page with a query and a hash leads to the custom tenant of the sharer. -/
theorem copiedLink_leadsAnalysts :
    sharePlatform.copiedLink "analysts" "https://host/app/home?x=1#/view" =
        some "https://host/app/home?x=1&security_tenant=analysts#/view" ∧
      ∃ link, sharePlatform.copiedLink "analysts" "https://host/app/home?x=1#/view" = some link ∧
        ∀ r : Recipient, r.Offers "analysts" → LeadsTo asciiToLowerCase "analysts" link r := by
  obtain ⟨parsed, hparsed, hbase, hparams⟩ := parseUrl_parts "https://host/app/home?x=1#/view"
  have holder : olderTenantParam parsed.params = none := by
    rw [hparams]
    decide
  obtain ⟨link, hlink, hleads⟩ := copiedLink_leads_iff asciiToLowerCase "analysts" (by decide)
    sharePlatform_documented hparsed (by rw [hparams]; decide) (by rw [hbase]; decide)
  refine ⟨by decide, link, hlink, fun r hoffers => (hleads r hoffers).mpr ?_ r rfl hoffers⟩
  rw [SaysTenant, holder]
  refine ⟨fun _ => ⟨by decide, by decide, by decide⟩, ?_⟩
  rintro (⟨h, -⟩ | ⟨h, -⟩)
  · exact absurd h (by decide)
  · exact absurd h (by decide)

/-- The characters of category C among the ASCII ones. -/
def isOther (c : Char) : Bool := c.toNat < 32 || c.toNat == 127

/-- The browser does not undo the entities, and a recipient with the tenant is in the global one. -/
theorem copiedLink_losesAmpersand :
    let link := "https://host/app/home?security_tenant=R%26amp%3BD"
    isValidResourceName isOther (JsText.ofString "R&D") = true ∧
      sharePlatform.copiedLink "R&D" "https://host/app/home" = some link ∧
      (Recipient.memberOf ["R&D"]).Offers "R&D" ∧
      (Recipient.memberOf ["R&D"]).follow asciiToLowerCase
        (queryRequest (formParse (queryText link.toList))) = .ok (some "") ∧
      ¬ LeadsTo asciiToLowerCase "R&D" link (Recipient.memberOf ["R&D"]) := by
  intro link
  have hlink : link = "https://host/app/home?security_tenant=R%26amp%3BD" := rfl
  have hseen : (Recipient.memberOf ["R&D"]).follow asciiToLowerCase
      (queryRequest (formParse (queryText link.toList))) = .ok (some "") := by
    rw [hlink]
    decide
  refine ⟨by decide, by decide, Recipient.memberOf_offers (by simp), hseen, fun hleads => ?_⟩
  have hlead := hleads (queryRequest (formParse (queryText link.toList))) rfl
  rw [hseen] at hlead
  exact absurd hlead (by decide)

end Sample

end SecurityDashboards
