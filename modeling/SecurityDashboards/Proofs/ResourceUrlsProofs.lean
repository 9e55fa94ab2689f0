import Mathlib.Data.List.TakeWhile
import SecurityDashboards.Lib.JsString
import SecurityDashboards.Proofs.UriDecodingProofs
import SecurityDashboards.ResourceUrls

/-!
# Proofs: links lead to their pages

`patternRoutes` is the table of routes by the parts of their patterns. What a link shows is found by
matching its segments with this table, whatever the name in it is.
-/

namespace SecurityDashboards

open Routing

namespace ResourceUrls

/-! ## Names -/

theorem mapM_eq_some {α β : Type} {f : α → Option β} {g : α → β} {l : List α}
    (h : ∀ x ∈ l, f x = some (g x)) : l.mapM f = some (l.map g) := by
  induction l with
  | nil => rfl
  | cons x l ih =>
    rw [List.mapM_cons, h x List.mem_cons_self, ih fun y hy => h y (List.mem_cons_of_mem _ hy)]
    rfl

theorem mapM_charOf (l : List Char) : (l.map CodePoint.char).mapM charOf = some l := by
  rw [List.mapM_map]
  exact (mapM_eq_some fun _ _ => rfl).trans (congrArg some (List.map_id l))

/-- A name without a forbidden code point has no surrogates. -/
theorem exists_chars {isOther : Char → Bool} {name : JsText}
    (h : ∀ c ∈ name, CodePoint.isForbidden isOther c = false) :
    ∃ l : List Char, name = l.map CodePoint.char ∧ '%' ∉ l := by
  induction name with
  | nil => exact ⟨[], rfl, List.not_mem_nil⟩
  | cons c name ih =>
    obtain ⟨l, rfl, hl⟩ := ih fun d hd => h d (List.mem_cons_of_mem _ hd)
    have hc := h c List.mem_cons_self
    cases c with
    | loneSurrogate unit => cases hc
    | char c =>
      refine ⟨c :: l, rfl, ?_⟩
      rintro hpercent
      rcases List.mem_cons.mp hpercent with rfl | hpercent
      · simp [CodePoint.isForbidden] at hc
      · exact hl hpercent

theorem exists_string_of_valid {isOther : Char → Bool} {name : JsText}
    (h : isValidResourceName isOther name = true) :
    ∃ s : String, name = JsText.ofString s ∧ s ≠ "" ∧ '%' ∉ s.toList := by
  obtain ⟨hany, hlength⟩ := Bool.and_eq_true_iff.mp h
  have hforbidden : ∀ c ∈ name, CodePoint.isForbidden isOther c = false := by
    simpa using hany
  obtain ⟨l, rfl, hl⟩ := exists_chars hforbidden
  refine ⟨String.ofList l, ?_, ?_, ?_⟩
  · rw [JsText.ofString, String.toList_ofList]
  · rintro hempty
    have hnil : l = [] := by simpa using hempty
    rw [hnil] at hlength
    cases hlength
  · rwa [String.toList_ofList]

/-! ## What is decoded -/

section Decode

variable {router : Router} {s : String}

theorem unsafe_percent : ∀ c : Char, (!Js.isUriUnreserved c) = false → c ≠ '%' := by
  rintro c hc rfl
  revert hc
  decide

/-- A segment that was handed out decoded or not is decoded to the name. -/
theorem decode_pass (hdoc : router.Documented) (h : '%' ∉ s.toList) :
    Js.decodeURIComponent (router.pass (Js.encodeURIComponent s)) = some s := by
  have hplain : ∀ inSet : Char → Bool, ∀ c ∈ s.toList, inSet c = false → c ≠ '%' := by
    rintro inSet c hc - rfl
    exact h hc
  have hdecoded : ∀ inSet : Char → Bool, Js.decodeURIComponent
      (String.ofList (UrlEncoding.percentEncode inSet s.toList)) = some s := by
    intro inSet
    rw [Js.decodeURIComponent_percentEncode (hplain inSet), String.ofList_toList]
  rcases hdoc.pass (Js.encodeURIComponent s) with hpass | hpass | hpass
  · rw [hpass]
    exact hdecoded _
  · rw [Js.encodeURIComponent, Js.decodeURI_percentEncode (hplain _)] at hpass
    rw [Js.encodeURIComponent, ← Option.some.inj hpass]
    exact hdecoded _
  · rw [Js.encodeURIComponent, hdecoded] at hpass
    rw [Js.encodeURIComponent, ← Option.some.inj hpass]
    have hself := hdecoded fun _ => false
    rwa [Js.percentEncode_false, String.ofList_toList] at hself

/-- The parameters whose segments encode these values. -/
def encodedParams (values : List (String × Option String)) : Params :=
  values.map fun value => (value.1, value.2.map Js.encodeURIComponent)

/-- The values as they reach a page. -/
def pageParams (values : List (String × Option String)) : List (String × Option JsText) :=
  values.map fun value => (value.1, value.2.map JsText.ofString)

theorem decodeParams_pass (hdoc : router.Documented) {values : List (String × Option String)}
    (h : ∀ value ∈ values, ∀ s, value.2 = some s → '%' ∉ s.toList) :
    decodeParams (router.passParams (encodedParams values)) = some (pageParams values) := by
  have hparam : ∀ value ∈ values, decodeParam (value.1,
      (value.2.map Js.encodeURIComponent).map router.pass) =
        some (value.1, value.2.map JsText.ofString) := by
    rintro ⟨name, value⟩ hmem
    cases value with
    | none => rfl
    | some s =>
      have hs : Js.decodeURIComponent (router.pass (Js.encodeURIComponent s)) = some s :=
        decode_pass hdoc (h _ hmem s rfl)
      rw [decodeParam, Option.map_some, Option.map_some]
      dsimp only
      rw [hs]
      rfl
  rw [decodeParams, Router.passParams, encodedParams, List.map_map, List.mapM_map]
  exact mapM_eq_some hparam

/-- A page gets the values that its segments encode. -/
theorem renderDecoded_pass (hdoc : router.Documented) (component : Component)
    {values : List (String × Option String)}
    (h : ∀ value ∈ values, ∀ s, value.2 = some s → '%' ∉ s.toList) :
    renderDecoded component (router.passParams (encodedParams values)) =
      some { component, params := pageParams values } := by
  rw [renderDecoded, decodeParams_pass hdoc h]
  rfl

end Decode

/-! ## Links -/

theorem encodeURIComponent_ofString (s : String) :
    encodeURIComponent (JsText.ofString s) = some (Js.encodeURIComponent s) := by
  rw [encodeURIComponent, JsText.ofString, mapM_charOf, Option.map_some, String.ofList_toList]

/-- The URL of a resource consists of four segments at most. -/
theorem buildUrl_resource (resouceType : ResourceType) (action : Action) {s : String} (h : s ≠ "")
    (subAction : Option String) :
    buildUrl (some resouceType) (some action) (some (JsText.ofString s)) subAction =
      some (pathText ([resouceType.text, action.text, Js.encodeURIComponent s] ++
        subAction.toList)) := by
  have hne : JsText.ofString s ≠ [] := by
    intro hnil
    exact h (String.toList_eq_nil_iff.mp (List.map_eq_nil_iff.mp hnil))
  obtain ⟨c, name, hname⟩ := List.exists_cons_of_ne_nil hne
  have hencoded := encodeURIComponent_ofString s
  rw [hname] at hencoded
  simp only [buildUrl, hname, hencoded, Option.map_some]
  cases subAction with
  | none => rfl
  | some subAction => rfl

namespace Link

/-- The segments of the URL, if the name of the resource is this one. -/
def segments (s : String) : Link → List String
  | landing => []
  | list resouceType => [resouceType.text]
  | createRole => ["roles", "create"]
  | viewRole _ => ["roles", "view", Js.encodeURIComponent s]
  | editRole _ => ["roles", "edit", Js.encodeURIComponent s]
  | duplicateRole _ => ["roles", "duplicate", Js.encodeURIComponent s]
  | editMappedUsers _ => ["roles", "edit", Js.encodeURIComponent s, "mapuser"]
  | viewMappedUsers _ => ["roles", "view", Js.encodeURIComponent s, "mapuser"]
  | createUser => ["users", "create"]
  | editUser _ => ["users", "edit", Js.encodeURIComponent s]
  | duplicateUser _ => ["users", "duplicate", Js.encodeURIComponent s]
  | editGeneralSettings => ["auditLogging", "edit", "generalSettings"]
  | editComplianceSettings => ["auditLogging", "edit", "complianceSettings"]

theorem href_eq {link : Link} {s : String} (hs : s ≠ "")
    (hname : ∀ name, link.resourceName = some name → name = JsText.ofString s) :
    link.href = some ("#" ++ pathText (link.segments s)) := by
  have hresource : ∀ (t : ResourceType) (action : Action) (subAction : Option String),
      buildHashUrl (some t) (some action) (some (JsText.ofString s)) subAction =
        some ("#" ++ pathText ([t.text, action.text, Js.encodeURIComponent s] ++
          subAction.toList)) := by
    intro t action subAction
    rw [buildHashUrl, buildUrl_resource t action hs]
    rfl
  cases link with
  | landing => rfl
  | list resouceType => rfl
  | createRole => rfl
  | viewRole name => rw [hname name rfl]; exact hresource .roles .view none
  | editRole name => rw [hname name rfl]; exact hresource .roles .edit none
  | duplicateRole name => rw [hname name rfl]; exact hresource .roles .duplicate none
  | editMappedUsers name => rw [hname name rfl]; exact hresource .roles .edit (some mapuser)
  | viewMappedUsers name => rw [hname name rfl]; exact hresource .roles .view (some mapuser)
  | createUser => rfl
  | editUser name => rw [hname name rfl]; exact hresource .users .edit none
  | duplicateUser name => rw [hname name rfl]; exact hresource .users .duplicate none
  | editGeneralSettings => rfl
  | editComplianceSettings => rfl

/-! ### Segments -/

theorem plain_encodeURIComponent {s : String} (hs : s ≠ "") :
    Js.encodeURIComponent s ≠ "" ∧
      ∀ c ∈ (Js.encodeURIComponent s).toList, c ≠ '/' ∧ c ≠ '?' ∧ c ≠ '#' := by
  constructor
  · intro hempty
    have hself : Js.decodeURIComponent (Js.encodeURIComponent s) = some (String.ofList s.toList) :=
      Js.decodeURIComponent_percentEncode fun c _ => unsafe_percent c
    rw [hempty, String.ofList_toList] at hself
    exact hs (Option.some.inj hself).symm
  · intro c hc
    have hsafe := Js.mem_encodeURIComponent c hc
    refine ⟨?_, ?_, ?_⟩
    · rintro rfl
      revert hsafe
      decide
    · rintro rfl
      revert hsafe
      decide
    · rintro rfl
      revert hsafe
      decide

theorem plainSegments {s : String} (hs : s ≠ "") (link : Link) :
    ∀ segment ∈ link.segments s, segment ≠ "" ∧
      ∀ c ∈ segment.toList, c ≠ '/' ∧ c ≠ '?' ∧ c ≠ '#' := by
  have hencoded := plain_encodeURIComponent hs
  have hword : ∀ word ∈ ["roles", "users", "view", "create", "edit", "duplicate", "mapuser",
      "permissions", "tenants", "tenantsManageTab", "tenantsConfigureTab", "auth", "auditLogging",
      "generalSettings", "complianceSettings"], word ≠ "" ∧
      ∀ c ∈ word.toList, c ≠ '/' ∧ c ≠ '?' ∧ c ≠ '#' := by decide
  have hmem : ∀ segment ∈ link.segments s, segment = Js.encodeURIComponent s ∨
      segment ∈ ["roles", "users", "view", "create", "edit", "duplicate", "mapuser",
        "permissions", "tenants", "tenantsManageTab", "tenantsConfigureTab", "auth",
        "auditLogging", "generalSettings", "complianceSettings"] := by
    cases link with
    | list t => cases t <;> simp [segments, ResourceType.text]
    | _ => simp [segments]
  intro segment hsegment
  rcases hmem segment hsegment with rfl | hsegment
  · exact hencoded
  · exact hword segment hsegment

end Link

theorem mem_pathText {segments : List String} {c : Char} (hc : c ∈ (pathText segments).toList) :
    c = '/' ∨ ∃ segment ∈ segments, c ∈ segment.toList := by
  have hall : ∀ rest : List String, c ∈ ("/".intercalate rest).toList →
      c = '/' ∨ ∃ segment ∈ rest, c ∈ segment.toList := by
    intro rest
    induction rest with
    | nil =>
      intro h
      cases h
    | cons segment rest ih =>
      intro h
      cases rest with
      | nil =>
        rw [String.intercalate_singleton] at h
        exact Or.inr ⟨segment, List.mem_singleton_self _, h⟩
      | cons next rest =>
        rw [String.intercalate_cons_cons, String.toList_append, String.toList_append,
          List.mem_append, List.mem_append] at h
        rcases h with (h | h) | h
        · exact Or.inr ⟨segment, List.mem_cons_self, h⟩
        · exact Or.inl (by simpa using h)
        · rcases ih h with h | ⟨other, hother, hc⟩
          · exact Or.inl h
          · exact Or.inr ⟨other, List.mem_cons_of_mem _ hother, hc⟩
  rw [pathText, String.toList_append] at hc
  rcases List.mem_append.mp hc with h | h
  · exact Or.inl (by simpa using h)
  · exact hall segments h

/-! ## Routes -/

/-- A route with the parts of its pattern. -/
structure PatternRoute where
  exact : Bool := false
  pattern : List PatternPart
  render : Params → Option Page

def PatternRoute.route (r : PatternRoute) : Route where
  exact := r.exact
  path := patternText r.pattern
  render := r.render

open PatternPart in
def patternRoutes (multitenancyEnabled : Bool) : List PatternRoute :=
  [{ pattern := [text "roles", text "edit", param "roleName", text "mapuser"]
     render := renderDecoded .RoleEditMappedUser },
   { pattern := [text "roles", text "view", param "roleName", optionalParam "prevAction"]
     render := renderDecoded .RoleView },
   { pattern := [text "roles", param "action", optionalParam "sourceRoleName"]
     render := renderDecoded .RoleEdit },
   { pattern := [text "roles"]
     render := renderPlain .RoleList },
   { pattern := [text "auth"]
     render := renderPlain .AuthView },
   { pattern := [text "users", param "action", optionalParam "sourceUserName"]
     render := renderDecoded .InternalUserEdit },
   { pattern := [text "users"]
     render := renderPlain .UserList },
   { pattern := [text "auditLogging", text "edit", text "generalSettings"]
     render := renderPlain (.AuditLoggingEditSettings "general") },
   { pattern := [text "auditLogging", text "edit", text "complianceSettings"]
     render := renderPlain (.AuditLoggingEditSettings "compliance") },
   { pattern := [text "auditLogging", optionalParam "fromType"]
     render := renderRaw .AuditLogging },
   { pattern := [text "permissions"]
     render := renderPlain .PermissionList },
   { pattern := [text "getstarted"]
     render := renderPlain .WazuhGetStarted }] ++
  (if multitenancyEnabled then
    [{ pattern := [text "tenants"]
       render := renderPlain (.TenantList "Manage") },
     { pattern := [text "tenantsConfigureTab"]
       render := renderPlain (.TenantList "Configure") }]
   else []) ++
  [{ exact := true
     pattern := []
     render := renderPlain .Redirect }]

theorem routes_eq (multitenancyEnabled : Bool) :
    routes multitenancyEnabled = (patternRoutes multitenancyEnabled).map PatternRoute.route := by
  cases multitenancyEnabled with
  | false => rfl
  | true => rfl

instance (pattern : List PatternPart) : Decidable (PlainPattern pattern) :=
  inferInstanceAs (Decidable (∀ part ∈ pattern, part.word ≠ "" ∧
    part.word.toList.all Char.isAlphanum = true))

theorem plainPattern {multitenancyEnabled : Bool} :
    ∀ r ∈ patternRoutes multitenancyEnabled, PlainPattern r.pattern := by
  cases multitenancyEnabled with
  | false => decide
  | true => decide

/-- What the first route that matches the segments renders. -/
def firstRender (router : Router) (routes : List PatternRoute) (segments : List String) :
    Option (Option Page) :=
  routes.findSome? fun r =>
    (matchSegments r.exact r.pattern segments).map fun params => r.render (router.passParams params)

section Shown

variable {router : Router} {multitenancyEnabled : Bool}

theorem findSome_matchPath (hdoc : router.Documented) {segments : List String}
    (hsegments : PlainSegments segments) {rs : List PatternRoute}
    (hrs : ∀ r ∈ rs, PlainPattern r.pattern) :
    (rs.map PatternRoute.route).findSome? (fun route =>
        (router.matchPath route.exact route.path (pathText segments)).map route.render) =
      firstRender router rs segments := by
  induction rs with
  | nil => rfl
  | cons r rs ih =>
    have hmatch : router.matchPath r.exact (patternText r.pattern) (pathText segments) =
        (matchSegments r.exact r.pattern segments).map router.passParams :=
      hdoc.matchPath r.exact r.pattern segments (hrs r List.mem_cons_self) hsegments
    have hrest := ih fun r' hr' => hrs r' (List.mem_cons_of_mem _ hr')
    unfold firstRender at hrest ⊢
    rw [List.map_cons, List.findSome?_cons, List.findSome?_cons, hrest]
    rw [PatternRoute.route, hmatch, Option.map_map]
    rfl

/-- A link shows what the first route renders that matches its segments. -/
theorem shown_eq (hdoc : router.Documented) {segments : List String}
    (hsegments : ∀ segment ∈ segments, segment ≠ "" ∧
      ∀ c ∈ segment.toList, c ≠ '/' ∧ c ≠ '?' ∧ c ≠ '#') :
    shown router (routes multitenancyEnabled) ("#" ++ pathText segments) =
      .ofRender (firstRender router (patternRoutes multitenancyEnabled) segments) := by
  have hplain : PlainSegments segments := by
    intro segment hsegment
    obtain ⟨hne, hchars⟩ := hsegments segment hsegment
    exact ⟨hne, fun h => (hchars _ h).1 rfl⟩
  have hpath : router.pathname ("#" ++ pathText segments) = pathText segments := by
    refine hdoc.pathname _ fun c hc => ?_
    rcases mem_pathText hc with rfl | ⟨segment, hsegment, hc⟩
    · decide
    · exact ((hsegments segment hsegment).2 c hc).2
  rw [shown, hpath, routes_eq, findSome_matchPath hdoc hplain plainPattern]

/-- A page that edits a resource gets the action and the name. -/
theorem renderDecoded_edit (hdoc : router.Documented) (component : Component) (nameParam : String)
    (action : Action) (name : Option String) (hname : ∀ s, name = some s → '%' ∉ s.toList) :
    renderDecoded component (router.passParams [("action", some action.text),
        (nameParam, name.map Js.encodeURIComponent)]) =
      some (Link.editPage component nameParam action (name.map JsText.ofString)) := by
  have hword : Js.encodeURIComponent action.text = action.text := by
    cases action <;> decide
  have hplain : '%' ∉ action.text.toList := by
    cases action <;> decide
  have hvalues : ∀ value ∈ [("action", some action.text), (nameParam, name)],
      ∀ s, value.2 = some s → '%' ∉ s.toList := by
    intro value hvalue s hs
    simp only [List.mem_cons, List.not_mem_nil, or_false] at hvalue
    rcases hvalue with rfl | rfl
    · rwa [← Option.some.inj hs]
    · exact hname s hs
  have hrender := renderDecoded_pass hdoc component hvalues
  rw [encodedParams, List.map_cons, List.map_cons, Option.map_some, hword] at hrender
  exact hrender

/-- The page of a role gets its name, and whence the link came. -/
theorem renderDecoded_view (hdoc : router.Documented) {s : String} (hs : '%' ∉ s.toList)
    (prevAction : Option String) (hprev : prevAction = none ∨ prevAction = some mapuser) :
    renderDecoded .RoleView (router.passParams [("roleName", some (Js.encodeURIComponent s)),
        ("prevAction", prevAction)]) =
      some { component := .RoleView
             params := [("roleName", some (JsText.ofString s)),
               ("prevAction", prevAction.map JsText.ofString)] } := by
  have hencoded : prevAction.map Js.encodeURIComponent = prevAction := by
    rcases hprev with rfl | rfl
    · rfl
    · decide
  have hvalues : ∀ value ∈ [("roleName", some s), ("prevAction", prevAction)],
      ∀ s', value.2 = some s' → '%' ∉ s'.toList := by
    intro value hvalue s' hs'
    simp only [List.mem_cons, List.not_mem_nil, or_false] at hvalue
    rcases hvalue with rfl | rfl
    · rwa [← Option.some.inj hs']
    · rcases hprev with rfl | rfl
      · cases hs'
      · rw [← Option.some.inj hs']
        decide
  have hrender := renderDecoded_pass hdoc .RoleView hvalues
  rw [encodedParams, List.map_cons, List.map_cons, Option.map_some, hencoded] at hrender
  exact hrender

/-- The page of every link is rendered by the first route that matches. -/
theorem firstRender_link (hdoc : router.Documented) {s : String} (hpercent : '%' ∉ s.toList)
    {link : Link} (hname : ∀ name, link.resourceName = some name → name = JsText.ofString s)
    (hoffered : link.Offered multitenancyEnabled) :
    firstRender router (patternRoutes multitenancyEnabled) (link.segments s) =
      some (some link.page) := by
  have hnone : ∀ s' : String, none = some s' → '%' ∉ s'.toList := by
    intro s' h
    cases h
  have hsome : ∀ s' : String, some s = some s' → '%' ∉ s'.toList := by
    intro s' h
    rwa [← Option.some.inj h]
  cases link with
  | landing =>
    cases multitenancyEnabled with
    | false => rfl
    | true => rfl
  | list resouceType =>
    cases resouceType with
    | roles => rfl
    | users => rfl
    | permissions => rfl
    | tenants =>
      obtain rfl : multitenancyEnabled = true := hoffered
      rfl
    | tenantsManageTab => cases hoffered
    | tenantsConfigureTab =>
      obtain rfl : multitenancyEnabled = true := hoffered
      rfl
    | auth => rfl
    | auditLogging => rfl
  | createRole =>
    exact congrArg some (renderDecoded_edit hdoc .RoleEdit "sourceRoleName" .create none hnone)
  | viewRole name =>
    obtain rfl := hname name rfl
    exact congrArg some (renderDecoded_view hdoc hpercent none (Or.inl rfl))
  | editRole name =>
    obtain rfl := hname name rfl
    exact congrArg some (renderDecoded_edit hdoc .RoleEdit "sourceRoleName" .edit (some s) hsome)
  | duplicateRole name =>
    obtain rfl := hname name rfl
    exact congrArg some (renderDecoded_edit hdoc .RoleEdit "sourceRoleName" .duplicate (some s)
      hsome)
  | editMappedUsers name =>
    obtain rfl := hname name rfl
    have hvalues : ∀ value ∈ [("roleName", some s)], ∀ s', value.2 = some s' → '%' ∉ s'.toList := by
      simpa using hpercent
    exact congrArg some (renderDecoded_pass hdoc .RoleEditMappedUser hvalues)
  | viewMappedUsers name =>
    obtain rfl := hname name rfl
    exact congrArg some (renderDecoded_view hdoc hpercent (some mapuser) (Or.inr rfl))
  | createUser =>
    exact congrArg some (renderDecoded_edit hdoc .InternalUserEdit "sourceUserName" .create none
      hnone)
  | editUser name =>
    obtain rfl := hname name rfl
    exact congrArg some (renderDecoded_edit hdoc .InternalUserEdit "sourceUserName" .edit (some s)
      hsome)
  | duplicateUser name =>
    obtain rfl := hname name rfl
    exact congrArg some (renderDecoded_edit hdoc .InternalUserEdit "sourceUserName" .duplicate
      (some s) hsome)
  | editGeneralSettings => rfl
  | editComplianceSettings => rfl

/-- A link with a valid name, or without a name, is built, and shows its page with exactly this
name. -/
theorem link_shows_page (hdoc : router.Documented) (isOther : Char → Bool) (link : Link)
    (hname : ∀ name, link.resourceName = some name → isValidResourceName isOther name = true)
    (hoffered : link.Offered multitenancyEnabled) :
    ∃ href, link.href = some href ∧
      shown router (routes multitenancyEnabled) href = .page link.page := by
  have hstring : ∃ s : String, s ≠ "" ∧ '%' ∉ s.toList ∧
      ∀ name, link.resourceName = some name → name = JsText.ofString s := by
    cases hresource : link.resourceName with
    | none => exact ⟨"x", by decide, by decide, fun name h => nomatch h⟩
    | some name =>
      obtain ⟨s, hs, hne, hpercent⟩ := exists_string_of_valid (hname name hresource)
      refine ⟨s, hne, hpercent, fun name' h => ?_⟩
      rw [← Option.some.inj h]
      exact hs
  obtain ⟨s, hne, hpercent, hs⟩ := hstring
  refine ⟨_, Link.href_eq hne hs, ?_⟩
  rw [shown_eq hdoc (Link.plainSegments hne link), firstRender_link hdoc hpercent hs hoffered]
  rfl

end Shown

/-! ## A router -/

namespace Sample

def segmentsOf (path : String) : List String := (Js.split path '/').filter (· ≠ "")

def partOf (source : String) : PatternPart :=
  if source.toList.head? = some ':' then
    if source.toList.getLast? = some '?' then
      .optionalParam (String.ofList (source.toList.drop 1).dropLast)
    else .param (String.ofList (source.toList.drop 1))
  else .text source

/-- Parameters are handed out decoded. -/
def router : Router where
  pathname href := String.ofList ((href.toList.drop 1).takeWhile fun c => c ≠ '?' && c ≠ '#')
  matchPath exact path pathname :=
    (matchSegments exact ((segmentsOf path).map partOf) (segmentsOf pathname)).map fun params =>
      params.map fun param => (param.1, param.2.map fun s => (Js.decodeURIComponent s).getD s)
  pass s := (Js.decodeURIComponent s).getD s

theorem segmentsOf_pathText {segments : List String} (h : PlainSegments segments) :
    segmentsOf (pathText segments) = segments := by
  have hsplit : Js.split (pathText segments) '/' = if segments = [] then ["", ""]
      else "" :: segments := by
    have hslash : "/".toList = ['/'] := rfl
    rw [Js.split, pathText, String.toList_append, String.toList_intercalate, hslash,
      List.singleton_append, ← List.nil_append ('/' :: _),
      List.splitOn_append_cons_self_of_not_mem List.not_mem_nil]
    split_ifs with hnil
    · rw [hnil]
      rfl
    · have hmem : ∀ l ∈ segments.map String.toList, '/' ∉ l := by
        intro l hl
        obtain ⟨segment, hsegment, rfl⟩ := List.mem_map.mp hl
        exact (h segment hsegment).2
      rw [List.splitOn_intercalate '/' hmem (by simpa using hnil), List.map_cons, List.map_map]
      simp
  rw [segmentsOf, hsplit]
  split_ifs with hnil
  · rw [hnil]
    rfl
  · rw [List.filter_cons_of_neg (by simp)]
    exact List.filter_eq_self.mpr fun segment hsegment => by simpa using (h segment hsegment).1

theorem partOf_source {part : PatternPart}
    (h : part.word ≠ "" ∧ part.word.toList.all Char.isAlphanum = true) :
    partOf part.source = part := by
  have halpha : ∀ c ∈ part.word.toList, c.isAlphanum = true := List.all_eq_true.mp h.2
  cases part with
  | text word =>
    have hhead : word.toList.head? ≠ some ':' := fun hhead =>
      absurd (halpha ':' (List.mem_of_head? hhead)) (by decide)
    rw [PatternPart.source, partOf, if_neg hhead]
  | param word =>
    have hsource : (PatternPart.param word).source.toList = ':' :: word.toList := by
      rw [PatternPart.source, String.toList_append]
      rfl
    have hlast : (':' :: word.toList).getLast? ≠ some '?' := by
      intro hlast
      rcases List.mem_cons.mp (List.mem_of_getLast? hlast) with h | h
      · exact absurd h (by decide)
      · exact absurd (halpha '?' h) (by decide)
    rw [partOf, hsource, List.head?_cons, if_pos rfl, if_neg hlast, List.drop_one, List.tail_cons,
      String.ofList_toList]
  | optionalParam word =>
    have hsource : (PatternPart.optionalParam word).source.toList =
        ':' :: (word.toList ++ ['?']) := by
      rw [PatternPart.source, String.toList_append, String.toList_append]
      rfl
    have hlast : (':' :: (word.toList ++ ['?'])).getLast? = some '?' := by
      rw [← List.cons_append]
      exact List.getLast?_concat
    rw [partOf, hsource, List.head?_cons, if_pos rfl, if_pos hlast, List.drop_one, List.tail_cons,
      List.dropLast_concat, String.ofList_toList]

theorem segmentsOf_patternText {pattern : List PatternPart} (h : PlainPattern pattern) :
    (segmentsOf (patternText pattern)).map partOf = pattern := by
  have hsources : PlainSegments (pattern.map PatternPart.source) := by
    intro segment hsegment
    obtain ⟨part, hpart, rfl⟩ := List.mem_map.mp hsegment
    obtain ⟨hne, hall⟩ := h part hpart
    have halpha : ∀ c ∈ part.word.toList, c.isAlphanum = true := List.all_eq_true.mp hall
    have hslash : '/' ∉ part.word.toList := fun hslash => absurd (halpha '/' hslash) (by decide)
    cases part with
    | text word => exact ⟨hne, hslash⟩
    | param word =>
      refine ⟨by simp [PatternPart.source], ?_⟩
      simpa [PatternPart.source, PatternPart.word] using hslash
    | optionalParam word =>
      refine ⟨by simp [PatternPart.source], ?_⟩
      simpa [PatternPart.source, PatternPart.word] using hslash
  rw [patternText, segmentsOf_pathText hsources, List.map_map]
  exact (List.map_congr_left fun part hpart => partOf_source (h part hpart)).trans (List.map_id _)

theorem router_documented : router.Documented where
  pathname path h := by
    have hpath : path.toList.takeWhile (fun c => c ≠ '?' && c ≠ '#') = path.toList :=
      List.takeWhile_eq_self_iff.mpr fun c hc => by simpa using h c hc
    have hdrop : ("#" ++ path).toList.drop 1 = path.toList := by
      rw [String.toList_append]
      rfl
    show String.ofList ((("#" ++ path).toList.drop 1).takeWhile _) = path
    rw [hdrop, hpath, String.ofList_toList]
  matchPath exact pattern segments hpattern hsegments := by
    have hparts := segmentsOf_patternText hpattern
    show (matchSegments exact ((segmentsOf (patternText pattern)).map partOf)
      (segmentsOf (pathText segments))).map _ = _
    rw [hparts, segmentsOf_pathText hsegments]
    rfl
  pass s := by
    cases hs : Js.decodeURIComponent s with
    | none => exact Or.inl (by simp only [router, hs]; rfl)
    | some decoded => exact Or.inr (Or.inr (by simp only [router, hs]; rfl))

/-- A role whose name looks like a path with a query. -/
theorem viewRole_shows :
    ∃ href, (Link.viewRole (JsText.ofString "../edit/x?#y")).href = some href ∧
      shown router (routes true) href = .page
        { component := .RoleView
          params := [("roleName", some (JsText.ofString "../edit/x?#y")), ("prevAction", none)] } := by
  refine link_shows_page router_documented (fun c => c.toNat < 32) (.viewRole _) (fun name h => ?_)
    trivial
  rw [← Option.some.inj h]
  decide

end Sample

end ResourceUrls

end SecurityDashboards
