import SecurityDashboards.ConfigurationApi
import SecurityDashboards.Proofs.LoginFlowProofs
import SecurityDashboards.Proofs.ResourceSharingProofs
import SecurityDashboards.Proofs.ResourceUrlsProofs
import SecurityDashboards.Proofs.WhatwgLocationProofs

/-!
# Proofs: the configuration API
-/

namespace SecurityDashboards

open ConfigSchema

namespace ConfigurationApi

/-! ## URLs -/

theorem getResourceUrl_ofString (endpoint name : String) :
    getResourceUrl endpoint (JsText.ofString name) =
      some (endpoint ++ "/" ++ Js.encodeURIComponent name) := by
  rw [getResourceUrl, ResourceUrls.encodeURIComponent_ofString, Option.map_some]

/-- The segments before the name. -/
def prefixOf (endpoint : Endpoint) : List (List Char) :=
  ["api".toList, "v1".toList, "configuration".toList, (resourceName endpoint).toList]

theorem toList_resourceUrl (endpoint : Endpoint) (text : String) :
    (endpointUrl endpoint ++ "/" ++ text).toList =
      Whatwg.pathText (prefixOf endpoint ++ [text.toList]) := by
  have hendpoint : (endpointUrl endpoint).toList = Whatwg.pathText (prefixOf endpoint) := by
    cases endpoint <;> decide
  rw [String.toList_append, String.toList_append, hendpoint, Whatwg.pathText, Whatwg.pathText,
    List.flatMap_append, List.flatMap_singleton, List.append_assoc]
  rfl

theorem isSegment_prefix (endpoint : Endpoint) :
    ∀ segment ∈ prefixOf endpoint, Whatwg.IsSegment segment := by
  have hall : ∀ segment ∈ prefixOf endpoint, Whatwg.isSingleDot segment = false ∧
      Whatwg.isDoubleDot segment = false ∧ (∀ c ∈ segment, Whatwg.inPathSet c = false) ∧
        ∀ c ∈ segment, Whatwg.isSlash c = false := by
    cases endpoint <;> decide
  intro segment hsegment
  obtain ⟨hdot, hdots, hplain, hslash⟩ := hall segment hsegment
  exact ⟨hdot, hdots, hplain, hslash⟩

/-- Only the dot has the byte of the dot first. -/
theorem utf8_first (c : Char) :
    ∃ b bytes, UrlEncoding.utf8 c = b :: bytes ∧ b < 256 ∧ (b = 0x2E → c = '.') := by
  have hlt := UrlEncoding.utf8_lt c
  have hdot : c.toNat = 0x2E → c = '.' := fun h => Char.toNat_inj.mp h
  rw [UrlEncoding.utf8_eq] at hlt ⊢
  split_ifs at hlt ⊢
  · exact ⟨_, _, rfl, hlt _ List.mem_cons_self, hdot⟩
  all_goals exact ⟨_, _, rfl, hlt _ List.mem_cons_self, fun h => by omega⟩

theorem afterDot_percentByte {b : ℕ} (hb : b < 256) (hne : b ≠ 0x2E) (rest : List Char) :
    Whatwg.afterDot (UrlEncoding.percentByte b ++ rest) = none := by
  have hdigit : ∀ n < 16, (UrlEncoding.hexDigit n = '2' → n = 2) ∧
      UrlEncoding.hexDigit n ≠ 'e' ∧ (UrlEncoding.hexDigit n = 'E' → n = 14) := by decide
  have hdigits : ¬(UrlEncoding.hexDigit (b / 16) = '2' ∧
      (UrlEncoding.hexDigit (b % 16) = 'e' ∨ UrlEncoding.hexDigit (b % 16) = 'E')) := by
    rintro ⟨hhigh, hlow | hlow⟩
    · exact (hdigit (b % 16) (by omega)).2.1 hlow
    · have h2 := (hdigit (b / 16) (by omega)).1 hhigh
      have h14 := (hdigit (b % 16) (by omega)).2.2 hlow
      omega
  rw [UrlEncoding.percentByte]
  generalize UrlEncoding.hexDigit (b / 16) = high at hdigits
  generalize UrlEncoding.hexDigit (b % 16) = low at hdigits
  simp only [List.cons_append, List.nil_append]
  unfold Whatwg.afterDot
  split
  · simp_all
  · simp_all
  · simp_all
  · rfl

/-- The encoding of a name starts with a dot only where the name does. -/
theorem afterDot_encoded (l : List Char) :
    Whatwg.afterDot (UrlEncoding.percentEncode (fun c => !Js.isUriUnreserved c) l) =
      match l with
      | '.' :: rest => some (UrlEncoding.percentEncode (fun c => !Js.isUriUnreserved c) rest)
      | _ => none := by
  cases l with
  | nil => rfl
  | cons c l =>
    by_cases hdot : c = '.'
    · subst hdot
      rfl
    · have hmatch : (match c :: l with
          | '.' :: rest => some (UrlEncoding.percentEncode (fun c => !Js.isUriUnreserved c) rest)
          | _ => none) = none := by
        split
        · rename_i h
          exact absurd (List.cons.inj h).1 hdot
        · rfl
      rw [hmatch, UrlEncoding.percentEncode, List.flatMap_cons]
      by_cases hset : (!Js.isUriUnreserved c) = true
      · obtain ⟨b, bytes, hutf8, hb, hbyte⟩ := utf8_first c
        rw [if_pos hset, hutf8, List.flatMap_cons, List.append_assoc]
        exact afterDot_percentByte hb (fun h => hdot (hbyte h)) _
      · have hpercent := ResourceUrls.unsafe_percent c (by simpa using hset)
        rw [if_neg hset, List.cons_append]
        unfold Whatwg.afterDot
        split
        · simp_all
        · simp_all
        · simp_all
        · rfl

theorem encoded_eq_nil {l : List Char} :
    UrlEncoding.percentEncode (fun c => !Js.isUriUnreserved c) l = [] ↔ l = [] := by
  constructor
  · intro hl
    by_contra hne
    have hname : String.ofList l ≠ "" := by simpa using hne
    refine (ResourceUrls.Link.plain_encodeURIComponent hname).1 ?_
    rw [Js.encodeURIComponent, String.toList_ofList, hl]
  · rintro rfl
    rfl

/-- A name that a URL carries: browsers resolve the segments `.` and `..`, and no parameter is
empty. -/
def Sendable (name : String) : Prop := name ≠ "" ∧ name ≠ "." ∧ name ≠ ".."

instance (name : String) : Decidable (Sendable name) := inferInstanceAs (Decidable (_ ∧ _))

theorem isSegment_encoded {name : String} (h : Sendable name) :
    Whatwg.IsSegment (Js.encodeURIComponent name).toList := by
  obtain ⟨-, hdot, hdots⟩ := h
  rw [← String.ofList_toList (s := name)] at hdot hdots
  generalize hl : name.toList = l at hdot hdots
  have hencoded : (Js.encodeURIComponent name).toList =
      UrlEncoding.percentEncode (fun c => !Js.isUriUnreserved c) l := by
    rw [Js.encodeURIComponent, String.toList_ofList, hl]
  have hsingle : ∀ l : List Char, String.ofList l ≠ "." → Whatwg.isSingleDot
      (UrlEncoding.percentEncode (fun c => !Js.isUriUnreserved c) l) = false := by
    intro l hl
    rw [Whatwg.isSingleDot, afterDot_encoded]
    split
    · rename_i rest
      simp only [beq_eq_false_iff_ne, ne_eq, Option.some.injEq, encoded_eq_nil]
      rintro rfl
      exact hl rfl
    · rfl
  have hchars := Js.mem_encodeURIComponent (s := name)
  have hunreserved : ∀ c : Char, Js.isUriUnreserved c = true →
      Whatwg.inPathSet c = false ∧ Whatwg.isSlash c = false := by
    intro c hc
    have hlt : c.toNat < 128 := by
      simp only [Js.isUriUnreserved, Bool.or_eq_true, decide_eq_true_eq] at hc
      rcases hc with ((((((((hc | rfl) | rfl) | rfl) | rfl) | rfl) | rfl) | rfl) | rfl) | rfl
      · exact UrlEncoding.isAlphanum_lt hc
      all_goals decide
    exact ascii_forall (P := fun c => Js.isUriUnreserved c = true → Whatwg.inPathSet c = false ∧
      Whatwg.isSlash c = false) (by decide) hlt hc
  have hplain : ∀ c ∈ (Js.encodeURIComponent name).toList,
      Whatwg.inPathSet c = false ∧ Whatwg.isSlash c = false := by
    intro c hc
    rcases hchars c hc with rfl | hc
    · decide
    · exact hunreserved c hc
  refine ⟨?_, ?_, fun c hc => (hplain c hc).1, fun c hc => (hplain c hc).2⟩
  · rw [hencoded]
    exact hsingle l hdot
  · rw [hencoded, Whatwg.isDoubleDot, afterDot_encoded]
    split
    · rename_i rest
      refine hsingle rest ?_
      intro hrest
      have hchar : rest = ['.'] := by
        have := congrArg String.toList hrest
        simpa using this
      exact hdots (by rw [hchar])
    · rfl

/-! ## The segments that the server gets -/

theorem segments_resourceUrl (page : Whatwg.Location) (endpoint : Endpoint) {name : String}
    (h : Sendable name) {request : HttpRequest}
    (hurl : request.url = endpointUrl endpoint ++ "/" ++ Js.encodeURIComponent name) :
    request.segments page =
      ["api", "v1", "configuration", resourceName endpoint, Js.encodeURIComponent name] := by
  have hsegments : ∀ segment ∈ prefixOf endpoint ++ [(Js.encodeURIComponent name).toList],
      Whatwg.IsSegment segment := by
    intro segment hsegment
    rcases List.mem_append.mp hsegment with hsegment | hsegment
    · exact isSegment_prefix endpoint segment hsegment
    · rw [List.mem_singleton.mp hsegment]
      exact isSegment_encoded h
  have hhash : Whatwg.Location.IsHash [] := Or.inl rfl
  have hpath := (Whatwg.Location.resolve_path page (by simp) hsegments hhash).1
  rw [List.append_nil] at hpath
  rw [HttpRequest.segments, hurl, toList_resourceUrl, hpath]
  simp [prefixOf]

/-- Where a name is empty or a dot segment the server gets a path without the name. -/
theorem segments_unsendable (page : Whatwg.Location) (endpoint : Endpoint) {name : String}
    (h : ¬Sendable name) {request : HttpRequest}
    (hurl : request.url = endpointUrl endpoint ++ "/" ++ Js.encodeURIComponent name) :
    request.segments page = ["api", "v1", "configuration", resourceName endpoint, ""] ∨
      request.segments page = ["api", "v1", "configuration", ""] := by
  have hname : name = "" ∨ name = "." ∨ name = ".." := by
    by_contra hcon
    simp only [not_or] at hcon
    exact h hcon
  rw [HttpRequest.segments, hurl]
  rcases hname with rfl | rfl | rfl
  · left
    cases endpoint <;> rfl
  · left
    cases endpoint <;> rfl
  · right
    cases endpoint <;> rfl

/-! ## Routes -/

theorem param_encoded {name : String} (hne : name ≠ "") :
    param (Js.encodeURIComponent name) = some name := by
  have hself : Js.decodeURIComponent (Js.encodeURIComponent name) =
      some (String.ofList name.toList) :=
    Js.decodeURIComponent_percentEncode fun c _ => ResourceUrls.unsafe_percent c
  rw [param, if_neg (ResourceUrls.Link.plain_encodeURIComponent hne).1, hself,
    String.ofList_toList]

theorem param_resourceName (endpoint : Endpoint) :
    param (resourceName endpoint) = some (resourceName endpoint) := by
  cases endpoint <;> rfl

/-- The route for a method about one resource. -/
def routeFor (method : Method) : String → String → Route :=
  match method with
  | .get => .getResource
  | .post => .saveResource
  | .delete => .deleteResource

theorem routeOf_resource (method : Method) (endpoint : Endpoint) {name : String} (hne : name ≠ "") :
    routeOf method [resourceName endpoint, Js.encodeURIComponent name] =
      some (routeFor method (resourceName endpoint) name) := by
  have hid := param_encoded hne
  have hresource := param_resourceName endpoint
  have hwords : resourceName endpoint ≠ "audit" ∧ resourceName endpoint ≠ "validatedls" := by
    cases endpoint <;> decide
  cases method with
  | get => simp [routeOf, routeFor, hid, hresource]
  | delete => simp [routeOf, routeFor, hid, hresource]
  | post => simp [routeOf, routeFor, hid, hresource, hwords]

theorem routeOf_unsendable (method : Method) (endpoint : Endpoint) :
    routeOf method [resourceName endpoint, ""] = none ∧ routeOf method [""] = none := by
  cases method <;> cases endpoint <;> exact ⟨rfl, rfl⟩

theorem route_resourceUrl (page : Whatwg.Location) (endpoint : Endpoint) (name : String)
    {request : HttpRequest}
    (hurl : request.url = endpointUrl endpoint ++ "/" ++ Js.encodeURIComponent name) :
    request.route page =
      if Sendable name then some (routeFor request.method (resourceName endpoint) name) else none := by
  split
  · rename_i h
    rw [HttpRequest.route, segments_resourceUrl page endpoint h hurl]
    exact routeOf_resource request.method endpoint h.1
  · rename_i h
    obtain ⟨hname, hlist⟩ := routeOf_unsendable request.method endpoint
    rcases segments_unsendable page endpoint h hurl with hsegments | hsegments
    · rw [HttpRequest.route, hsegments]
      exact hname
    · rw [HttpRequest.route, hsegments]
      exact hlist

/-! ## Bodies -/

theorem plainNames_map {α : Type} {f : α → Json} (l : List α) (hf : ∀ a, PlainNames (f a)) :
    PlainNames (.array (l.map f)) := by
  refine .array fun item hitem => ?_
  obtain ⟨a, -, rfl⟩ := List.mem_map.mp hitem
  exact hf a

theorem plainNames_strings (l : List String) : PlainNames (strings l) :=
  plainNames_map l PlainNames.string

/-- An object of which only fixed names are known, none of them special. -/
theorem plainNames_object {props : List (String × Json)}
    (hnames : ∀ name ∈ props.map Prod.fst, name ≠ "__proto__" ∧ name ≠ "constructor")
    (hvalues : ∀ prop ∈ props, PlainNames prop.2) : PlainNames (.object props) :=
  .object (fun _ hprop => (hnames _ (List.mem_map_of_mem hprop)).1)
    (fun _ hprop hname => absurd hname (hnames _ (List.mem_map_of_mem hprop)).2) hvalues

theorem plainNames_indexPermission (p : RoleEdit.RoleIndexPermission) :
    PlainNames (indexPermission p) := by
  refine plainNames_object (by simp) ?_
  simp only [List.forall_mem_cons, List.not_mem_nil, false_implies, implies_true, and_true]
  exact ⟨plainNames_strings _, .string _, plainNames_strings _, plainNames_strings _,
    plainNames_strings _⟩

theorem plainNames_tenantPermission (p : RoleEdit.RoleTenantPermission) :
    PlainNames (tenantPermission p) := by
  refine plainNames_object (by simp) ?_
  simp only [List.forall_mem_cons, List.not_mem_nil, false_implies, implies_true, and_true]
  exact ⟨plainNames_strings _, plainNames_strings _⟩

/-- A user with an attribute that is called `__proto__`. -/
def Update.ProtoAttribute (update : Update) : Prop :=
  ∃ user, update = .user user ∧ "__proto__" ∈ user.attributes.keys

/-- The attributes are an object of strings. -/
theorem plainNames_attributes {attributes : Js.PlainObject String}
    (h : "__proto__" ∉ attributes.keys) :
    PlainNames (.object (attributes.props.map fun p => (p.1, .string p.2))) := by
  refine .object (fun prop hprop hname => ?_) (fun prop hprop _ inner => ?_) fun prop hprop => ?_
  · obtain ⟨p, hp, rfl⟩ := List.mem_map.mp hprop
    exact h (hname ▸ List.mem_map_of_mem hp)
  · obtain ⟨p, -, rfl⟩ := List.mem_map.mp hprop
    exact Json.noConfusion
  · obtain ⟨p, -, rfl⟩ := List.mem_map.mp hprop
    exact .string _

/-- The body of an update is plain unless an attribute is called `__proto__`. -/
theorem plainNames_props {update : Update} (h : ¬update.ProtoAttribute) :
    PlainNames (.object update.props) := by
  cases update with
  | user user =>
    have hattributes := plainNames_attributes fun hproto => h ⟨user, rfl, hproto⟩
    obtain ⟨backend_roles, attributes, password⟩ := user
    cases password with
    | none =>
      refine plainNames_object (by simp [Update.props]) ?_
      simpa [Update.props] using ⟨plainNames_strings _, hattributes⟩
    | some password =>
      refine plainNames_object (by simp [Update.props]) ?_
      simpa [Update.props] using
        ⟨plainNames_strings _, hattributes, PlainNames.string password⟩
  | role role =>
    refine plainNames_object (by simp [Update.props]) ?_
    simpa [Update.props] using ⟨plainNames_strings _,
      plainNames_map _ plainNames_indexPermission, plainNames_map _ plainNames_tenantPermission⟩
  | roleMapping mapping =>
    refine plainNames_object (by simp [Update.props]) ?_
    simpa [Update.props] using
      ⟨plainNames_strings _, plainNames_strings _, plainNames_strings _⟩
  | actionGroup allowed_actions =>
    refine plainNames_object (by simp [Update.props]) ?_
    simpa [Update.props] using plainNames_strings _
  | tenant description =>
    refine plainNames_object (by simp [Update.props]) ?_
    simpa [Update.props] using PlainNames.string description

theorem holdsProto_props {update : Update} (h : update.ProtoAttribute) :
    HoldsProto (.object update.props) := by
  obtain ⟨user, rfl, hproto⟩ := h
  obtain ⟨⟨name, value⟩, hp, hname⟩ := List.mem_map.mp hproto
  cases hname
  have hattributes : HoldsProto
      (.object (user.attributes.props.map fun p => (p.1, Json.string p.2))) :=
    .own (List.mem_map_of_mem hp)
  exact .prop (List.mem_append_left _ (List.mem_cons_of_mem _ List.mem_cons_self)) hattributes

section Bodies

variable {builder : RouteBuilder}

theorem accepts_text (hdoc : builder.Documented) (s : String) :
    builder.accepts (text builder) (some (.string s)) = true :=
  hdoc.string 0 s (Nat.zero_le _)

theorem accepts_strings (hdoc : builder.Documented) (l : List String) :
    builder.accepts (builder.arrayOf (text builder)) (some (strings l)) = true := by
  refine hdoc.arrayOf _ _ fun value hvalue => ?_
  obtain ⟨s, -, rfl⟩ := List.mem_map.mp hvalue
  exact accepts_text hdoc s

theorem accepts_listOf (hdoc : builder.Documented) {item : builder.Schema} {items : List Json}
    (h : ∀ value ∈ items, builder.accepts item (some value) = true) :
    builder.accepts (listOf builder item) (some (.array items)) = true :=
  hdoc.defaulted_present _ _ (hdoc.arrayOf _ _ h)

theorem accepts_object (hdoc : builder.Documented) {fields : List (String × builder.Schema)}
    {props : List (String × Json)}
    (hfields : ∀ field ∈ fields, builder.accepts field.2 (props.lookup field.1) = true)
    (hprops : ∀ prop ∈ props, prop.1 ∈ fields.map Prod.fst) :
    builder.accepts (object builder fields) (some (.object props)) = true :=
  hdoc.object _ _ _ _ hfields (fun _ => hprops) rfl

/-- What a page saves satisfies the schema of its resource. -/
theorem update_accepted (hdoc : builder.Documented) (update : Update) :
    validateRequestBody builder (resourceName update.endpoint) (some (.object update.props)) =
      .ok () := by
  have hlist : ∀ l : List String,
      builder.accepts (listOf builder (text builder)) (some (strings l)) = true :=
    fun l => hdoc.defaulted_present _ _ (accepts_strings hdoc l)
  have habsent : builder.accepts (builder.maybe (text builder)) none = true :=
    hdoc.maybe_absent _
  suffices h : ∃ schema,
      (schemaMap builder).lookup (resourceName update.endpoint) = some schema ∧
        builder.accepts schema (some (.object update.props)) = true by
    obtain ⟨schema, hschema, haccepts⟩ := h
    rw [validateRequestBody, hschema]
    exact if_pos haccepts
  cases update with
  | user user =>
    have hattributes : builder.accepts (builder.defaulted builder.any)
        (some (.object (user.attributes.props.map fun p => (p.1, .string p.2)))) = true :=
      hdoc.defaulted_present _ _ (hdoc.any _)
    obtain ⟨backend_roles, attributes, password⟩ := user
    cases password with
    | none =>
      refine ⟨_, rfl, accepts_object hdoc ?_ (by simp [Update.props, description])⟩
      simp only [List.forall_mem_cons, List.not_mem_nil, false_implies, implies_true, and_true]
      exact ⟨habsent, habsent, hlist _, hattributes⟩
    | some password =>
      refine ⟨_, rfl, accepts_object hdoc ?_ (by simp [Update.props, description])⟩
      simp only [List.forall_mem_cons, List.not_mem_nil, false_implies, implies_true, and_true]
      exact ⟨habsent, hdoc.maybe_present _ _ (accepts_text hdoc password), hlist _, hattributes⟩
  | role role =>
    have hany : ∀ items : List Json,
        builder.accepts (listOf builder builder.any) (some (.array items)) = true :=
      fun items => accepts_listOf hdoc fun value _ => hdoc.any value
    refine ⟨_, rfl, accepts_object hdoc ?_ (by simp [Update.props, description])⟩
    simp only [List.forall_mem_cons, List.not_mem_nil, false_implies, implies_true, and_true]
    exact ⟨habsent, hlist _, hany _, hany _⟩
  | roleMapping mapping =>
    refine ⟨_, rfl, accepts_object hdoc ?_ (by simp [Update.props, description])⟩
    simp only [List.forall_mem_cons, List.not_mem_nil, false_implies, implies_true, and_true]
    exact ⟨habsent, hlist _, hlist _, hlist _⟩
  | actionGroup allowed_actions =>
    refine ⟨_, rfl, accepts_object hdoc ?_ (by simp [Update.props, description])⟩
    simp only [List.forall_mem_cons, List.not_mem_nil, false_implies, implies_true, and_true]
    exact ⟨habsent, accepts_strings hdoc _⟩
  | tenant description =>
    refine ⟨_, rfl, accepts_object hdoc ?_ (by simp [Update.props])⟩
    simp only [List.forall_mem_cons, List.not_mem_nil, false_implies, implies_true, and_true]
    exact accepts_text hdoc description

end Bodies

/-! ## Requests of the pages -/

/-- The data source that the backend call is for. -/
def Ask.dataSource (ask : Ask) (dataSourceEnabled : Bool) (dataSourceId : String) : Option String :=
  if dataSourceEnabled = true ∧ ask.endpoint ≠ .tenants ∧ dataSourceId ≠ "" then some dataSourceId
  else none

/-- The call that the page asks for. -/
def Ask.meant (ask : Ask) (dataSourceEnabled : Bool) (name dataSourceId : String) : BackendCall where
  dataSource := ask.dataSource dataSourceEnabled dataSourceId
  endpoint :=
    match ask with
    | .read _ => "opensearch_security.getResource"
    | .delete _ => "opensearch_security.deleteResource"
    | .save _ => "opensearch_security.saveResource"
  resourceName := some (resourceName ask.endpoint)
  id := some name
  body :=
    match ask with
    | .save update => some (.object update.props)
    | _ => none

/-- The page saves, under a name that may not be saved. -/
def Ask.BadName (isOther : Char → Bool) (ask : Ask) (name : String) : Prop :=
  ∃ update, ask = .save update ∧ isValidResourceName isOther (JsText.ofString name) = false

/-- The page saves a user with an attribute `__proto__`. -/
def Ask.ProtoAttribute (ask : Ask) : Prop := ∃ update, ask = .save update ∧ update.ProtoAttribute

section Server

variable {builder : RouteBuilder} {isOther : Char → Bool} {dataSourceEnabled : Bool}
  {parsesBody : Json → Bool}

theorem resourceRequest_eq (method : Method) (endpoint : Endpoint) (name dataSourceId : String)
    (body : Option Json) :
    resourceRequest method endpoint (JsText.ofString name) dataSourceId body =
      some { method, url := endpointUrl endpoint ++ "/" ++ Js.encodeURIComponent name,
             dataSourceId := dataSourceOf endpoint dataSourceId, body } := by
  rw [resourceRequest, getResourceUrl_ofString, Option.map_some]

theorem wrapped (endpoint : Endpoint) (dataSourceId : String) {call : BackendCall}
    (h : call.dataSource = none) :
    wrapRouteWithDataSource dataSourceEnabled (dataSourceOf endpoint dataSourceId) call =
      { call with dataSource :=
          if dataSourceEnabled = true ∧ endpoint ≠ .tenants ∧ dataSourceId ≠ "" then some dataSourceId
          else none } := by
  obtain ⟨dataSource, name, resourceName, id, body⟩ := call
  subst h
  rw [wrapRouteWithDataSource]
  cases dataSourceEnabled with
  | false => simp
  | true =>
    by_cases hempty : dataSourceId = ""
    · subst hempty
      cases endpoint <;> simp [dataSourceOf, LOCAL_CLUSTER_ID]
    · cases endpoint <;> simp [dataSourceOf, LOCAL_CLUSTER_ID, hempty]

theorem validateEntityId_eq (name : String) :
    validateEntityId isOther name =
      if isValidResourceName isOther (JsText.ofString name) = false then
        some "Invalid entity name or id."
      else none := by
  rw [validateEntityId]
  cases isValidResourceName isOther (JsText.ofString name) <;> rfl

/-- A request about a resource under its name, through the route table and the parser of bodies. -/
theorem serve_resourceUrl (page : Whatwg.Location) (endpoint : Endpoint) (name : String)
    {request : HttpRequest}
    (hurl : request.url = endpointUrl endpoint ++ "/" ++ Js.encodeURIComponent name) :
    serve builder isOther dataSourceEnabled parsesBody page request =
      if Sendable name then
        if request.body.all parsesBody then
          callOf builder isOther dataSourceEnabled
            (routeFor request.method (resourceName endpoint) name) request
        else .error .unparsed
      else .error .noRoute := by
  rw [serve, route_resourceUrl page endpoint name hurl]
  split_ifs <;> rfl

/-- The body of a save is parsed exactly if no attribute is called `__proto__`. -/
theorem parsesBody_props_iff (hparser : ParserDocumented parsesBody) (update : Update) :
    (some (Json.object update.props)).all parsesBody = true ↔ ¬update.ProtoAttribute := by
  rw [Option.all_some]
  constructor
  · intro hparses hproto
    rw [hparser.proto _ (holdsProto_props hproto)] at hparses
    cases hparses
  · intro hplain
    exact hparser.plain _ (plainNames_props hplain)

/-- What is refused about a save says nothing about a request without a body. -/
theorem served_without_body {ask : Ask} (hask : ∀ update, ask ≠ .save update) {name : String}
    {served : Except Refusal BackendCall} {call : BackendCall}
    (h : served = if Sendable name then .ok call else .error .noRoute) :
    (¬Sendable name → served = .error .noRoute) ∧
      (Sendable name → ask.ProtoAttribute → served = .error .unparsed) ∧
      (Sendable name → ¬ask.ProtoAttribute → ask.BadName isOther name →
        served = .error (.invalidId "Invalid entity name or id.")) ∧
      (Sendable name → ¬ask.ProtoAttribute → ¬ask.BadName isOther name → served = .ok call) := by
  refine ⟨fun hname => ?_, fun _ hproto => ?_, fun _ _ hbad => ?_, fun hname _ _ => ?_⟩
  · rw [h, if_neg hname]
  · obtain ⟨update, hsave, -⟩ := hproto
    exact absurd hsave (hask update)
  · obtain ⟨update, hsave, -⟩ := hbad
    exact absurd hsave (hask update)
  · rw [h, if_pos hname]

/-- What a page asks about a resource reaches the backend as it is meant, through encoding, routes and
schemas. Only a name that no URL carries, an attribute `__proto__` of a user, or a name that may not be
saved leads to no call. -/
theorem resource_requests_arrive (hdoc : builder.Documented) (hparser : ParserDocumented parsesBody)
    (ask : Ask) (page : Whatwg.Location) (name dataSourceId : String) :
    ∃ request, ask.request (JsText.ofString name) dataSourceId = some request ∧
      (¬Sendable name →
        serve builder isOther dataSourceEnabled parsesBody page request = .error .noRoute) ∧
      (Sendable name → ask.ProtoAttribute →
        serve builder isOther dataSourceEnabled parsesBody page request = .error .unparsed) ∧
      (Sendable name → ¬ask.ProtoAttribute → ask.BadName isOther name →
        serve builder isOther dataSourceEnabled parsesBody page request =
          .error (.invalidId "Invalid entity name or id.")) ∧
      (Sendable name → ¬ask.ProtoAttribute → ¬ask.BadName isOther name →
        serve builder isOther dataSourceEnabled parsesBody page request =
          .ok (ask.meant dataSourceEnabled name dataSourceId)) := by
  cases ask with
  | read endpoint =>
    refine ⟨_, resourceRequest_eq .get endpoint name dataSourceId none, ?_⟩
    refine served_without_body ?_ ?_
    · exact fun _ => nofun
    · rw [serve_resourceUrl page endpoint name rfl]
      exact if_congr Iff.rfl (congrArg Except.ok (wrapped endpoint dataSourceId rfl)) rfl
  | delete endpoint =>
    refine ⟨_, resourceRequest_eq .delete endpoint name dataSourceId none, ?_⟩
    refine served_without_body ?_ ?_
    · exact fun _ => nofun
    · rw [serve_resourceUrl page endpoint name rfl]
      exact if_congr Iff.rfl (congrArg Except.ok (wrapped endpoint dataSourceId rfl)) rfl
  | save update =>
    have hbody := update_accepted hdoc update
    have hparses := parsesBody_props_iff hparser update
    refine ⟨_, resourceRequest_eq .post update.endpoint name dataSourceId
      (some (.object update.props)), ?_⟩
    rw [serve_resourceUrl page update.endpoint name rfl]
    refine ⟨fun hname => if_neg hname, fun hname hproto => ?_, fun hname hplain hbad => ?_,
      fun hname hplain hgood => ?_⟩
    · obtain ⟨_, hask, hproto⟩ := hproto
      cases hask
      rw [if_pos hname]
      exact if_neg fun h => hparses.mp h hproto
    · obtain ⟨-, -, hinvalid⟩ := hbad
      rw [if_pos hname, if_pos (hparses.mpr fun hproto => hplain ⟨update, rfl, hproto⟩)]
      simp only [routeFor, callOf, validateEntityId_eq, if_pos hinvalid]
    · have hvalid : ¬isValidResourceName isOther (JsText.ofString name) = false :=
        fun hinvalid => hgood ⟨update, rfl, hinvalid⟩
      rw [if_pos hname, if_pos (hparses.mpr fun hproto => hplain ⟨update, rfl, hproto⟩)]
      simp only [routeFor, callOf, validateEntityId_eq, if_neg hvalid, hbody]
      exact congrArg Except.ok (wrapped update.endpoint dataSourceId rfl)

/-! ## Requests of anyone -/

theorem wrapRouteWithDataSource_call (dataSourceId : String) (call : BackendCall) :
    (wrapRouteWithDataSource dataSourceEnabled dataSourceId call).endpoint = call.endpoint ∧
      (wrapRouteWithDataSource dataSourceEnabled dataSourceId call).resourceName = call.resourceName ∧
      (wrapRouteWithDataSource dataSourceEnabled dataSourceId call).id = call.id ∧
      (wrapRouteWithDataSource dataSourceEnabled dataSourceId call).body = call.body := by
  rw [wrapRouteWithDataSource]
  split_ifs
  · exact ⟨rfl, rfl, rfl, rfl⟩
  · exact ⟨rfl, rfl, rfl, rfl⟩

theorem lookup_of_validated {resource : String} {requestBody : Option Json}
    (h : validateRequestBody builder resource requestBody = .ok ()) :
    ∃ schema, (schemaMap builder).lookup resource = some schema ∧
      builder.accepts schema requestBody = true := by
  rw [validateRequestBody] at h
  split at h
  · rename_i schema hschema
    split_ifs at h with haccepts
    exact ⟨schema, hschema, haccepts⟩
  · split_ifs at h

theorem mem_of_lookup {resource : String} {schema : builder.Schema}
    (h : (schemaMap builder).lookup resource = some schema) :
    (resource, schema) ∈ schemaMap builder ∧ resource ∉ Js.objectPrototype := by
  have hmem : (resource, schema) ∈ schemaMap builder := by
    obtain ⟨before, after, hsplit, -⟩ := List.lookup_eq_some_iff.mp h
    rw [hsplit]
    exact List.mem_append_right _ List.mem_cons_self
  have hnames : ∀ name ∈ ["internalusers", "actiongroups", "rolesmapping", "roles", "tenants",
      "account"], name ∉ Js.objectPrototype := by decide
  exact ⟨hmem, hnames resource (List.mem_map_of_mem (f := Prod.fst) hmem)⟩

/-- A call that saves a resource. -/
def BackendCall.Saves (call : BackendCall) : Prop :=
  call.endpoint = "opensearch_security.saveResource" ∨
    call.endpoint = "opensearch_security.saveResourceWithoutId"

/-- Whatever is requested, the backend is asked to save only what the schema of one of the six resources
accepts, and under a name that may be saved. -/
theorem saved_only_if_valid (page : Whatwg.Location) (request : HttpRequest) {call : BackendCall}
    (h : serve builder isOther dataSourceEnabled parsesBody page request = .ok call)
    (hsaves : call.Saves) :
    ∃ resource schema, call.resourceName = some resource ∧ resource ∉ Js.objectPrototype ∧
      (resource, schema) ∈ schemaMap builder ∧ call.body = request.body ∧
      builder.accepts schema call.body = true ∧
      (call.endpoint = "opensearch_security.saveResource" →
        ∃ id, call.id = some id ∧ isValidResourceName isOther (JsText.ofString id) = true) := by
  rw [serve] at h
  cases hroute : request.route page with
  | none =>
    rw [hroute] at h
    cases h
  | some route =>
    rw [hroute] at h
    replace h : callOf builder isOther dataSourceEnabled route request = .ok call := by
      by_cases hparses : request.body.all parsesBody = true
      · exact (if_pos hparses).symm.trans h
      · cases (if_neg hparses).symm.trans h
    have hother : ∀ {other : BackendCall}, ¬other.Saves →
        callOf builder isOther dataSourceEnabled route request =
          .ok (wrapRouteWithDataSource dataSourceEnabled request.dataSourceId other) → False := by
      intro other hno hcall
      cases h.symm.trans hcall
      rw [BackendCall.Saves, (wrapRouteWithDataSource_call _ other).1] at hsaves
      exact hno hsaves
    cases route with
    | saveResourceWithoutId resource =>
      simp only [callOf] at h
      split at h
      · cases h
      · rename_i hbody
        obtain ⟨schema, hschema, haccepts⟩ := lookup_of_validated hbody
        obtain ⟨hmem, hproto⟩ := mem_of_lookup hschema
        cases h
        rw [(wrapRouteWithDataSource_call _ _).2.1, (wrapRouteWithDataSource_call _ _).2.2.2,
          (wrapRouteWithDataSource_call _ _).1]
        exact ⟨resource, schema, rfl, hproto, hmem, rfl, haccepts, fun hid => by simp at hid⟩
    | saveResource resource id =>
      simp only [callOf] at h
      split at h
      · cases h
      · rename_i hid
        split at h
        · cases h
        · rename_i hbody
          obtain ⟨schema, hschema, haccepts⟩ := lookup_of_validated hbody
          obtain ⟨hmem, hproto⟩ := mem_of_lookup hschema
          have hvalid : isValidResourceName isOther (JsText.ofString id) = true := by
            by_contra hinvalid
            rw [validateEntityId_eq, if_pos (by simpa using hinvalid)] at hid
            cases hid
          cases h
          rw [(wrapRouteWithDataSource_call _ _).2.1, (wrapRouteWithDataSource_call _ _).2.2.2,
            (wrapRouteWithDataSource_call _ _).2.2.1]
          exact ⟨resource, schema, rfl, hproto, hmem, rfl, haccepts, fun _ => ⟨id, rfl, hvalid⟩⟩
    | validateDls | getIndexMappings | indices =>
      cases h
      simp [BackendCall.Saves] at hsaves
    | _ => exact (hother (by simp [BackendCall.Saves]) rfl).elim

end Server

namespace Sample

def routeBuilder : RouteBuilder where
  toBuilder := ResourceSharing.Sample.builder
  any value := value.isSome
  defaulted schema value := value.isNone || schema value

theorem routeBuilder_documented : routeBuilder.Documented where
  toDocumented := ResourceSharing.Sample.builder_documented
  any _ := rfl
  defaulted_absent _ := rfl
  defaulted_present _ _ h := h

mutual

/-- A parser that refuses every own `__proto__`. -/
def parsesBody : Json → Bool
  | .array items => parsesItems items
  | .object props => parsesProps props
  | _ => true

def parsesItems : List Json → Bool
  | [] => true
  | item :: items => parsesBody item && parsesItems items

def parsesProps : List (String × Json) → Bool
  | [] => true
  | (name, value) :: props => name != "__proto__" && parsesBody value && parsesProps props

end

theorem parsesItems_eq (items : List Json) : parsesItems items = items.all parsesBody := by
  induction items with
  | nil => rfl
  | cons item items ih => rw [parsesItems, ih, List.all_cons]

theorem parsesProps_eq (props : List (String × Json)) :
    parsesProps props = props.all fun prop => prop.1 != "__proto__" && parsesBody prop.2 := by
  induction props with
  | nil => rfl
  | cons prop props ih => rw [parsesProps, ih, List.all_cons]

theorem parsesBody_documented : ParserDocumented parsesBody where
  plain body hplain := by
    induction hplain with
    | null | bool | number | string => rfl
    | array h ih => simpa [parsesBody, parsesItems_eq] using ih
    | object hproto hconstructor hvalues ih =>
      simp only [parsesBody, parsesProps_eq, List.all_eq_true, Bool.and_eq_true, bne_iff_ne]
      exact fun prop hprop => ⟨hproto prop hprop, ih prop hprop⟩
  proto body hproto := by
    induction hproto with
    | own h =>
      simp only [parsesBody, parsesProps_eq, List.all_eq_false]
      exact ⟨_, h, by simp⟩
    | prop h hvalue ih =>
      simp only [parsesBody, parsesProps_eq, List.all_eq_false]
      exact ⟨_, h, by simp [ih]⟩
    | item h hitem ih =>
      simp only [parsesBody, parsesItems_eq, List.all_eq_false]
      exact ⟨_, h, by simp [ih]⟩

def mapping : Update :=
  .roleMapping { users := ["ana"], backend_roles := ["admin"], hosts := [] }

/-- A mapping is saved in a data source, for a role with a slash in its name. -/
theorem mapping_arrives :
    ∃ request, (Ask.save mapping).request (JsText.ofString "logs/writer") "east" = some request ∧
      serve routeBuilder (fun _ => false) true parsesBody Whatwg.Location.root request =
        .ok { dataSource := some "east", endpoint := "opensearch_security.saveResource",
              resourceName := some "rolesmapping", id := some "logs/writer",
              body := some (.object mapping.props) } := by
  obtain ⟨request, hrequest, -, -, -, harrives⟩ :=
    @resource_requests_arrive routeBuilder (fun _ => false) true parsesBody routeBuilder_documented
      parsesBody_documented (.save mapping) Whatwg.Location.root "logs/writer" "east"
  refine ⟨request, hrequest, harrives (by decide) ?_ ?_⟩
  · rintro ⟨_, hask, user, rfl, -⟩
    cases hask
  · rintro ⟨update, -, hinvalid⟩
    revert hinvalid
    decide

def tenantRequest : HttpRequest where
  method := .post
  url := "/api/v1/configuration/tenants/sales"
  dataSourceId := ""
  body := some (.object [("description", .string "The sales team")])

def tenantCall : BackendCall where
  endpoint := "opensearch_security.saveResource"
  resourceName := some "tenants"
  id := some "sales"
  body := tenantRequest.body

theorem tenant_valid :
    ∃ resource schema, tenantCall.resourceName = some resource ∧ resource ∉ Js.objectPrototype ∧
      (resource, schema) ∈ schemaMap routeBuilder ∧ tenantCall.body = tenantRequest.body ∧
      routeBuilder.accepts schema tenantCall.body = true ∧
      (tenantCall.endpoint = "opensearch_security.saveResource" →
        ∃ id, tenantCall.id = some id ∧
          isValidResourceName (fun _ => false) (JsText.ofString id) = true) :=
  @saved_only_if_valid routeBuilder (fun _ => false) true parsesBody Whatwg.Location.root
    tenantRequest tenantCall rfl (Or.inl rfl)

end Sample

end ConfigurationApi

end SecurityDashboards
