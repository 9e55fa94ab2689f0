import SecurityDashboards.Lib.ConfigSchema
import SecurityDashboards.ListPages
import SecurityDashboards.LoginPages
import SecurityDashboards.ResourceUrls
import SecurityDashboards.RoleEditor

/-!
# The configuration API

The requests of the configuration pages (`utils/request-utils.ts` and the `-utils` files of the pages),
the routes that answer them (`routes/index.ts`), and the calls of the backend that the routes make.
-/

namespace SecurityDashboards

open ConfigSchema

namespace ConfigurationApi

/-! ## Requests -/

inductive Method where
  | get
  | post
  | delete
deriving DecidableEq

/-- A request of a page. `dataSourceId` is its query. -/
structure HttpRequest where
  method : Method
  url : String
  dataSourceId : String
  body : Option Json := none

def API_ENDPOINT : String := "/api/v1/configuration"

def resourceName : Endpoint → String
  | .internalusers => "internalusers"
  | .roles => "roles"
  | .rolesmapping => "rolesmapping"
  | .actiongroups => "actiongroups"
  | .tenants => "tenants"

/-- The `API_ENDPOINT_` constant. -/
def endpointUrl (endpoint : Endpoint) : String := API_ENDPOINT ++ "/" ++ resourceName endpoint

/-- `none` is the `URIError` of `encodeURIComponent`. -/
def getResourceUrl (endpoint : String) (resourceName : JsText) : Option String :=
  (ResourceUrls.encodeURIComponent resourceName).map fun encoded => endpoint ++ "/" ++ encoded

/-- A request about one resource. -/
def resourceRequest (method : Method) (endpoint : Endpoint) (name : JsText) (dataSourceId : String)
    (body : Option Json) : Option HttpRequest :=
  (getResourceUrl (endpointUrl endpoint) name).map fun url =>
    { method, url, dataSourceId := dataSourceOf endpoint dataSourceId, body }

/-! ## What the pages save -/

structure InternalUserUpdate where
  backend_roles : List String
  attributes : Js.PlainObject String
  password : Option String := none

/-- The body of an update, with the endpoint that it is for. -/
inductive Update where
  | user (update : InternalUserUpdate)
  | role (update : RoleEdit.RoleUpdate)
  | roleMapping (update : RoleView.RoleMappingDetail)
  | actionGroup (allowed_actions : List String)
  | tenant (description : String)

def strings (l : List String) : Json := .array (l.map Json.string)

def indexPermission (p : RoleEdit.RoleIndexPermission) : Json :=
  .object [("index_patterns", strings p.index_patterns), ("dls", .string p.dls),
    ("fls", strings p.fls), ("masked_fields", strings p.masked_fields),
    ("allowed_actions", strings p.allowed_actions)]

def tenantPermission (p : RoleEdit.RoleTenantPermission) : Json :=
  .object [("tenant_patterns", strings p.tenant_patterns),
    ("allowed_actions", strings p.allowed_actions)]

namespace Update

def endpoint : Update → Endpoint
  | user _ => .internalusers
  | role _ => .roles
  | roleMapping _ => .rolesmapping
  | actionGroup _ => .actiongroups
  | tenant _ => .tenants

/-- The properties of the body. -/
def props : Update → List (String × Json)
  | user update =>
    [("backend_roles", strings update.backend_roles),
      ("attributes", .object (update.attributes.props.map fun p => (p.1, .string p.2)))] ++
        (update.password.map fun password => ("password", Json.string password)).toList
  | role update =>
    [("cluster_permissions", strings update.cluster_permissions),
      ("index_permissions", .array (update.index_permissions.map indexPermission)),
      ("tenant_permissions", .array (update.tenant_permissions.map tenantPermission))]
  | roleMapping update =>
    [("users", strings update.users), ("backend_roles", strings update.backend_roles),
      ("hosts", strings update.hosts)]
  | actionGroup allowed_actions => [("allowed_actions", strings allowed_actions)]
  | tenant description => [("description", .string description)]

/-- `updateUser`, `updateRole`, `updateRoleMapping`, `updateActionGroup` and `updateTenant`. -/
def save (update : Update) (name : JsText) (dataSourceId : String) : Option HttpRequest :=
  resourceRequest .post update.endpoint name dataSourceId (some (.object update.props))

end Update

/-- What a page asks about one resource. Users, roles and role mappings are the ones that are read. -/
inductive Ask where
  | read (endpoint : Endpoint)
  | delete (endpoint : Endpoint)
  | save (update : Update)

def Ask.endpoint : Ask → Endpoint
  | read endpoint => endpoint
  | delete endpoint => endpoint
  | save update => update.endpoint

/-- The request of the page. -/
def Ask.request (ask : Ask) (name : JsText) (dataSourceId : String) : Option HttpRequest :=
  match ask with
  | read endpoint => resourceRequest .get endpoint name dataSourceId none
  | delete endpoint => resourceRequest .delete endpoint name dataSourceId none
  | save update => update.save name dataSourceId

/-! ## Routes -/

/-- The routes under the prefix, with their decoded parameters. -/
inductive Route where
  | listResource (resourceName : String)
  | getResource (resourceName id : String)
  | deleteResource (resourceName id : String)
  | saveResourceWithoutId (resourceName : String)
  | saveResource (resourceName id : String)
  | getAudit
  | saveAudit
  | clearCache
  | validateDls (indexName : String)
  | getIndexMappings
  | indices

/-- A parameter of a path is a segment that is not empty. -/
def param (segment : String) : Option String :=
  if segment = "" then none else Js.decodeURIComponent segment

/-- The route for the segments after the prefix. Words go before parameters. -/
def routeOf (method : Method) (segments : List String) : Option Route :=
  match method, segments with
  | .get, ["audit"] => some .getAudit
  | .get, ["indices"] => some .indices
  | .get, [resourceName] => (param resourceName).map .listResource
  | .get, [resourceName, id] =>
    (param resourceName).bind fun resourceName => (param id).map (.getResource resourceName)
  | .delete, ["cache"] => some .clearCache
  | .delete, [resourceName, id] =>
    (param resourceName).bind fun resourceName => (param id).map (.deleteResource resourceName)
  | .post, ["index_mappings"] => some .getIndexMappings
  | .post, [resourceName] => (param resourceName).map .saveResourceWithoutId
  | .post, ["audit", "config"] => some .saveAudit
  | .post, ["validatedls", indexName] => (param indexName).map .validateDls
  | .post, [resourceName, id] =>
    (param resourceName).bind fun resourceName => (param id).map (.saveResource resourceName)
  | _, _ => none

/-- The segments of the URL, as a browser on the page sends them. -/
def HttpRequest.segments (request : HttpRequest) (page : Whatwg.Location) : List String :=
  (page.resolve request.url.toList).path.map String.ofList

/-- The route that a request reaches. -/
def HttpRequest.route (request : HttpRequest) (page : Whatwg.Location) : Option Route :=
  match request.segments page with
  | "api" :: "v1" :: "configuration" :: rest => routeOf request.method rest
  | _ => none

/-! ## Schemas -/

/-- The builders of the routes beside those that take no default. -/
structure RouteBuilder extends Builder where
  any : Schema
  /-- A schema with a default value. -/
  defaulted : Schema → Schema

/-- What their schemas accept at least. -/
structure RouteBuilder.Documented (builder : RouteBuilder) : Prop extends
    builder.toBuilder.Documented where
  any : ∀ value, builder.accepts builder.any (some value) = true
  defaulted_absent : ∀ schema, builder.accepts (builder.defaulted schema) none = true
  defaulted_present : ∀ schema value, builder.accepts schema (some value) = true →
    builder.accepts (builder.defaulted schema) (some value) = true

/-- A value without an own `__proto__`, and without a `constructor` that is an object. -/
inductive PlainNames : Json → Prop where
  | null : PlainNames .null
  | bool (b : Bool) : PlainNames (.bool b)
  | number (n : ℚ) : PlainNames (.number n)
  | string (s : String) : PlainNames (.string s)
  | array {items : List Json} (h : ∀ item ∈ items, PlainNames item) : PlainNames (.array items)
  | object {props : List (String × Json)} (hproto : ∀ prop ∈ props, prop.1 ≠ "__proto__")
      (hconstructor : ∀ prop ∈ props, prop.1 = "constructor" → ∀ inner, prop.2 ≠ .object inner)
      (hvalues : ∀ prop ∈ props, PlainNames prop.2) : PlainNames (.object props)

/-- Some object in the value has an own `__proto__`. -/
inductive HoldsProto : Json → Prop where
  | own {props : List (String × Json)} {value : Json} (h : ("__proto__", value) ∈ props) :
      HoldsProto (.object props)
  | prop {props : List (String × Json)} {prop : String × Json} (h : prop ∈ props)
      (hvalue : HoldsProto prop.2) : HoldsProto (.object props)
  | item {items : List Json} {item : Json} (h : item ∈ items) (hitem : HoldsProto item) :
      HoldsProto (.array items)

/-- The parser of the server for bodies. It keeps prototypes from being set by a request. -/
structure ParserDocumented (parsesBody : Json → Bool) : Prop where
  plain : ∀ body, PlainNames body → parsesBody body = true
  proto : ∀ body, HoldsProto body → parsesBody body = false

section Server

variable (builder : RouteBuilder) (isOther : Char → Bool) (dataSourceEnabled : Bool)
  (parsesBody : Json → Bool)

/-- An object without custom validation. -/
def object (fields : List (String × builder.Schema)) : builder.Schema :=
  builder.object fields .forbid fun _ => none

def text : builder.Schema := builder.string 0

/-- `schema.maybe(schema.string())` -/
def description : String × builder.Schema := ("description", builder.maybe (text builder))

/-- A list with the default `[]`. -/
def listOf (item : builder.Schema) : builder.Schema := builder.defaulted (builder.arrayOf item)

def internalUserSchema : builder.Schema :=
  object builder [description builder, ("password", builder.maybe (text builder)),
    ("backend_roles", listOf builder (text builder)), ("attributes", builder.defaulted builder.any)]

def actionGroupSchema : builder.Schema :=
  object builder [description builder, ("allowed_actions", builder.arrayOf (text builder))]

def roleMappingSchema : builder.Schema :=
  object builder [description builder, ("backend_roles", listOf builder (text builder)),
    ("hosts", listOf builder (text builder)), ("users", listOf builder (text builder))]

def roleSchema : builder.Schema :=
  object builder [description builder, ("cluster_permissions", listOf builder (text builder)),
    ("tenant_permissions", listOf builder builder.any),
    ("index_permissions", listOf builder builder.any)]

def tenantSchema : builder.Schema := object builder [("description", text builder)]

def accountSchema : builder.Schema :=
  object builder [("password", text builder), ("current_password", text builder)]

def schemaMap : List (String × builder.Schema) :=
  [("internalusers", internalUserSchema builder), ("actiongroups", actionGroupSchema builder),
    ("rolesmapping", roleMappingSchema builder), ("roles", roleSchema builder),
    ("tenants", tenantSchema builder), ("account", accountSchema builder)]

/-- The errors of `validateRequestBody`. -/
inductive BodyError where
  | unknownResource (message : String)
  /-- What an object inherits has no function `validate`. -/
  | notAFunction
  | invalid
deriving DecidableEq

def validateRequestBody (resourceName : String) (requestBody : Option Json) : Except BodyError Unit :=
  match (schemaMap builder).lookup resourceName with
  | some inputSchema => if builder.accepts inputSchema requestBody then .ok () else .error .invalid
  | none =>
    if Js.objectPrototype.contains resourceName then .error .notAFunction
    else .error (.unknownResource ("Unknown resource " ++ resourceName))

/-- The message for an id that is refused. -/
def validateEntityId (resourceName : String) : Option String :=
  if isValidResourceName isOther (JsText.ofString resourceName) then none
  else some "Invalid entity name or id."

/-! ## Calls of the backend -/

/-- A call of the backend, as the current user or through a data source. -/
structure BackendCall where
  dataSource : Option String := none
  endpoint : String
  resourceName : Option String := none
  id : Option String := none
  body : Option Json := none

/-- Why a request leads to no call. -/
inductive Refusal where
  | noRoute
  /-- The server does not parse the body. -/
  | unparsed
  | invalidId (message : String)
  | badRequest (error : BodyError)

def wrapRouteWithDataSource (dataSourceId : String) (call : BackendCall) : BackendCall :=
  if !dataSourceEnabled || dataSourceId == "" then call
  else { call with dataSource := some dataSourceId }

/-- The call that the handler of the route makes. The parameters of the index mappings are left out. -/
def callOf (route : Route) (request : HttpRequest) : Except Refusal BackendCall :=
  let wrap := wrapRouteWithDataSource dataSourceEnabled request.dataSourceId
  match route with
  | .listResource resourceName =>
    .ok (wrap { endpoint := "opensearch_security.listResource", resourceName })
  | .getResource resourceName id =>
    .ok (wrap { endpoint := "opensearch_security.getResource", resourceName, id })
  | .deleteResource resourceName id =>
    .ok (wrap { endpoint := "opensearch_security.deleteResource", resourceName, id })
  | .saveResourceWithoutId resourceName =>
    match validateRequestBody builder resourceName request.body with
    | .error error => .error (.badRequest error)
    | .ok () => .ok (wrap
      { endpoint := "opensearch_security.saveResourceWithoutId", resourceName, body := request.body })
  | .saveResource resourceName id =>
    match validateEntityId isOther id with
    | some message => .error (.invalidId message)
    | none =>
      match validateRequestBody builder resourceName request.body with
      | .error error => .error (.badRequest error)
      | .ok () => .ok (wrap
        { endpoint := "opensearch_security.saveResource", resourceName, id, body := request.body })
  | .getAudit => .ok (wrap { endpoint := "opensearch_security.getAudit" })
  | .saveAudit => .ok (wrap { endpoint := "opensearch_security.saveAudit", body := request.body })
  | .clearCache => .ok (wrap { endpoint := "opensearch_security.clearCache" })
  | .validateDls _ => .ok { endpoint := "opensearch_security.validateDls", body := request.body }
  | .getIndexMappings => .ok { endpoint := "opensearch_security.getIndexMappings" }
  | .indices => .ok { endpoint := "opensearch_security.indices" }

/-- The call that a request of a page leads to. -/
def serve (page : Whatwg.Location) (request : HttpRequest) : Except Refusal BackendCall :=
  match request.route page with
  | none => .error .noRoute
  | some route =>
    -- The body is parsed before the handler of the route runs.
    if request.body.all parsesBody then callOf builder isOther dataSourceEnabled route request
    else .error .unparsed

end Server

end ConfigurationApi

end SecurityDashboards
