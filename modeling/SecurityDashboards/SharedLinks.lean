import SecurityDashboards.Lib.UrlEncoding
import SecurityDashboards.TenantPicks
import SecurityDashboards.TenantRoutes

/-!
# Links that name a tenant

Two ways in which a link takes the tenant of its sender along: `addTenantParameterToResolvedShortLink`
of `multitenancy/tenant_resolver.ts` adds it to the location of a short link, and
`services/shared-link.ts` of the browser to a URL that is copied from the share panel. In both cases
`resolveTenant` reads it when the link is followed.
-/

namespace SecurityDashboards

/-- The parameters of a query. -/
abbrev QueryParams := List (String × String)

/-! ## Recipients -/

/-- A user who follows a link: the arguments of `resolveTenant` other than the request. -/
structure Recipient where
  username : String
  roles : Option (List String) := none
  availableTenants : Tenants
  config : SecurityPluginConfig
  cookie : SecuritySessionCookie := {}
  multitenancyEnabled : Option Bool
  privateTenantEnabled : Option Bool
  defaultTenant : Option String := none

namespace Recipient

variable (toLowerCase : String → String) (r : Recipient)

/-- The arguments of `resolve` when this tenant is requested. -/
def resolution (requestedTenant : Option String) : Resolution where
  username := r.username
  requestedTenant := requestedTenant
  preferredTenants := some r.config.multitenancy.tenants.preferred
  availableTenants := r.availableTenants
  globalTenantEnabled := r.config.multitenancy.tenants.enable_global
  multitenancyEnabled := r.multitenancyEnabled
  privateTenantEnabled := r.privateTenantEnabled

/-- The tenant in which the recipient sees the page of a request. -/
def follow (request : Request) : Except JsError (Option String) :=
  resolveTenant toLowerCase request r.username r.roles r.availableTenants r.config r.cookie
    r.multitenancyEnabled r.privateTenantEnabled r.defaultTenant

/-- The tenant is available to the recipient: the global or the private one, or one of the others in
the list of the backend. -/
def Offers (tenant : String) : Prop :=
  (r.resolution none).Active ∧
    if tenant = GLOBAL_TENANT_SYMBOL then r.config.multitenancy.tenants.enable_global = true
    else if tenant = PRIVATE_TENANT_SYMBOL then
      truthyFlag r.privateTenantEnabled = true ∧ r.availableTenants.has r.username = true
    else r.availableTenants.has tenant = true

end Recipient

/-- The request has this query. -/
def Request.HasQuery (request : Request) (params : QueryParams) : Prop :=
  request.url.searchParams = params

/-- The parameters that `resolveTenant` prefers to `security_tenant`; an empty one counts as
absent. -/
def olderTenantParam (params : QueryParams) : Option String :=
  if truthyString (params.lookup "securityTenant_") then params.lookup "securityTenant_"
  else if truthyString (params.lookup "securitytenant") then params.lookup "securitytenant"
  else none

/-! ## Short links -/

def GOTO_PREFIX : String := "/goto"

/-- URLs as the server and the browsers read and write them: the parameters of the request to which
a location leads, and `modifyUrl` with a function of the query. -/
structure UrlTools where
  params : String → QueryParams
  modifyUrl : String → (QueryParams → QueryParams) → String

/-- The function that is handed to `modifyUrl`. -/
def addSecurityTenant (tenant : String) (query : QueryParams) : QueryParams :=
  if (query.lookup "security_tenant").isNone then query ++ [("security_tenant", tenant)] else query

/-- What `modifyUrl` writes is read back. -/
def UrlTools.Faithful (tools : UrlTools) : Prop :=
  ∀ location tenant name,
    (tools.params (tools.modifyUrl location (addSecurityTenant tenant))).lookup name =
      (addSecurityTenant tenant (tools.params location)).lookup name

/-- The `location` header of the response afterwards. -/
def addTenantParameterToResolvedShortLink (tools : UrlTools) (pathname : String)
    (securitytenant location : Option String) : Option String :=
  if Js.startsWith pathname (GOTO_PREFIX ++ "/") then
    match location with
    | none => none
    | some responsePath =>
      if responsePath ≠ "" ∧ Js.includes responsePath "security_tenant" = false ∧
          truthyString securitytenant = true then
        some (tools.modifyUrl responsePath (addSecurityTenant (securitytenant.getD "")))
      else some responsePath
  else location

/-- The location after a short link was resolved. -/
def resolvedLocation (tools : UrlTools) (pathname tenant location : String) : String :=
  (addTenantParameterToResolvedShortLink tools pathname (some tenant) (some location)).getD ""

/-- The location keeps a `security_tenant` parameter, or it gets one that leads every recipient to
the tenant. -/
structure KeepsShortLinkTenant (tools : UrlTools) (toLowerCase : String → String)
    (pathname tenant location : String) : Prop where
  unchanged : ((tools.params location).lookup "security_tenant").isSome = true → ∀ name,
    (tools.params (resolvedLocation tools pathname tenant location)).lookup name =
      (tools.params location).lookup name
  carried : (tools.params location).lookup "security_tenant" = none →
    ((tools.params (resolvedLocation tools pathname tenant location)).lookup
      "security_tenant").isSome = true
  resolved : (tools.params location).lookup "security_tenant" = none →
    ∀ (r : Recipient) (request : Request), r.Offers tenant →
      request.HasQuery (tools.params (resolvedLocation tools pathname tenant location)) →
      r.follow toLowerCase request = .ok (some tenant)

/-- The location names a tenant already, or the tenant is not the global one and nothing in the
location stands in the way of its name. -/
def ShortLinkTakesTenant (tools : UrlTools) (tenant location : String) : Prop :=
  ((tools.params location).lookup "security_tenant").isSome = true ∨
    (location ≠ "" ∧ tenant ≠ GLOBAL_TENANT_SYMBOL ∧
      Js.includes location "security_tenant" = false ∧
      ∀ older, olderTenantParam (tools.params location) = some older → older = tenant)

/-! ## Copied links -/

/-- What the browser gets from a request: a text, or another JSON value with its truthiness and its
conversion to a string. -/
inductive FetchedValue where
  | text (s : String)
  | other (truthy : Bool) (asString : String)
deriving DecidableEq

namespace FetchedValue

def truthy : FetchedValue → Bool
  | text s => s != ""
  | other truthy _ => truthy

def asString : FetchedValue → String
  | text s => s
  | other _ asString => asString

/-- The tenant that goes into links when this is what the server says. -/
def shareName (body : FetchedValue) : String :=
  if !body.truthy then "global"
  else if body = .text PRIVATE_TENANT_SYMBOL then "private"
  else body.asString

end FetchedValue

/-- A URL as `new URL` takes it apart. -/
structure ShareUrl where
  base : List Char
  params : QueryParams
  hash : List Char
  base_plain : ∀ c ∈ base, c ≠ '?' ∧ c ≠ '#'
  hash_shape : hash = [] ∨ ∃ text, hash = '#' :: text

/-- `url.searchParams.append('security_tenant', tenant)` and `url.toString()` -/
def ShareUrl.withTenant (url : ShareUrl) (tenant : String) : String :=
  String.ofList (url.base ++ '?' :: UrlEncoding.formSerialize
    (url.params ++ [("security_tenant", tenant)]) ++ url.hash)

/-- The parts of the platform that a tenant passes on its way into a link: `encode` of the HTML
entities, the body that the HTTP client of the browser hands out, and `new URL`. -/
structure SharePlatform where
  encode : String → String
  /-- The characters that `encode` replaces by an entity. -/
  hasEntity : Char → Bool
  parseBody : String → FetchedValue
  parseUrl : String → Option ShareUrl

namespace SharePlatform

variable (platform : SharePlatform)

/-- The tenant that `addTenantToShareURL` puts into links, for the sharer with this cookie. -/
def addTenantToShareURL (cookie : Option SecuritySessionCookie) : Option String :=
  match TenantRoutes.getTenant cookie with
  | .badRequest _ => none
  | .ok tenant => some (platform.parseBody (platform.encode (tenant.getD ""))).shareName

/-- The text that is copied in place of `originalValue`; a URL that names a tenant already is left
alone. -/
def updateClipboard (urlPart : String) (originalValue : Option String) (tenant : String) :
    Option String :=
  (platform.parseUrl urlPart).bind fun originalUrl =>
    if (originalUrl.params.lookup "security_tenant").isSome then none
    else
      let originalValue := if truthyString originalValue then originalValue.getD "" else urlPart
      some (Js.replaceString originalValue urlPart (originalUrl.withTenant tenant))

/-- The URL that the sharer with this tenant copies. -/
def copiedLink (tenant url : String) : Option String :=
  (platform.addTenantToShareURL (some { tenant := some tenant })).bind fun value =>
    platform.updateClipboard url (some url) value

/-- What is known of the platform. `encode` leaves exactly the characters without an entity; what it
replaces begins with an ampersand, and no quotation mark is left. The client takes a body for JSON if
it is, so a text with an ampersand and without quotation marks is handed out as it is, and so are the
names of the global and of the private tenant. -/
structure Documented : Prop where
  encode_eq_iff : ∀ s, platform.encode s = s ↔ ∀ c ∈ s.toList, platform.hasEntity c = false
  ampersand : ∀ s, platform.encode s ≠ s → '&' ∈ (platform.encode s).toList
  quotes : ∀ s, '"' ∉ (platform.encode s).toList
  noEntity : ∀ c ∈ PRIVATE_TENANT_SYMBOL.toList, platform.hasEntity c = false
  text : ∀ s, '&' ∈ s.toList → '"' ∉ s.toList → platform.parseBody s = .text s
  names : ∀ s ∈ ["", PRIVATE_TENANT_SYMBOL, "global", "private"], platform.parseBody s = .text s

/-- A tenant that the backend lists under its own name. -/
def IsCustom (tenant : String) : Prop :=
  tenant ≠ GLOBAL_TENANT_SYMBOL ∧ tenant ≠ PRIVATE_TENANT_SYMBOL

/-- The list has a tenant with the name by which the link calls the global or the private tenant. -/
def Clashes (tenant : String) (availableTenants : Tenants) : Prop :=
  (tenant = GLOBAL_TENANT_SYMBOL ∧ availableTenants.has "global" = true) ∨
    (tenant = PRIVATE_TENANT_SYMBOL ∧ availableTenants.has "private" = true)

/-- Whoever opens the link is in the tenant. -/
def LeadsTo (toLowerCase : String → String) (tenant link : String) (r : Recipient) : Prop :=
  ∀ request : Request, request.HasQuery (UrlEncoding.formParse (UrlEncoding.queryText link.toList)) →
    r.follow toLowerCase request = .ok (some tenant)

/-- The link leads everyone with this list of tenants to the tenant, if it is available to them. -/
def LeadsAll (toLowerCase : String → String) (tenant link : String) (availableTenants : Tenants) :
    Prop :=
  ∀ r : Recipient, r.availableTenants = availableTenants → r.Offers tenant →
    LeadsTo toLowerCase tenant link r

/-- The name reaches the link as it is: no character of it has an entity, and the client does not
take it for another JSON value. -/
def PassesUnchanged (name : String) : Prop :=
  (∀ c ∈ name.toList, platform.hasEntity c = false) ∧
    (platform.parseBody name).truthy = true ∧ (platform.parseBody name).asString = name

/-- The name is one of the spellings of the global or of the private tenant. -/
def Spells (name tenant : String) : Prop :=
  (tenant = GLOBAL_TENANT_SYMBOL ∧ name ∈ GLOBAL_TENANTS) ∨
    (tenant = PRIVATE_TENANT_SYMBOL ∧ name ∈ PRIVATE_TENANTS)

/-- The name means the tenant to a user with this list: it is the tenant, or it spells it and no
tenant of the list has the name itself. -/
def Means (name tenant : String) (availableTenants : Tenants) : Prop :=
  name = tenant ∨ (Spells name tenant ∧ availableTenants.has name = false)

/-- The link says the tenant to a user with this list: in an older parameter of its own, or else in
the one that is added. -/
def SaysTenant (params : QueryParams) (tenant : String) (availableTenants : Tenants) : Prop :=
  match olderTenantParam params with
  | some older => Means older tenant availableTenants
  | none =>
    (IsCustom tenant → platform.PassesUnchanged tenant) ∧ ¬ Clashes tenant availableTenants

end SharePlatform

end SecurityDashboards
