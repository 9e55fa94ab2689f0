import SecurityDashboards.Lib.Routing
import SecurityDashboards.ResourceNames

/-!
# URLs of resources

`buildUrl` of `apps/configuration/utils/url-builder.tsx`, the routes of `app-router.tsx`, and the
links by which the pages of the configuration lead to each other.
-/

namespace SecurityDashboards

open Routing

/-! ## Building -/

inductive ResourceType where
  | roles
  | users
  | permissions
  | tenants
  | tenantsManageTab
  | tenantsConfigureTab
  | auth
  | auditLogging
deriving DecidableEq

def ResourceType.text : ResourceType → String
  | roles => "roles"
  | users => "users"
  | permissions => "permissions"
  | tenants => "tenants"
  | tenantsManageTab => "tenantsManageTab"
  | tenantsConfigureTab => "tenantsConfigureTab"
  | auth => "auth"
  | auditLogging => "auditLogging"

namespace ResourceUrls

inductive Action where
  | view
  | create
  | edit
  | duplicate
  | manage
  | configure
deriving DecidableEq

def Action.text : Action → String
  | view => "view"
  | create => "create"
  | edit => "edit"
  | duplicate => "duplicate"
  | manage => "manage"
  | configure => "configure"

/-- `SubAction.mapuser` -/
def mapuser : String := "mapuser"

def LANDING_PAGE_URL : String := "/getstarted"
def SUB_URL_FOR_GENERAL_SETTINGS_EDIT : String := "/edit/generalSettings"
def SUB_URL_FOR_COMPLIANCE_SETTINGS_EDIT : String := "/edit/complianceSettings"

/-- The character of a code point that is no surrogate. -/
def charOf : CodePoint → Option Char
  | .char c => some c
  | .loneSurrogate _ => none

/-- `encodeURIComponent`; `none` is the `URIError` for a surrogate. -/
def encodeURIComponent (s : JsText) : Option String :=
  (s.mapM charOf).map fun l => Js.encodeURIComponent (String.ofList l)

/-- The contents up to the first one that is undefined. -/
def joinContents (rawContents : List (Option String)) : String :=
  pathText (rawContents.takeWhile Option.isSome).reduceOption

def buildUrl (resouceType : Option ResourceType) (action : Option Action)
    (resourceId : Option JsText) (subAction : Option String) : Option String :=
  let rawContents (encodedResouceId : Option String) : List (Option String) :=
    [resouceType.map ResourceType.text, action.map Action.text, encodedResouceId, subAction]
  match resourceId with
  | none => some (joinContents (rawContents none))
  | some [] => some (joinContents (rawContents none))
  | some resourceId =>
    (encodeURIComponent resourceId).map fun encoded => joinContents (rawContents (some encoded))

def buildHashUrl (resouceType : Option ResourceType) (action : Option Action)
    (resourceId : Option JsText) (subAction : Option String) : Option String :=
  (buildUrl resouceType action resourceId subAction).map ("#" ++ ·)

/-- `buildUrl` without a resource. -/
def pageUrl (resouceType : ResourceType) (action : Option Action) : String :=
  joinContents [some resouceType.text, action.map Action.text, none, none]

/-! ## Pages -/

/-- The components of the pages, with the properties that the routes fix. -/
inductive Component where
  | RoleEditMappedUser
  | RoleView
  | RoleEdit
  | RoleList
  | AuthView
  | InternalUserEdit
  | UserList
  | AuditLoggingEditSettings (setting : String)
  | AuditLogging
  | PermissionList
  | WazuhGetStarted
  | TenantList (tabID : String)
  | Redirect
deriving DecidableEq

/-- A component with the parameters that it gets from its route. -/
structure Page where
  component : Component
  params : List (String × Option JsText) := []
deriving DecidableEq

def decodeParam (param : String × Option String) : Option (String × Option JsText) :=
  match param.2 with
  | none => some (param.1, none)
  | some value => (Js.decodeURIComponent value).map fun s => (param.1, some (JsText.ofString s))

/-- `none` is the `URIError` of one of the values. -/
def decodeParams (params : Params) : Option (List (String × Option JsText)) :=
  params.mapM decodeParam

/-- A route renders a page, unless an error is thrown. -/
structure Route where
  exact : Bool := false
  path : String
  render : Params → Option Page

/-- The page gets no parameters. -/
def renderPlain (component : Component) (_ : Params) : Option Page := some { component }

/-- The page gets the decoded parameters. -/
def renderDecoded (component : Component) (params : Params) : Option Page :=
  (decodeParams params).map fun params => { component, params }

/-- The page gets the parameters as they are. -/
def renderRaw (component : Component) (params : Params) : Option Page :=
  some { component, params := params.map fun param => (param.1, param.2.map JsText.ofString) }

/-- The children of the `Switch`. -/
def routes (multitenancyEnabled : Bool) : List Route :=
  [{ path := pageUrl .roles (some .edit) ++ "/:roleName/" ++ mapuser
     render := renderDecoded .RoleEditMappedUser },
   { path := pageUrl .roles (some .view) ++ "/:roleName/:prevAction?"
     render := renderDecoded .RoleView },
   { path := pageUrl .roles none ++ "/:action/:sourceRoleName?"
     render := renderDecoded .RoleEdit },
   { path := pageUrl .roles none
     render := renderPlain .RoleList },
   { path := pageUrl .auth none
     render := renderPlain .AuthView },
   { path := pageUrl .users none ++ "/:action/:sourceUserName?"
     render := renderDecoded .InternalUserEdit },
   { path := pageUrl .users none
     render := renderPlain .UserList },
   { path := pageUrl .auditLogging none ++ SUB_URL_FOR_GENERAL_SETTINGS_EDIT
     render := renderPlain (.AuditLoggingEditSettings "general") },
   { path := pageUrl .auditLogging none ++ SUB_URL_FOR_COMPLIANCE_SETTINGS_EDIT
     render := renderPlain (.AuditLoggingEditSettings "compliance") },
   { path := pageUrl .auditLogging none ++ "/:fromType?"
     render := renderRaw .AuditLogging },
   { path := pageUrl .permissions none
     render := renderPlain .PermissionList },
   { path := LANDING_PAGE_URL
     render := renderPlain .WazuhGetStarted }] ++
  (if multitenancyEnabled then
    [{ path := pageUrl .tenants none
       render := renderPlain (.TenantList "Manage") },
     { path := pageUrl .tenantsConfigureTab none
       render := renderPlain (.TenantList "Configure") }]
   else []) ++
  [{ exact := true
     path := "/"
     render := renderPlain .Redirect }]

/-- What the `Switch` shows. -/
inductive Shown where
  | nothing
  | error
  | page (page : Page)
deriving DecidableEq

def Shown.ofRender : Option (Option Page) → Shown
  | none => nothing
  | some none => error
  | some (some p) => page p

/-- The first route that matches renders the page. -/
def shown (router : Router) (routes : List Route) (href : String) : Shown :=
  .ofRender (routes.findSome? fun route =>
    (router.matchPath route.exact route.path (router.pathname href)).map route.render)

/-! ## Links -/

/-- The links that lead from page to page. -/
inductive Link where
  | landing
  | list (resouceType : ResourceType)
  | createRole
  | viewRole (roleName : JsText)
  | editRole (roleName : JsText)
  | duplicateRole (roleName : JsText)
  | editMappedUsers (roleName : JsText)
  | viewMappedUsers (roleName : JsText)
  | createUser
  | editUser (username : JsText)
  | duplicateUser (username : JsText)
  | editGeneralSettings
  | editComplianceSettings

namespace Link

/-- The name of the resource in the link. -/
def resourceName : Link → Option JsText
  | viewRole roleName => some roleName
  | editRole roleName => some roleName
  | duplicateRole roleName => some roleName
  | editMappedUsers roleName => some roleName
  | viewMappedUsers roleName => some roleName
  | editUser username => some username
  | duplicateUser username => some username
  | _ => none

def href : Link → Option String
  | landing => buildHashUrl none none none none
  | list resouceType => buildHashUrl (some resouceType) none none none
  | createRole => buildHashUrl (some .roles) (some .create) none none
  | viewRole roleName => buildHashUrl (some .roles) (some .view) (some roleName) none
  | editRole roleName => buildHashUrl (some .roles) (some .edit) (some roleName) none
  | duplicateRole roleName => buildHashUrl (some .roles) (some .duplicate) (some roleName) none
  | editMappedUsers roleName =>
    buildHashUrl (some .roles) (some .edit) (some roleName) (some mapuser)
  | viewMappedUsers roleName =>
    buildHashUrl (some .roles) (some .view) (some roleName) (some mapuser)
  | createUser => buildHashUrl (some .users) (some .create) none none
  | editUser username => buildHashUrl (some .users) (some .edit) (some username) none
  | duplicateUser username => buildHashUrl (some .users) (some .duplicate) (some username) none
  | editGeneralSettings => (buildHashUrl (some .auditLogging) none none none).map
      (· ++ SUB_URL_FOR_GENERAL_SETTINGS_EDIT)
  | editComplianceSettings => (buildHashUrl (some .auditLogging) none none none).map
      (· ++ SUB_URL_FOR_COMPLIANCE_SETTINGS_EDIT)

/-- The page of a type of resources. -/
def listPage : ResourceType → Page
  | .roles => { component := .RoleList }
  | .users => { component := .UserList }
  | .permissions => { component := .PermissionList }
  | .tenants => { component := .TenantList "Manage" }
  | .tenantsManageTab => { component := .TenantList "Manage" }
  | .tenantsConfigureTab => { component := .TenantList "Configure" }
  | .auth => { component := .AuthView }
  | .auditLogging => { component := .AuditLogging, params := [("fromType", none)] }

/-- A page that edits a resource: what it does and with which one. -/
def editPage (component : Component) (nameParam : String) (action : Action)
    (name : Option JsText) : Page :=
  { component, params := [("action", some (JsText.ofString action.text)), (nameParam, name)] }

/-- The page to which the link is meant to lead. -/
def page : Link → Page
  | landing => { component := .Redirect }
  | list resouceType => listPage resouceType
  | createRole => editPage .RoleEdit "sourceRoleName" .create none
  | viewRole roleName =>
    { component := .RoleView, params := [("roleName", some roleName), ("prevAction", none)] }
  | editRole roleName => editPage .RoleEdit "sourceRoleName" .edit (some roleName)
  | duplicateRole roleName => editPage .RoleEdit "sourceRoleName" .duplicate (some roleName)
  | editMappedUsers roleName =>
    { component := .RoleEditMappedUser, params := [("roleName", some roleName)] }
  | viewMappedUsers roleName =>
    { component := .RoleView
      params := [("roleName", some roleName), ("prevAction", some (JsText.ofString mapuser))] }
  | createUser => editPage .InternalUserEdit "sourceUserName" .create none
  | editUser username => editPage .InternalUserEdit "sourceUserName" .edit (some username)
  | duplicateUser username =>
    editPage .InternalUserEdit "sourceUserName" .duplicate (some username)
  | editGeneralSettings => { component := .AuditLoggingEditSettings "general" }
  | editComplianceSettings => { component := .AuditLoggingEditSettings "compliance" }

/-- No page links to the tab, and the links to the pages of tenants are there only with
multitenancy. -/
def Offered (multitenancyEnabled : Bool) : Link → Prop
  | list .tenantsManageTab => False
  | list .tenants => multitenancyEnabled = true
  | list .tenantsConfigureTab => multitenancyEnabled = true
  | _ => True

end Link

end ResourceUrls

end SecurityDashboards
