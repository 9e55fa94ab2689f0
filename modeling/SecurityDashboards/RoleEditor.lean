import SecurityDashboards.Lib.JsString

/-!
# The editor of a role

The permissions of a role as `panels/role-edit` loads, shows and saves them.
-/

namespace SecurityDashboards

namespace RoleEdit

/-- An option of a combo box, of which the page reads and sets the label only. -/
structure EuiComboBoxOptionOption where
  label : String
deriving DecidableEq

abbrev ComboBoxOptions := List EuiComboBoxOptionOption

def stringToComboBoxOption (option : String) : EuiComboBoxOptionOption where
  label := option

def comboBoxOptionToString (option : EuiComboBoxOptionOption) : String := option.label

/-! ## Index permissions -/

structure RoleIndexPermission where
  index_patterns : List String
  dls : String
  fls : List String
  masked_fields : List String
  allowed_actions : List String
deriving DecidableEq

inductive FieldLevelSecurityMethod where
  | exclude
  | include
deriving DecidableEq

structure RoleIndexPermissionStateClass where
  indexPatterns : ComboBoxOptions
  docLevelSecurity : String
  fieldLevelSecurityMethod : FieldLevelSecurityMethod
  fieldLevelSecurityFields : ComboBoxOptions
  maskedFields : ComboBoxOptions
  allowedActions : ComboBoxOptions
deriving DecidableEq

def getEmptyIndexPermission : RoleIndexPermissionStateClass where
  indexPatterns := []
  allowedActions := []
  docLevelSecurity := ""
  fieldLevelSecurityMethod := .exclude
  fieldLevelSecurityFields := []
  maskedFields := []

/-- `s.startsWith('~')` -/
def IsExcluded (s : String) : Bool := Js.startsWith s "~"

/-- `s.replace(/^~/, '')` -/
def withoutTilde (s : String) : String :=
  match s.toList with
  | '~' :: l => String.ofList l
  | _ => s

def getFieldLevelSecurityMethod (fieldLevelSecurityRawFields : List String) :
    FieldLevelSecurityMethod :=
  if fieldLevelSecurityRawFields.any IsExcluded then .exclude else .include

def getFieldLevelSecurityFields (fieldLevelSecurityRawFields : List String) : ComboBoxOptions :=
  (fieldLevelSecurityRawFields.map withoutTilde).map stringToComboBoxOption

def packFieldLevelSecurity (method : FieldLevelSecurityMethod) (fieldOptions : ComboBoxOptions) :
    List String :=
  let fields := fieldOptions.map comboBoxOptionToString
  match method with
  | .include => fields
  | .exclude => fields.map fun field => "~" ++ field

def buildIndexPermission (perm : RoleIndexPermission) : RoleIndexPermissionStateClass where
  indexPatterns := perm.index_patterns.map stringToComboBoxOption
  allowedActions := perm.allowed_actions.map stringToComboBoxOption
  docLevelSecurity := perm.dls
  fieldLevelSecurityMethod := getFieldLevelSecurityMethod perm.fls
  fieldLevelSecurityFields := getFieldLevelSecurityFields perm.fls
  maskedFields := perm.masked_fields.map stringToComboBoxOption

def buildIndexPermissionState (indexPerm : List RoleIndexPermission) :
    List RoleIndexPermissionStateClass :=
  indexPerm.map buildIndexPermission

def unbuildIndexPermission (perm : RoleIndexPermissionStateClass) : RoleIndexPermission where
  index_patterns := perm.indexPatterns.map comboBoxOptionToString
  dls := perm.docLevelSecurity
  fls := packFieldLevelSecurity perm.fieldLevelSecurityMethod perm.fieldLevelSecurityFields
  masked_fields := perm.maskedFields.map comboBoxOptionToString
  allowed_actions := perm.allowedActions.map comboBoxOptionToString

def unbuildIndexPermissionState (indexPerm : List RoleIndexPermissionStateClass) :
    List RoleIndexPermission :=
  indexPerm.map unbuildIndexPermission

/-! ## Tenant permissions -/

structure RoleTenantPermission where
  tenant_patterns : List String
  allowed_actions : List String
deriving DecidableEq

inductive TenantPermissionType where
  | none
  | read
  | readWrite
deriving DecidableEq

structure RoleTenantPermissionStateClass where
  tenantPatterns : ComboBoxOptions
  permissionType : TenantPermissionType
deriving DecidableEq

def TENANT_READ_PERMISSION : String := "kibana_all_read"
def TENANT_WRITE_PERMISSION : String := "kibana_all_write"

def getEmptyTenantPermission : RoleTenantPermissionStateClass where
  tenantPatterns := []
  permissionType := .readWrite

def getTenantPermissionType (tenantPermissions : List String) : TenantPermissionType :=
  let readable := tenantPermissions.contains TENANT_READ_PERMISSION
  let writable := tenantPermissions.contains TENANT_WRITE_PERMISSION
  if writable then .readWrite
  else if readable then .read
  else .none

def buildTenantPermission (permission : RoleTenantPermission) : RoleTenantPermissionStateClass where
  tenantPatterns := permission.tenant_patterns.map stringToComboBoxOption
  permissionType := getTenantPermissionType permission.allowed_actions

def buildTenantPermissionState (permissions : List RoleTenantPermission) :
    List RoleTenantPermissionStateClass :=
  permissions.map buildTenantPermission

def TENANT_PERMISSION_TYPE_DICT : TenantPermissionType → List String
  | .readWrite => [TENANT_WRITE_PERMISSION]
  | .read => [TENANT_READ_PERMISSION]
  | .none => []

def unbuildTenantPermission (permission : RoleTenantPermissionStateClass) : RoleTenantPermission where
  tenant_patterns := permission.tenantPatterns.map comboBoxOptionToString
  allowed_actions := TENANT_PERMISSION_TYPE_DICT permission.permissionType

def unbuildTenantPermissionState (permissions : List RoleTenantPermissionStateClass) :
    List RoleTenantPermission :=
  permissions.map unbuildTenantPermission

/-! ## The page -/

/-- What the page loads of a role, and what it saves. -/
structure RoleUpdate where
  cluster_permissions : List String
  index_permissions : List RoleIndexPermission
  tenant_permissions : List RoleTenantPermission
deriving DecidableEq

/-- The state of the page. -/
structure RoleState where
  roleClusterPermission : ComboBoxOptions
  roleIndexPermission : List RoleIndexPermissionStateClass
  roleTenantPermission : List RoleTenantPermissionStateClass
deriving DecidableEq

def fetchData (roleData : RoleUpdate) : RoleState where
  roleClusterPermission := roleData.cluster_permissions.map stringToComboBoxOption
  roleIndexPermission := buildIndexPermissionState roleData.index_permissions
  roleTenantPermission := buildTenantPermissionState roleData.tenant_permissions

/-- A panel without data shows one empty row. The tenant panel is shown with multitenancy only. -/
def panels (isMultiTenancyEnabled : Bool) (state : RoleState) : RoleState :=
  { state with
    roleIndexPermission :=
      if state.roleIndexPermission.isEmpty then [getEmptyIndexPermission]
      else state.roleIndexPermission
    roleTenantPermission :=
      if isMultiTenancyEnabled && state.roleTenantPermission.isEmpty then [getEmptyTenantPermission]
      else state.roleTenantPermission }

/-- Permissions with empty patterns are not saved. -/
def updateRoleHandler (state : RoleState) : RoleUpdate :=
  let validIndexPermission := state.roleIndexPermission.filter fun v => !v.indexPatterns.isEmpty
  let validTenantPermission := state.roleTenantPermission.filter fun v => !v.tenantPatterns.isEmpty
  { cluster_permissions := state.roleClusterPermission.map comboBoxOptionToString
    index_permissions := unbuildIndexPermissionState validIndexPermission
    tenant_permissions := unbuildTenantPermissionState validTenantPermission }

/-- A role is opened and saved without an edit. -/
def savedUntouched (isMultiTenancyEnabled : Bool) (roleData : RoleUpdate) : RoleUpdate :=
  updateRoleHandler (panels isMultiTenancyEnabled (fetchData roleData))

end RoleEdit

end SecurityDashboards
