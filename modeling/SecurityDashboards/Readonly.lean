import SecurityDashboards.TenantResolver

/-!
# Read-only users

Three places decide from the roles of a user and from `readonly_mode` whether the user is read-only:
`resolveTenant` on the server, and in the browser the tenant switch panel
(`apps/account/tenant-switch-panel.tsx`) and the setup of the plugin (`plugin.ts`).
-/

namespace SecurityDashboards

/-- The configuration in the browser, as far as the deciders read it. -/
structure ClientConfig where
  readonly_mode : Option ReadonlyModeConfig

/-- `exposeToBrowser`: the schema always gives a `readonly_mode`. -/
def SecurityPluginConfig.exposed (config : SecurityPluginConfig) : ClientConfig where
  readonly_mode := some config.readonly_mode

/-- `accountInfo.data` -/
structure AccountInfo where
  roles : List String

/-- `readonly` of the tenant switch panel. -/
def TenantSwitchPanel.readonly (config : ClientConfig) (roles : List String) : Bool :=
  roles.any fun role =>
    (config.readonly_mode.any fun mode => mode.roles.contains role) ||
      DEFAULT_READONLY_ROLES.contains role

/-- `isReadonly` in `setup`. The default stands in for a missing list only: an empty one is truthy. -/
def SecurityPlugin.isReadonly (config : ClientConfig) (accountInfo : Option AccountInfo) :
    Option Bool :=
  accountInfo.map fun accountInfo => accountInfo.roles.any fun role =>
    ((config.readonly_mode.map (·.roles)).getD DEFAULT_READONLY_ROLES).contains role

/-- The three places give the same answer for a user with these roles. -/
def ReadonlyAgree (config : SecurityPluginConfig) (roles : List String) : Prop :=
  TenantSwitchPanel.readonly config.exposed roles = isReadonly (some roles) config ∧
    SecurityPlugin.isReadonly config.exposed (some { roles }) = some (isReadonly (some roles) config)

instance (config : SecurityPluginConfig) (roles : List String) :
    Decidable (ReadonlyAgree config roles) :=
  inferInstanceAs (Decidable (_ ∧ _))

end SecurityDashboards
