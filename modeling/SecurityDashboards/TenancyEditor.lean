import SecurityDashboards.Lib.Machine

/-!
# The editor of the tenancy configuration

The state of `panels/tenant-list/configure_tab1.tsx` with the handlers that change it. Each handler
runs on the state of the latest render.
-/

namespace SecurityDashboards

namespace ConfigureTab1

/-- `default_tenant` is `none` for the `false` that the page starts with. -/
structure TenancyConfigSettings where
  multitenancy_enabled : Bool
  private_tenant_enabled : Bool
  default_tenant : Option String
deriving DecidableEq

/-- What the page reads of the answer of the server. -/
structure DashboardsInfo where
  multitenancy_enabled : Option Bool
  private_tenant_enabled : Option Bool
  default_tenant : Option String

structure State where
  originalConfiguration : TenancyConfigSettings
  updatedConfiguration : TenancyConfigSettings
  showErrorWarning : Bool := false
  changeInMultiTenancyOption : ℕ := 0
  changeInPrivateTenantOption : ℕ := 0
  changeInDefaultTenantOption : ℕ := 0
  /-- The labels of the selected options. -/
  selectedComboBoxOptions : Option (List String) := none
deriving DecidableEq

/-- The page when it has loaded, where `none` is a request that failed. -/
def fetchData (dashboardsInfo : Option DashboardsInfo) : State :=
  let configuration : TenancyConfigSettings :=
    match dashboardsInfo with
    | none =>
      { multitenancy_enabled := false, private_tenant_enabled := false, default_tenant := none }
    | some info =>
      { multitenancy_enabled := info.multitenancy_enabled.getD false
        private_tenant_enabled := info.private_tenant_enabled.getD false
        default_tenant := some (info.default_tenant.getD "") }
  { originalConfiguration := configuration, updatedConfiguration := configuration }

namespace State

def onSwitchChangeTenancyEnabled (s : State) : State :=
  { s with
    updatedConfiguration :=
      { multitenancy_enabled := !s.updatedConfiguration.multitenancy_enabled
        private_tenant_enabled := s.updatedConfiguration.private_tenant_enabled
        default_tenant := s.updatedConfiguration.default_tenant }
    changeInMultiTenancyOption :=
      if s.originalConfiguration.multitenancy_enabled =
          s.updatedConfiguration.multitenancy_enabled then 1 else 0 }

def onSwitchChangePrivateTenantEnabled (s : State) : State :=
  { s with
    updatedConfiguration :=
      { multitenancy_enabled := s.updatedConfiguration.multitenancy_enabled
        private_tenant_enabled := !s.updatedConfiguration.private_tenant_enabled
        default_tenant := s.updatedConfiguration.default_tenant }
    changeInPrivateTenantOption :=
      if s.originalConfiguration.private_tenant_enabled =
          s.updatedConfiguration.private_tenant_enabled then 1 else 0
    showErrorWarning :=
      s.updatedConfiguration.default_tenant = some "Private" &&
        s.updatedConfiguration.private_tenant_enabled }

/-- Counter and warning read the configuration before the change. -/
def updateDefaultTenant (newDefaultTenant : String) (s : State) : State :=
  { s with
    updatedConfiguration :=
      { multitenancy_enabled := s.updatedConfiguration.multitenancy_enabled
        private_tenant_enabled := s.updatedConfiguration.private_tenant_enabled
        default_tenant := some newDefaultTenant }
    changeInDefaultTenantOption :=
      if s.originalConfiguration.default_tenant =
          s.updatedConfiguration.default_tenant then 1 else 0
    showErrorWarning :=
      s.updatedConfiguration.default_tenant = some "Private" &&
        !s.updatedConfiguration.private_tenant_enabled }

def onChangeComboBoxOptions (selectedComboBoxOptionsAfterChange : List String) (s : State) :
    State :=
  let s := { s with selectedComboBoxOptions := some selectedComboBoxOptionsAfterChange }
  match selectedComboBoxOptionsAfterChange with
  | [] => s
  | label :: _ => s.updateDefaultTenant label

def resetChanges (s : State) : State :=
  { s with
    changeInMultiTenancyOption := 0
    changeInPrivateTenantOption := 0
    changeInDefaultTenantOption := 0
    selectedComboBoxOptions := none }

def discardChangesFunction (s : State) : State :=
  { s.resetChanges with updatedConfiguration := s.originalConfiguration }

/-- What the confirmed modal does with the two configurations that it was opened with. -/
def handleSave (accepted : Bool)
    (originalConfigurationPassed updatedConfigurationPassed : TenancyConfigSettings) (s : State) :
    State :=
  if accepted then
    { s.resetChanges with originalConfiguration := updatedConfigurationPassed }
  else
    { s.resetChanges with updatedConfiguration := originalConfigurationPassed }

/-- The number of unsaved changes. -/
def unsavedChanges (s : State) : ℕ :=
  s.changeInMultiTenancyOption + s.changeInPrivateTenantOption + s.changeInDefaultTenantOption

/-- The bar with the buttons that save and discard the changes is shown. -/
def bottomBar (s : State) : Bool :=
  !s.showErrorWarning && decide (s.unsavedChanges > 0)

end State

inductive Event where
  | onSwitchChangeTenancyEnabled
  | onSwitchChangePrivateTenantEnabled
  | onChangeComboBoxOptions (labels : List String)
  | discardChangesFunction
  | handleSave (accepted : Bool)
deriving DecidableEq

/-- The configuration that an event sends to the server, and the state after it. -/
def step (event : Event) (s : State) : Option TenancyConfigSettings × State :=
  match event with
  | .onSwitchChangeTenancyEnabled => (none, s.onSwitchChangeTenancyEnabled)
  | .onSwitchChangePrivateTenantEnabled => (none, s.onSwitchChangePrivateTenantEnabled)
  | .onChangeComboBoxOptions labels => (none, s.onChangeComboBoxOptions labels)
  | .discardChangesFunction => (none, s.discardChangesFunction)
  | .handleSave accepted =>
    (some s.updatedConfiguration,
      s.handleSave accepted s.originalConfiguration s.updatedConfiguration)

/-! ## What the editor promises -/

/-- The private tenant is the default one although it is disabled. -/
def TenancyConfigSettings.Invalid (configuration : TenancyConfigSettings) : Prop :=
  configuration.default_tenant = some "Private" ∧ configuration.private_tenant_enabled = false

/-- Changes are counted exactly if there are any. -/
def ChangesCounted (s : State) : Prop :=
  s.unsavedChanges ≠ 0 ↔ s.updatedConfiguration ≠ s.originalConfiguration

/-- The warning is shown exactly for an invalid configuration, so that counted changes can be saved
exactly if they are valid. -/
structure WarnsExactly (s : State) : Prop where
  warning : s.showErrorWarning = true ↔ s.updatedConfiguration.Invalid
  offered : s.bottomBar = true ↔ 0 < s.unsavedChanges ∧ ¬ s.updatedConfiguration.Invalid

/-- A chosen default tenant departs from the original one or returns to it. -/
def DepartsOrReturns : Event → State → Prop
  | .onChangeComboBoxOptions (label :: _), s =>
    s.updatedConfiguration.default_tenant = s.originalConfiguration.default_tenant ↔
      some label ≠ s.originalConfiguration.default_tenant
  | _, _ => True

/-- While the private tenant is disabled, a chosen default tenant is the private one exactly if the
one before is. Discarded changes and those that could not be saved are invalid exactly if the original
configuration is. -/
def KeepsValidity : Event → State → Prop
  | .onChangeComboBoxOptions (label :: _), s =>
    s.updatedConfiguration.private_tenant_enabled = false →
      (s.updatedConfiguration.default_tenant = some "Private" ↔ label = "Private")
  | .discardChangesFunction, s | .handleSave false, s =>
    s.updatedConfiguration.Invalid ↔ s.originalConfiguration.Invalid
  | _, _ => True

/-- One of the two switches of the page. -/
def Event.IsSwitch : Event → Prop
  | .onSwitchChangeTenancyEnabled | .onSwitchChangePrivateTenantEnabled => True
  | _ => False

end ConfigureTab1

end SecurityDashboards
