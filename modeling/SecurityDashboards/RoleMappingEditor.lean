import SecurityDashboards.Lib.Rows
import SecurityDashboards.RoleEditor
import SecurityDashboards.RoleMappings

/-!
# The editor of a role's mapping

`panels/role-mapping`: the users and backend roles that a role is mapped to. The page can be edited and
its button pressed before the mapping is fetched, or when that has failed.
-/

namespace SecurityDashboards

namespace RoleEditMappedUser

open RoleEdit (ComboBoxOptions stringToComboBoxOption comboBoxOptionToString)
open RoleView (RoleMappingDetail)

structure ExternalIdentityStateClass where
  externalIdentity : String
deriving DecidableEq

def unbuildExternalIdentityState (externalIdentities : List ExternalIdentityStateClass) :
    List String :=
  externalIdentities.map fun item => item.externalIdentity

def buildExternalIdentityState (externalIdentities : List String) :
    List ExternalIdentityStateClass :=
  externalIdentities.map fun externalIdentity => { externalIdentity }

def getEmptyExternalIdentity : ExternalIdentityStateClass where
  externalIdentity := ""

structure Page where
  internalUsers : ComboBoxOptions := []
  externalIdentities : List ExternalIdentityStateClass := []
  hosts : List String := []
deriving DecidableEq

/-- The panel of the backend roles shows one empty row if there is no data. -/
def panel (page : Page) : Page :=
  { page with
    externalIdentities := Rows.orEmpty getEmptyExternalIdentity page.externalIdentities }

/-- The page with this mapping. -/
def showing (originalRoleMapData : RoleMappingDetail) : Page :=
  panel
    { internalUsers := originalRoleMapData.users.map stringToComboBoxOption
      externalIdentities := buildExternalIdentityState originalRoleMapData.backend_roles
      hosts := originalRoleMapData.hosts }

/-- No user, no backend role and no host. -/
def noMapping : RoleMappingDetail where
  users := []
  backend_roles := []
  hosts := []

/-- What the page starts with. -/
def initial : Page := panel {}

inductive Event where
  /-- The answer of `getRoleMappingData`: the message of an error, or the mapping if there is one. -/
  | fetched (answer : Except String (Option RoleMappingDetail))
  /-- `onChange` of the combo box of users -/
  | setInternalUsers (state : ComboBoxOptions)
  /-- Its `onCreateOption` -/
  | createUser (newValue : String)
  | externalIdentity (arrayIndex : ℕ) (value : String)
  | addExternalIdentity
  | removeExternalIdentity (arrayIndex : ℕ)
  /-- The button that saves. -/
  | map

/-- The mapping of an answer that has one. -/
def Event.mapping : Event → Option RoleMappingDetail
  | fetched (.ok data) => data
  | _ => none

/-- The edit of the backend roles. -/
def Event.identityEdit : Event → Option (Rows.Edit ExternalIdentityStateClass)
  | externalIdentity arrayIndex value =>
    some (.update arrayIndex fun row => { row with externalIdentity := value })
  | addExternalIdentity => some (.append getEmptyExternalIdentity)
  | removeExternalIdentity arrayIndex => some (.remove arrayIndex)
  | _ => none

namespace Page

/-- What `updateRoleMappingHandler` saves. -/
def updateObject (page : Page) : RoleMappingDetail :=
  let validExternalIdentities := page.externalIdentities.filter fun v => v.externalIdentity ≠ ""
  { users := page.internalUsers.map comboBoxOptionToString
    backend_roles := unbuildExternalIdentityState validExternalIdentities
    hosts := page.hosts }

def editUsers (page : Page) : Event → ComboBoxOptions
  | .setInternalUsers state => state
  | .createUser newValue => page.internalUsers ++ [{ label := newValue }]
  | _ => page.internalUsers

/-- The mapping that an event saves, and the page after it. A fetch that fails, or finds no mapping,
leaves the page as it is. -/
def step (event : Event) (page : Page) : Option RoleMappingDetail × Page :=
  match event.mapping with
  | some originalRoleMapData => (none, showing originalRoleMapData)
  | none =>
    (match event with
      | .map => some page.updateObject
      | _ => none,
    panel { page with
      internalUsers := page.editUsers event
      externalIdentities := (event.identityEdit.elim id Rows.Edit.apply) page.externalIdentities })

/-- How often the user is selected. -/
def selections (page : Page) (user : String) : ℕ :=
  (page.internalUsers.map comboBoxOptionToString).count user

/-- The event adds the user to the selected ones, or changes how often it is selected. -/
def TouchesUser (user : String) (event : Event) (page : Page) : Prop :=
  match event with
  | .createUser newValue => user = newValue
  | .setInternalUsers state => (state.map comboBoxOptionToString).count user ≠ page.selections user
  | _ => False

/-- The event adds, changes or removes a row of the backend role. -/
def TouchesRole (role : String) (event : Event) (page : Page) : Prop :=
  ∃ edit ∈ event.identityEdit,
    edit.Touches (fun row => row.externalIdentity = role) page.externalIdentities

instance (user : String) (event : Event) (page : Page) : Decidable (page.TouchesUser user event) :=
  match event with
  | .createUser newValue => inferInstanceAs (Decidable (user = newValue))
  | .setInternalUsers _ => inferInstanceAs (Decidable (_ ≠ _))
  | .fetched _ => inferInstanceAs (Decidable False)
  | .externalIdentity _ _ => inferInstanceAs (Decidable False)
  | .addExternalIdentity => inferInstanceAs (Decidable False)
  | .removeExternalIdentity _ => inferInstanceAs (Decidable False)
  | .map => inferInstanceAs (Decidable False)

instance (role : String) (event : Event) (page : Page) : Decidable (page.TouchesRole role event) :=
  inferInstanceAs (Decidable (∃ edit ∈ _, _))

end Page

/-- The mapping that the page has, which is the latest one that was fetched, or none; and the events
since it was fetched. -/
def sinceFetched (events : List Event) : RoleMappingDetail × List Event :=
  Machine.since Event.mapping noMapping events

end RoleEditMappedUser

end SecurityDashboards
