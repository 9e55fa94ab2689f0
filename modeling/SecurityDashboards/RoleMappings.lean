import SecurityDashboards.Lib.Machine

/-!
# The mapping of a role

The users and backend roles of a role as the page of the role shows and deletes them
(`panels/role-view/role-view.tsx` and `utils/role-mapping-utils.tsx`).
-/

namespace SecurityDashboards

namespace RoleView

structure RoleMappingDetail where
  backend_roles : List String
  hosts : List String
  users : List String
deriving DecidableEq

inductive UserType where
  | internal
  | external
deriving DecidableEq

structure MappedUsersListing where
  userName : String
  userType : UserType
deriving DecidableEq

def transformRoleMappingData (rawData : RoleMappingDetail) : List MappedUsersListing :=
  let internalUsers := rawData.users.map fun mappedUser =>
    { userName := mappedUser, userType := UserType.internal }
  let externalIdentity := rawData.backend_roles.map fun mappedExternalIdentity =>
    { userName := mappedExternalIdentity, userType := UserType.external }
  internalUsers ++ externalIdentity

/-- lodash `difference`. Two values are the same one if they agree on `identity`: the text for
strings, the reference for objects. -/
def difference {α β : Type} [DecidableEq β] (identity : α → β) (array values : List α) : List α :=
  array.filter fun a => decide (identity a ∉ values.map identity)

/-- A row of the table, an object with its reference. -/
structure MappedUser extends MappedUsersListing where
  ref : ℕ
deriving DecidableEq

/-- What the page keeps of the mapping. -/
structure View where
  mappedUsers : List MappedUser := []
  selection : List MappedUser := []
  hosts : List String := []
deriving DecidableEq

/-- The page when it has loaded. Every row is an object of its own. -/
def fetchData (originalRoleMapData : Option RoleMappingDetail) : View :=
  match originalRoleMapData with
  | none => {}
  | some rawData =>
    { mappedUsers := (transformRoleMappingData rawData).zipIdx.map fun (listing, ref) =>
        { toMappedUsersListing := listing, ref := ref }
      hosts := rawData.hosts }

/-- The mapping that is sent, and the page afterwards: a failed update is only logged. -/
def handleRoleMappingDelete (accepted : Bool) (view : View) : RoleMappingDetail × View :=
  let usersToDelete := view.selection.map fun r => r.userName
  let internalUsers :=
    (view.mappedUsers.filter fun r => r.userType = .internal).map fun r => r.userName
  let externalIdentities :=
    (view.mappedUsers.filter fun r => r.userType = .external).map fun r => r.userName
  let updateObject :=
    { users := difference id internalUsers usersToDelete
      backend_roles := difference id externalIdentities usersToDelete
      hosts := view.hosts }
  (updateObject,
    if accepted then
      { view with
        mappedUsers := difference MappedUser.ref view.mappedUsers view.selection
        selection := [] }
    else view)

inductive Event where
  | onSelectionChange (selection : List MappedUser)
  | handleRoleMappingDelete (accepted : Bool)

/-- What an event sends to the backend, and the page after it. -/
def step (event : Event) (view : View) : Option RoleMappingDetail × View :=
  match event with
  | .onSelectionChange selection => (none, { view with selection := selection })
  | .handleRoleMappingDelete accepted =>
    let (updateObject, view) := handleRoleMappingDelete accepted view
    (some updateObject, view)

/-- The page after the events, for a role with this mapping. -/
def viewAfter (rawData : RoleMappingDetail) (events : List Event) : View :=
  Machine.exec step events (fetchData (some rawData))

/-- Deleting the selection sends a mapping that, read back, has the shown rows without the selected
ones and no other pair of a kind and a name, which are the rows that the page shows afterwards, and
the hosts as they were. -/
structure DeletesExactly (hosts : List String) (view : View) : Prop where
  rows : transformRoleMappingData (handleRoleMappingDelete true view).1 =
    (view.mappedUsers.filter fun row => row ∉ view.selection).map (·.toMappedUsersListing)
  pairs (listing : MappedUsersListing) :
    listing ∈ transformRoleMappingData (handleRoleMappingDelete true view).1 ↔
      listing ∈ view.mappedUsers.map (·.toMappedUsersListing) ∧
        listing ∉ view.selection.map (·.toMappedUsersListing)
  shown : transformRoleMappingData (handleRoleMappingDelete true view).1 =
    (handleRoleMappingDelete true view).2.mappedUsers.map (·.toMappedUsersListing)
  hosts : (handleRoleMappingDelete true view).1.hosts = hosts

/-- No row that stays has the name of a row that goes. -/
def NamesApart (view : View) : Prop :=
  ∀ row ∈ view.mappedUsers, row ∉ view.selection →
    ∀ selected ∈ view.selection, row.userName ≠ selected.userName

end RoleView

end SecurityDashboards
