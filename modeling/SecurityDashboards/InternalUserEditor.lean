import SecurityDashboards.ConfigurationApi
import SecurityDashboards.Lib.Machine
import SecurityDashboards.Lib.Rows

/-!
# The editor of an internal user

`panels/internal-user-edit`: the rows of attributes and backend roles, the password that is typed twice,
and what the page saves.
-/

namespace SecurityDashboards

namespace InternalUserEdit

open ConfigurationApi (InternalUserUpdate)

inductive Action where
  | create
  | edit
  | duplicate
deriving DecidableEq

structure UserAttributeStateClass where
  key : String
  value : String
deriving DecidableEq

structure InternalUser where
  attributes : Js.PlainObject String
  backend_roles : List String

def buildAttributeState (attributesDict : Js.PlainObject String) : List UserAttributeStateClass :=
  attributesDict.props.map fun p => { key := p.1, value := p.2 }

/-- A later row replaces an earlier one of the same name. -/
def unbuildAttributeState (attributesList : List UserAttributeStateClass) : Js.PlainObject String :=
  attributesList.foldl (fun attributes row => attributes.put row.key row.value) .empty

def getEmptyAttribute : UserAttributeStateClass where
  key := ""
  value := ""

/-! ## The page -/

/-- The state of the page. The second password is kept by the password panel. -/
structure Editor where
  attributes : List UserAttributeStateClass
  backendRoles : List String
  password : String := ""
  repeatPassword : String := ""

/-- A panel without data shows one empty row. -/
def panels (editor : Editor) : Editor :=
  { editor with
    attributes := Rows.orEmpty getEmptyAttribute editor.attributes
    backendRoles := Rows.orEmpty "" editor.backendRoles }

/-- The page once the user is fetched; a new user has no data. -/
def fetchData (user : InternalUser) : Editor :=
  panels { attributes := buildAttributeState user.attributes, backendRoles := user.backend_roles }

inductive Event where
  | attributeKey (arrayIndex : ℕ) (key : String)
  | attributeValue (arrayIndex : ℕ) (value : String)
  | addAttribute
  | removeAttribute (arrayIndex : ℕ)
  | backendRole (arrayIndex : ℕ) (role : String)
  | addBackendRole
  | removeBackendRole (arrayIndex : ℕ)
  | password (password : String)
  | repeatPassword (password : String)

namespace Editor

/-- The edit of the attributes. -/
def attributeEdit : Event → Option (Rows.Edit UserAttributeStateClass)
  | .attributeKey arrayIndex key => some (.update arrayIndex fun row => { row with key })
  | .attributeValue arrayIndex value => some (.update arrayIndex fun row => { row with value })
  | .addAttribute => some (.append getEmptyAttribute)
  | .removeAttribute arrayIndex => some (.remove arrayIndex)
  | _ => none

/-- The edit of the backend roles: no row is added beside an empty one. -/
def roleEdit (editor : Editor) : Event → Option (Rows.Edit String)
  | .backendRole arrayIndex role => some (.update arrayIndex fun _ => role)
  | .addBackendRole => if editor.backendRoles.contains "" then none else some (.append "")
  | .removeBackendRole arrayIndex => some (.remove arrayIndex)
  | _ => none

def typePassword (editor : Editor) : Event → Editor
  | .password password => { editor with password }
  | .repeatPassword repeatPassword => { editor with repeatPassword }
  | _ => editor

def step (event : Event) (editor : Editor) : Unit × Editor :=
  ((), panels { editor.typePassword event with
    attributes := ((attributeEdit event).elim id Rows.Edit.apply) editor.attributes
    backendRoles := ((editor.roleEdit event).elim id Rows.Edit.apply) editor.backendRoles })

/-- The page after the events. -/
def after (user : InternalUser) (events : List Event) : Editor :=
  Machine.exec step events (fetchData user)

/-- The event adds, changes or removes a row of the attribute. -/
def TouchesAttribute (name : String) (event : Event) (editor : Editor) : Prop :=
  ∃ edit ∈ attributeEdit event, edit.Touches (fun row => row.key = name) editor.attributes

/-- The event adds, changes or removes a row of the backend role. -/
def TouchesRole (role : String) (event : Event) (editor : Editor) : Prop :=
  ∃ edit ∈ editor.roleEdit event, edit.Touches (fun row => row = role) editor.backendRoles

instance (name : String) (event : Event) (editor : Editor) :
    Decidable (editor.TouchesAttribute name event) :=
  inferInstanceAs (Decidable (∃ edit ∈ _, _))

instance (role : String) (event : Event) (editor : Editor) :
    Decidable (editor.TouchesRole role event) :=
  inferInstanceAs (Decidable (∃ edit ∈ _, _))

/-- What `updateUserHandler` saves, or the text of its error. -/
def updateUserHandler (action : Action) (editor : Editor) : Except String InternalUserUpdate :=
  if editor.repeatPassword ≠ editor.password then .error "Password does not match."
  else if editor.password = "" ∧ action ≠ .edit then .error "Password is required."
  else
    let validAttributes := editor.attributes.filter fun row => row.key ≠ ""
    .ok
      { backend_roles := editor.backendRoles.filter fun role => !Js.isBlank role
        attributes := unbuildAttributeState validAttributes
        password := if editor.password ≠ "" then some editor.password else none }

end Editor

end InternalUserEdit

end SecurityDashboards
