import SecurityDashboards.Lib.Machine
import SecurityDashboards.Lib.PathStore

/-!
# The editor of the audit logging settings

The configuration and the invalid settings of `panels/audit-logging/audit-logging-edit-settings.tsx`.
The handlers of a render read its state, and the calls that are made with them before the next render
change the state one after the other.
-/

namespace SecurityDashboards

namespace AuditLogging

variable {Config Path Value : Type} [DecidableEq Path]

/-- lodash `without` -/
def without (array : List Path) (value : Path) : List Path := array.filter fun p => p ≠ value

structure State (Config Path : Type) where
  editConfig : Config
  invalidSettings : List Path := []

/-- A call of a handler. -/
inductive Call (Path Value : Type) where
  | handleChange (path : Path) (val : Value)
  | handleInvalid (path : Path) (error : Bool)

section Handlers

variable (lodash : PathStore Config Path Value)

/-- The functional update does not read the configuration that it gets. -/
def handleChange (editConfig : Config) (path : Path) (val : Value)
    (_previousEditedConfig : Config) : Config :=
  lodash.set editConfig path val

def handleInvalid (invalidSettings : List Path) (path : Path) (error : Bool) : List Path :=
  let invalid := without invalidSettings path
  if error then invalid ++ [path] else invalid

/-- What a call does to the state, with the handlers of the render that showed `rendered`. -/
def callHandler (rendered : State Config Path) (call : Call Path Value) (s : State Config Path) :
    State Config Path :=
  match call with
  | .handleChange path val =>
    { s with editConfig := handleChange lodash rendered.editConfig path val s.editConfig }
  | .handleInvalid path error =>
    { s with invalidSettings := handleInvalid rendered.invalidSettings path error }

/-- The state that is rendered next, after the calls with the handlers of one render. -/
def nextRender (calls : List (Call Path Value)) (rendered : State Config Path) :
    State Config Path :=
  calls.foldl (fun s call => callHandler lodash rendered call s) rendered

/-- The configuration that the save button sends; it is disabled while a setting is invalid. -/
def State.offered (s : State Config Path) : Option Config :=
  if s.invalidSettings.isEmpty then some s.editConfig else none

/-- What is offered after the calls of a render, and the state after them. -/
def step (calls : List (Call Path Value)) (rendered : State Config Path) :
    Option Config × State Config Path :=
  let s := nextRender lodash calls rendered
  (s.offered, s)

/-- The page with the configuration that it has fetched. -/
def fetchConfig (fetchedConfig : Config) : State Config Path where
  editConfig := fetchedConfig

end Handlers

/-! ## What the editor promises -/

def Call.change? : Call Path Value → Option (Path × Value)
  | .handleChange path val => some (path, val)
  | .handleInvalid _ _ => none

def Call.report? : Call Path Value → Option (Path × Bool)
  | .handleChange _ _ => none
  | .handleInvalid path error => some (path, error)

/-- The changes that the calls make. -/
def changes (calls : List (Call Path Value)) : List (Path × Value) := calls.filterMap Call.change?

/-- What the calls report about the validity of settings. -/
def reports (calls : List (Call Path Value)) : List (Path × Bool) := calls.filterMap Call.report?

section Promise

variable (lodash : PathStore Config Path Value)

/-- The configuration has the last value of every edited path and is unchanged elsewhere, and the
invalid settings are those that were reported as such at last. -/
structure KeepsEdits (fetchedConfig : Config) (calls : List (Call Path Value))
    (s : State Config Path) : Prop where
  edited : lodash.Holds fetchedConfig (changes calls) s.editConfig
  invalid (path : Path) :
    path ∈ s.invalidSettings ↔ PathStore.lastValue (reports calls) path = some true

/-- The last value of every path that is changed in the calls is in the rendered configuration
already, save for the path that is changed last; and likewise for the reports. -/
structure LosesNothing (calls : List (Call Path Value)) (rendered : State Config Path) : Prop where
  changes : lodash.HoldsOthers (changes calls) rendered.editConfig
  reports (path : Path) (error : Bool) :
    PathStore.lastValue (reports calls) path = some error →
      (reports calls).getLast?.map Prod.fst ≠ some path →
        (path ∈ rendered.invalidSettings ↔ error = true)

end Promise

end AuditLogging

end SecurityDashboards
