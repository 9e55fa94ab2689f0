import SecurityDashboards.Lib.ConfigSchema

/-!
# Sharing a resource

`ShareAccessModal` of `apps/resource-sharing/resource-sharing-panel.tsx`, in which a user edits with
whom a resource is shared, and the schemas of `routes/resource_access_management_routes.ts` for what
it submits.
-/

namespace SecurityDashboards

open ConfigSchema

namespace ResourceSharing

/-! ## Recipients and levels -/

structure ShareRecipients where
  users : Option (List String) := none
  roles : Option (List String) := none
  backend_roles : Option (List String) := none
deriving DecidableEq

/-- `keyof ShareRecipients` -/
inductive RecipientKey where
  | users
  | roles
  | backend_roles
deriving DecidableEq

namespace RecipientKey

def name : RecipientKey → String
  | users => "users"
  | roles => "roles"
  | backend_roles => "backend_roles"

/-- The list over which `diffShareWith` loops. -/
def keys : List RecipientKey := [users, roles, backend_roles]

end RecipientKey

namespace ShareRecipients

def get (r : ShareRecipients) : RecipientKey → Option (List String)
  | .users => r.users
  | .roles => r.roles
  | .backend_roles => r.backend_roles

def set (r : ShareRecipients) (key : RecipientKey) (values : List String) : ShareRecipients :=
  match key with
  | .users => { r with users := some values }
  | .roles => { r with roles := some values }
  | .backend_roles => { r with backend_roles := some values }

end ShareRecipients

/-- The recipients of each access level. -/
abbrev ShareWith := Js.PlainObject ShareRecipients

/-- `sw[g] || {}`, for a name that no object inherits: only own properties are read. -/
def recipientsAt (sw : ShareWith) (g : String) : ShareRecipients := (sw.own g).getD {}

def hasNonEmptyRecipients (r : ShareRecipients) : Bool :=
  RecipientKey.keys.any fun key => decide (((r.get key).getD []).length > 0)

def hasNonEmptyShareWith (sw : ShareWith) : Bool :=
  sw.props.any fun level => hasNonEmptyRecipients level.2

def emptyLevels (sw : ShareWith) : List String :=
  (sw.props.filter fun level => !hasNonEmptyRecipients level.2).map Prod.fst

/-! ## The difference of two states -/

/-- `sw[g] = sw[g] || {}` and then `sw[g][k] = [...(sw[g][k] || []), ...values]`, if there are
values. -/
def appendRecipients (sw : ShareWith) (g : String) (k : RecipientKey) (values : List String) :
    ShareWith :=
  if values.length > 0 then
    sw.put g ((recipientsAt sw g).set k (((recipientsAt sw g).get k).getD [] ++ values))
  else sw

structure ShareDiff where
  add : Option ShareWith
  revoke : Option ShareWith

/-- The set `pSet` or `nSet`. -/
def recipientSet (sw : ShareWith) (g : String) (k : RecipientKey) : List String :=
  (((recipientsAt sw g).get k).getD []).eraseDups

/-- One round of the inner loop, on the objects `add` and `revoke`. -/
def diffRound (prev next : ShareWith) (g : String) (acc : ShareWith × ShareWith)
    (k : RecipientKey) : ShareWith × ShareWith :=
  let pSet := recipientSet prev g k
  let nSet := recipientSet next g k
  (appendRecipients acc.1 g k (nSet.filter fun x => !pSet.contains x),
    appendRecipients acc.2 g k (pSet.filter fun x => !nSet.contains x))

/-- The loops over the levels and the keys. -/
def diffLoop (prev next : ShareWith) (levels : List String) : ShareWith × ShareWith :=
  levels.foldl (fun acc g => RecipientKey.keys.foldl (diffRound prev next g) acc) (.empty, .empty)

/-- There are no levels, or all of them are without recipients. -/
def empty (sw : ShareWith) : Bool :=
  sw.keys.isEmpty || sw.props.all fun level => !hasNonEmptyRecipients level.2

def diffShareWith (prev next : ShareWith) : ShareDiff :=
  let changed := diffLoop prev next (prev.keys ++ next.keys).eraseDups
  { add := if empty changed.1 then none else some changed.1
    revoke := if empty changed.2 then none else some changed.2 }

/-! ## The modal -/

inductive Mode where
  | create
  | edit
deriving DecidableEq

/-- The properties with which the modal is opened. -/
structure ShareAccessModal where
  mode : Mode
  resource_id : String
  share_with : Option ShareWith := none
  resourceTypeIndex : String
  accessLevels : Option (List String) := none

/-- What the user can do before the submit. -/
inductive Edit where
  | addLevel
  | removeLevel (g : String)
  | setLevelName (g newName : String)
  | setRecipients (g : String) (key : RecipientKey) (values : List String)

namespace ShareAccessModal

variable (modal : ShareAccessModal)

def original : ShareWith := modal.share_with.getD .empty

/-- The state `working` at first. -/
def initial : ShareWith :=
  match modal.mode with
  | .edit => modal.original
  | .create => .empty

def ACCESS_LEVELS : List String := (modal.accessLevels.getD []).eraseDups

def addLevel (working : ShareWith) : ShareWith :=
  match modal.ACCESS_LEVELS.find? fun level => !working.keys.contains level with
  | none => working
  | some base => if base = "" then working else working.put base {}

def removeLevel (working : ShareWith) (g : String) : ShareWith := working.delete g

/-- A name that is in use, and one that every object inherits, is not taken. -/
def setLevelName (working : ShareWith) (g newName : String) : ShareWith :=
  if newName = "" ∨ newName = g then working
  else if working.has newName then working
  else (working.put newName (recipientsAt working g)).delete g

def setRecipients (working : ShareWith) (g : String) (key : RecipientKey) (values : List String) :
    ShareWith :=
  working.put g ((recipientsAt working g).set key values)

def step (working : ShareWith) : Edit → ShareWith
  | .addLevel => modal.addLevel working
  | .removeLevel g => removeLevel working g
  | .setLevelName g newName => setLevelName working g newName
  | .setRecipients g key values => setRecipients working g key values

/-- The state after some edits. -/
def run (edits : List Edit) : ShareWith := edits.foldl modal.step modal.initial

/-! ### The submit button -/

variable (working : ShareWith)

def diff : ShareDiff := diffShareWith modal.original working

def hasChanges : Bool :=
  match modal.mode with
  | .create => hasNonEmptyShareWith working
  | .edit => (modal.diff working).add.isSome || (modal.diff working).revoke.isSome

def isInvalid : Bool := decide ((emptyLevels working).length > 0)

/-- The button is enabled, as long as nothing is being submitted. -/
def canSubmit : Bool := modal.hasChanges working && !isInvalid working

def disabledReason : Option String :=
  if isInvalid working then
    some ("These access-levels have no recipients: " ++ ", ".intercalate (emptyLevels working))
  else if !modal.hasChanges working then
    match modal.mode with
    | .create => some "Add at least one user, role, or backend role to share."
    | .edit => some "No changes detected."
  else none

end ShareAccessModal

/-! ### The request -/

def ShareRecipients.toJson (r : ShareRecipients) : Json :=
  .object (RecipientKey.keys.filterMap fun key =>
    (r.get key).map fun values => (key.name, .array (values.map .string)))

def shareWithJson (sw : ShareWith) : Json :=
  .object (sw.props.map fun level => (level.1, level.2.toJson))

/-- A property with this value, if there is one. -/
def optional (name : String) (sw : Option ShareWith) : List (String × Json) :=
  (sw.map fun sw => (name, shareWithJson sw)).toList

/-- The payload that `handleSubmit` hands to `onSubmit`, if it does. -/
def ShareAccessModal.handleSubmit (modal : ShareAccessModal) (working : ShareWith) : Option Json :=
  match modal.mode with
  | .create => some (.object [("resource_id", .string modal.resource_id),
      ("resource_type", .string modal.resourceTypeIndex), ("share_with", shareWithJson working)])
  | .edit =>
    let diff := modal.diff working
    if !diff.add.isSome && !diff.revoke.isSome then none
    else some (.object ([("resource_id", .string modal.resource_id),
      ("resource_type", .string modal.resourceTypeIndex)] ++ optional "add" diff.add ++
        optional "revoke" diff.revoke))

/-! ## The schemas of the server -/

section Schemas

variable (schema : Builder)

def stringArray : schema.Schema := schema.arrayOf (schema.string 0)

def recipientsSchema : schema.Schema :=
  schema.object
    [("users", schema.maybe (stringArray schema)), ("roles", schema.maybe (stringArray schema)),
      ("backend_roles", schema.maybe (stringArray schema))]
    .forbid fun v =>
      if !truthy (v.lookup "users") && !truthy (v.lookup "roles") &&
          !truthy (v.lookup "backend_roles") then
        some ("Each share_with entry must include at least one of \"users\", \"roles\", or " ++
          "\"backend_roles\".")
      else none

def shareWithSchema : schema.Schema :=
  schema.recordOf (schema.string 0) (recipientsSchema schema)

/-- `Object.keys(value).length === 0` -/
def hasNoKeys : Option Json → Bool
  | some (.object props) => props.isEmpty
  | _ => true

def putBodySchema : schema.Schema :=
  schema.object
    [("resource_id", schema.string 1), ("resource_type", schema.string 1),
      ("share_with", shareWithSchema schema)]
    .allow fun val =>
      if hasNoKeys (val.lookup "share_with") then some "\"share_with\" must not be empty." else none

def postBodySchema : schema.Schema :=
  schema.object
    [("resource_id", schema.string 1), ("resource_type", schema.string 1),
      ("add", schema.maybe (shareWithSchema schema)),
      ("revoke", schema.maybe (shareWithSchema schema))]
    .forbid fun value =>
      if !truthy (value.lookup "add") && !truthy (value.lookup "revoke") then
        some "Request body must include at least one of \"add\" or \"revoke\"."
      else none

/-- The schema of the route to which the modal submits. -/
def bodySchema : Mode → schema.Schema
  | .create => putBodySchema schema
  | .edit => postBodySchema schema

end Schemas

/-! ## Plain names -/

/-- No name of a level is inherited from `Object.prototype`. -/
def PlainLevels (sw : ShareWith) : Prop := ∀ g ∈ sw.keys, g ∉ Js.objectPrototype

instance (sw : ShareWith) : Decidable (PlainLevels sw) :=
  inferInstanceAs (Decidable (∀ g ∈ sw.keys, g ∉ Js.objectPrototype))

/-- Neither the levels of the resource nor the suggested ones have inherited names. -/
structure ShareAccessModal.PlainNames (modal : ShareAccessModal) : Prop where
  original : PlainLevels modal.original
  suggested : ∀ g ∈ modal.accessLevels.getD [], g ∉ Js.objectPrototype

/-- The edit is one of a level whose name is not inherited. -/
def Edit.OfPlainLevel : Edit → Prop
  | addLevel => True
  | removeLevel g => g ∉ Js.objectPrototype
  | setLevelName g _ => g ∉ Js.objectPrototype
  | setRecipients g _ _ => g ∉ Js.objectPrototype

instance : DecidablePred Edit.OfPlainLevel
  | .addLevel => isTrue trivial
  | .removeLevel g => inferInstanceAs (Decidable (g ∉ Js.objectPrototype))
  | .setLevelName g _ => inferInstanceAs (Decidable (g ∉ Js.objectPrototype))
  | .setRecipients g _ _ => inferInstanceAs (Decidable (g ∉ Js.objectPrototype))

end ResourceSharing

end SecurityDashboards
