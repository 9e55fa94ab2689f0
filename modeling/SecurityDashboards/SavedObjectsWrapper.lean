import SecurityDashboards.AuthState
import SecurityDashboards.Lib.Machine

/-!
# The saved objects client wrapper

`saved_objects/saved_objects_wrapper.ts`. A wrapped client is made for one request. Its operations
share the closure variable `namespaceValue`, which is passed along explicitly: every operation reads
the value that the operations before it left. Up to the call of the underlying client an operation
does not await anything, so operations that run concurrently are still taken one after the other.

The documents that an operation only passes on have the type `δ`.
-/

namespace SecurityDashboards

/-- A value in a place where a namespace belongs. The callers choose what they pass. -/
inductive Namespace where
  | undefined
  | name (s : String)
  /-- Any other value, with its truthiness. -/
  | other (truthy : Bool) (value : ℕ)
deriving DecidableEq

namespace Namespace

def ofTenant : Option String → Namespace
  | none => undefined
  | some s => name s

def truthy : Namespace → Bool
  | undefined => false
  | name s => s != ""
  | other t _ => t

end Namespace

/-- A value or an array of values. -/
inductive OneOrMany (α : Type) where
  | one (a : α)
  | many (l : List α)

/-- `Array.isArray(x) ? x : [x]` -/
def OneOrMany.toList {α : Type} : OneOrMany α → List α
  | one a => [a]
  | many l => l

/-- The options of every operation but `find`; the wrapper only sets the namespace. -/
structure BaseOptions where
  namespace_ : Option (List Namespace) := none

/-- The options of `find`. An absent `type` or `namespaces` is the one value `undefined`, and a map is
the list of its entries. -/
structure FindOptions where
  type : OneOrMany (Option String)
  namespaces : OneOrMany Namespace := .one .undefined
  typeToNamespacesMap : Option (List (String × List Namespace)) := none

/-- `!!options.namespaces`: an array is truthy, also the empty one. -/
def FindOptions.hasNamespaces (options : FindOptions) : Bool :=
  match options.namespaces with
  | .one n => n.truthy
  | .many _ => true

/-- A call of one of the wrapped operations. -/
inductive Operation (δ : Type) where
  | create (type : String) (attributes : δ) (options : Option BaseOptions)
  | bulkGet (objects : Option (List δ)) (options : Option BaseOptions)
  | find (options : Option FindOptions)
  | get (type id : String) (options : Option BaseOptions)
  | update (type id : String) (attributes : δ) (options : Option BaseOptions)
  | bulkCreate (objects : List δ) (options : Option BaseOptions)
  | bulkUpdate (objects : List δ) (options : Option BaseOptions)
  | delete (type id : String) (options : Option BaseOptions)
  | checkConflicts (objects : Option (List δ)) (options : Option BaseOptions)

/-- A call of the underlying client. -/
inductive ClientCall (δ : Type) where
  | create (type : String) (attributes : δ) (options : Option BaseOptions)
  | bulkGet (objects : List δ) (options : Option BaseOptions)
  | find (options : FindOptions)
  | get (type id : String) (options : Option BaseOptions)
  | update (type id : String) (attributes : δ) (options : Option BaseOptions)
  | bulkCreate (objects : List δ) (options : Option BaseOptions)
  | bulkUpdate (objects : List δ) (options : Option BaseOptions)
  | delete (type id : String) (options : Option BaseOptions)
  | checkConflicts (objects : List δ) (options : Option BaseOptions)

/-- What a wrapper closes over: the auth state of its request and the configuration. -/
structure Wrapper where
  state : AuthState
  config : SecurityPluginConfig

namespace Wrapper

variable {δ : Type} (w : Wrapper)

def selectedTenant : Option String := w.state.selectedTenant

/-- `state.authInfo?.user_name` -/
def username : Option String := w.state.authInfo.bind (·.user_name)

def isGlobalEnabled : Bool := w.config.multitenancy.tenants.enable_global

def isPrivateEnabled : Bool := w.config.multitenancy.tenants.enable_private

/-- The user name in a string concatenation. -/
def usernameText : String := w.username.getD "undefined"

def isAPrivateTenant (selectedTenant : Option String) (isPrivateEnabled : Bool) : Bool :=
  selectedTenant.isSome && isPrivateEnabled && isPrivateTenant selectedTenant

def getNamespaceValue : Namespace :=
  if isAPrivateTenant w.selectedTenant w.isPrivateEnabled then
    .name (PRIVATE_TENANT_SYMBOL ++ w.usernameText)
  else .ofTenant w.selectedTenant

/-- `_.assign(options, { namespace: [namespaceValue] })`: without an options object the result goes
nowhere. -/
def assignNamespace (namespaceValue : Namespace) (options : Option BaseOptions) :
    Option BaseOptions :=
  options.map fun options => { options with namespace_ := some [namespaceValue] }

/-! ## The operations -/

def createWithNamespace (type : String) (attributes : δ) (options : Option BaseOptions) :
    ClientCall δ × Namespace :=
  let namespaceValue := w.getNamespaceValue
  (.create type attributes (assignNamespace namespaceValue options), namespaceValue)

def bulkGetWithNamespace (objects : Option (List δ)) (options : Option BaseOptions) :
    ClientCall δ × Namespace :=
  let objects := objects.getD []
  let options := options.getD {}
  let namespaceValue := w.getNamespaceValue
  (.bulkGet objects (assignNamespace namespaceValue (some options)), namespaceValue)

def getWithNamespace (type id : String) (options : Option BaseOptions) :
    ClientCall δ × Namespace :=
  let options := options.getD {}
  let namespaceValue := w.getNamespaceValue
  (.get type id (assignNamespace namespaceValue (some options)), namespaceValue)

def updateWithNamespace (type id : String) (attributes : δ) (options : Option BaseOptions) :
    ClientCall δ × Namespace :=
  let options := options.getD {}
  let namespaceValue := w.getNamespaceValue
  (.update type id attributes (assignNamespace namespaceValue (some options)), namespaceValue)

def bulkCreateWithNamespace (objects : List δ) (options : Option BaseOptions) :
    ClientCall δ × Namespace :=
  let namespaceValue := w.getNamespaceValue
  (.bulkCreate objects (assignNamespace namespaceValue options), namespaceValue)

def bulkUpdateWithNamespace (objects : List δ) (options : Option BaseOptions) :
    ClientCall δ × Namespace :=
  let namespaceValue := w.getNamespaceValue
  (.bulkUpdate objects (assignNamespace namespaceValue options), namespaceValue)

def deleteWithNamespace (type id : String) (options : Option BaseOptions) :
    ClientCall δ × Namespace :=
  let options := options.getD {}
  let namespaceValue := w.getNamespaceValue
  (.delete type id (assignNamespace namespaceValue (some options)), namespaceValue)

def checkConflictsWithNamespace (objects : Option (List δ)) (options : Option BaseOptions) :
    ClientCall δ × Namespace :=
  let objects := objects.getD []
  let options := options.getD {}
  let namespaceValue := w.getNamespaceValue
  (.checkConflicts objects (assignNamespace namespaceValue (some options)), namespaceValue)

/-! ## `find` -/

/-- The list of tenant names that `findWithNamespace` computes. -/
def availableTenantNames (tenants : Tenants) : List String :=
  let names := tenants.keys ++ [DEFAULT_TENANT]
  let names := if w.isGlobalEnabled then names ++ [GLOBAL_TENANT_SYMBOL] else names
  let names :=
    if w.isPrivateEnabled then names ++ [PRIVATE_TENANT_SYMBOL ++ w.usernameText] else names
  if names.contains globalTenantName then
    let names := names.erase globalTenantName
    match w.username with
    | some username => names.erase username
    | none => names
  else names

/-- The value of `namespaceValue` in the rest of `findWithNamespace`. -/
def findNamespaceValue (namespaceValue : Namespace) : Namespace :=
  if isPrivateTenant w.selectedTenant then .name (PRIVATE_TENANT_SYMBOL ++ w.usernameText)
  else namespaceValue

/-- A type as a property name. -/
def typeKey (type : Option String) : String := type.getD "undefined"

/-- The map that `findWithNamespace` builds when the caller names namespaces. -/
def typeToNamespacesMap (searchTypes : List (Option String)) (namespacesToInclude : List Namespace)
    (namespaceValue : Namespace) : Js.Assigned (List Namespace) :=
  let map := searchTypes.foldl (fun map t => map.set (typeKey t) namespacesToInclude) .empty
  if searchTypes.contains (some "config") then
    if namespacesToInclude.contains namespaceValue then map.set "config" [namespaceValue]
    else map.remove "config"
  else map

/-- The options that `findWithNamespace` passes on. The names of the available tenants play no part. -/
def scopeFindOptions (options : FindOptions) (namespaceValue : Namespace) : FindOptions :=
  if options.hasNamespaces then
    { type := .one (some "")
      namespaces := .many []
      typeToNamespacesMap := some (typeToNamespacesMap options.type.toList
        options.namespaces.toList namespaceValue).props }
  else { options with namespaces := .many [namespaceValue] }

/-- Reading the keys of missing tenants throws before `namespaceValue` is touched, reading missing
options throws after it. -/
def findWithNamespace (options : Option FindOptions) (namespaceValue : Namespace) :
    Except JsError (ClientCall δ) × Namespace :=
  match w.state.authInfo.bind (·.tenants) with
  | none => (.error (.error "Cannot convert undefined or null to object"), namespaceValue)
  | some _ =>
    let namespaceValue := w.findNamespaceValue namespaceValue
    match options with
    | none =>
      (.error (.error "Cannot read properties of undefined (reading 'namespaces')"), namespaceValue)
    | some options => (.ok (.find (scopeFindOptions options namespaceValue)), namespaceValue)

/-! ## Runs -/

/-- One operation of the wrapped client: what it leads to, and `namespaceValue` after it. -/
def call : Operation δ → Namespace → Except JsError (ClientCall δ) × Namespace
  | .create type attributes options, _ =>
    (w.createWithNamespace type attributes options).map .ok id
  | .bulkGet objects options, _ => (w.bulkGetWithNamespace objects options).map .ok id
  | .find options, namespaceValue => w.findWithNamespace options namespaceValue
  | .get type id_ options, _ => (w.getWithNamespace type id_ options).map .ok id
  | .update type id_ attributes options, _ =>
    (w.updateWithNamespace type id_ attributes options).map .ok id
  | .bulkCreate objects options, _ => (w.bulkCreateWithNamespace objects options).map .ok id
  | .bulkUpdate objects options, _ => (w.bulkUpdateWithNamespace objects options).map .ok id
  | .delete type id_ options, _ => (w.deleteWithNamespace type id_ options).map .ok id
  | .checkConflicts objects options, _ =>
    (w.checkConflictsWithNamespace objects options).map .ok id

/-- `namespaceValue` after the operations. It starts as the selected tenant. -/
def namespaceAfter (operations : List (Operation δ)) : Namespace :=
  Machine.exec w.call operations (.ofTenant w.selectedTenant)

/-- The operations with what they lead to: an error, or a call of the underlying client. -/
def outcomes (operations : List (Operation δ)) :
    List (Operation δ × Except JsError (ClientCall δ)) :=
  Machine.trace w.call operations (.ofTenant w.selectedTenant)

end Wrapper

end SecurityDashboards
