import SecurityDashboards.SavedObjectsWrapper

/-!
# What a wrapped saved objects client may touch

The purpose of the wrapper: every request works in one space, the space of a user or a shared one,
and two spaces never have the same namespace. The conditions below say when the operations keep to
it.
-/

namespace SecurityDashboards

/-- A space that saved objects live in: the private one of a user, or the one of a tenant that users
share. -/
inductive Space where
  | user (username : String)
  | shared (tenant : String)
deriving DecidableEq

/-- The namespace in which the objects of a space are stored. -/
def Space.namespace_ : Space → Namespace
  | user username => .name (PRIVATE_TENANT_SYMBOL ++ username)
  | shared tenant => .name tenant

/-! ## Calls -/

namespace ClientCall

variable {δ : Type}

/-- The namespaces in the namespace option of a call, if it has one. -/
def namespaces : ClientCall δ → Option (List Namespace)
  | create _ _ options | bulkGet _ options | get _ _ options | update _ _ _ options
  | bulkCreate _ options | bulkUpdate _ options | delete _ _ options
  | checkConflicts _ options => options.bind (·.namespace_)
  | find options => some options.namespaces.toList

/-- Every namespace of a call, those of the types included. -/
def passed : ClientCall δ → List Namespace
  | find options =>
    options.namespaces.toList ++ ((options.typeToNamespacesMap.getD []).map Prod.snd).flatten
  | call => call.namespaces.getD []

end ClientCall

namespace Operation

variable {δ : Type}

def isFind : Operation δ → Bool
  | find _ => true
  | _ => false

/-- The caller leaves out the options of an operation that has no default for them. -/
def lacksOptions : Operation δ → Bool
  | create _ _ options | bulkCreate _ options | bulkUpdate _ options => options.isNone
  | _ => false

/-- A `find` in which the caller names namespaces. -/
def choosesNamespaces : Operation δ → Bool
  | find (some options) => options.hasNamespaces
  | _ => false

/-- The caller names neither namespaces nor namespaces of types. -/
def leavesNamespaces : Operation δ → Bool
  | find (some options) => !options.hasNamespaces && options.typeToNamespacesMap.isNone
  | _ => true

end Operation

namespace Wrapper

variable {δ : Type} (w : Wrapper)

/-- The user's private tenant is selected. -/
def IsPrivate : Prop := w.selectedTenant = some PRIVATE_TENANT_SYMBOL

/-- The own namespace of a request, as `find` has it. -/
def ownNamespace : Namespace := w.findNamespaceValue (.ofTenant w.selectedTenant)

/-- The tenants of the user are known, so `find` gets past its first statement. -/
def HasTenants : Prop := (w.state.authInfo.bind (·.tenants)).isSome = true

/-! ## One namespace for all operations -/

/-- All operations of the client, except a `find` in which the caller names namespaces, reach the
underlying client with the one namespace `N`. -/
def OneNamespace (operations : List (Operation δ)) : Prop :=
  ∃ N : String, ∀ operation outcome, (operation, outcome) ∈ w.outcomes operations →
    operation.choosesNamespaces = false → ∀ call, outcome = .ok call →
      call.namespaces = some [.name N]

/-- A `find` that reaches the underlying client with a namespace of its own. -/
def FindsOwn (operation : Operation δ) : Prop :=
  w.HasTenants ∧ ∃ options, operation = .find (some options) ∧ options.hasNamespaces = false

/-- Every operation gets options where it has no default for them. In a private tenant that the
configuration file disables, `find` is not mixed with other operations, unless the user name is
empty. -/
structure ScopedUse (operations : List (Operation δ)) : Prop where
  options : ∀ operation ∈ operations, operation.lacksOptions = false
  mixed : w.IsPrivate → w.isPrivateEnabled = false → w.usernameText ≠ "" →
    (∀ operation ∈ operations, operation.isFind = true) ∨
      ∀ operation ∈ operations, ¬ w.FindsOwn operation

/-! ## Readable namespaces -/

/-- The user may read the namespace `n`: `find` lists it, or it is the request's own one. -/
def Readable (n : Namespace) : Prop :=
  (∃ tenants, w.state.authInfo.bind (·.tenants) = some tenants ∧
    ∃ s ∈ w.availableTenantNames tenants, n = .name s) ∨ n = w.ownNamespace

/-- What the caller of `find` asks for stays inside the readable namespaces, or has no effect: the
only requested type is `config` (or `__proto__`, which the map cannot hold). -/
def FindsReadable (options : FindOptions) : Prop :=
  if options.hasNamespaces then
    (∀ n ∈ options.namespaces.toList, w.Readable n) ∨
      ∀ type ∈ options.type.toList, typeKey type = "config" ∨ typeKey type = "__proto__"
  else ∀ p ∈ options.typeToNamespacesMap.getD [], ∀ n ∈ p.2, w.Readable n

/-! ## Isolation -/

/-- The call of the underlying client that `operation` makes after the operations `earlier`. -/
def Sends (earlier : List (Operation δ)) (operation : Operation δ) (call : ClientCall δ) : Prop :=
  (w.call operation (w.namespaceAfter earlier)).1 = .ok call

/-- The operation makes a call with a namespace. -/
def Reaches (operation : Operation δ) : Prop :=
  if operation.isFind then w.FindsOwn operation else operation.lacksOptions = false

/-- The operation tells the private tenants of different users apart. -/
def AppendsUsername (operation : Operation δ) : Prop :=
  operation.isFind = true ∨ w.isPrivateEnabled = true

instance (operation : Operation δ) : Decidable (w.AppendsUsername operation) :=
  inferInstanceAs (Decidable (_ ∨ _))

/-- The space that an operation really works in when `tenant` is selected. -/
def spaceOf (tenant : String) (operation : Operation δ) : Space :=
  if tenant = PRIVATE_TENANT_SYMBOL ∧ w.AppendsUsername operation then .user w.usernameText
  else .shared tenant

/-- No namespace is passed both by `operation` of this client and by `operation'` of the client
`w'`, when other operations came before. -/
def IsolatedFrom (earlier : List (Operation δ)) (operation : Operation δ) (w' : Wrapper)
    (earlier' : List (Operation δ)) (operation' : Operation δ) : Prop :=
  ∀ call call', w.Sends earlier operation call → w'.Sends earlier' operation' call' →
    ∀ n ∈ call.passed, n ∉ call'.passed

end Wrapper

/-- When the private tenant of the user `username` stays apart from the tenant `tenant` of the user
`username'`: between private tenants one of the two operations has to append a user name that is
not empty, and a shared tenant must not be called like the private namespace. -/
def KeptApart (appends : Prop) (username : String) (appends' : Prop) (tenant username' : String) :
    Prop :=
  if tenant = PRIVATE_TENANT_SYMBOL then
    (appends ∧ username ≠ "") ∨ (appends' ∧ username' ≠ "")
  else appends → tenant ≠ PRIVATE_TENANT_SYMBOL ++ username

end SecurityDashboards
