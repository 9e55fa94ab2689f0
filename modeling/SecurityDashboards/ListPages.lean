import SecurityDashboards.Common
import SecurityDashboards.Lib.JsArray
import SecurityDashboards.RoleMappings

/-!
# The pages that list entities

The tables of `panels/user-list.tsx`, `panels/role-list.tsx`, `panels/permission-list` and
`panels/tenant-list/manage_tab.tsx`: what they load, select and delete. The requests of a deletion are
sent one after the other. While they are on their way, the page may load again, perhaps from another
data source, or start another deletion.
-/

namespace SecurityDashboards

/-! ## The backend -/

/-- The `API_ENDPOINT_` constants of the pages. -/
inductive Endpoint where
  | internalusers
  | roles
  | rolesmapping
  | actiongroups
  | tenants
deriving DecidableEq

def LOCAL_CLUSTER_ID : String := ""

/-- The data source of the requests about an endpoint: tenants are locked to the local cluster. -/
def dataSourceOf (endpoint : Endpoint) (dataSourceId : String) : String :=
  match endpoint with
  | .tenants => LOCAL_CLUSTER_ID
  | _ => dataSourceId

/-- Where a request goes: an endpoint of a data source. -/
structure Address where
  dataSource : String
  endpoint : Endpoint
deriving DecidableEq

/-- An entity in the answer of a listing. -/
structure Entity where
  name : String
  reserved : Bool := false
deriving DecidableEq

/-- A DELETE request, with the status codes that are ignored. -/
structure DeleteRequest extends Address where
  name : String
  ignores : List ℕ := []
deriving DecidableEq

/-- The backend with its states `σ`. A DELETE may fail at any time, with or without a status code, and
before or after the entity is deleted. Two data sources may lead to the same cluster. -/
structure Backend (σ : Type) where
  entities : σ → Address → List Entity
  delete : σ → Address → String → Except (Option ℕ) Unit × σ
  nothingNew : ∀ s address name address',
    entities (delete s address name).2 address' ⊆ entities s address'
  /-- Entities of other endpoints and of other names are not deleted. -/
  others : ∀ s address name address', ∀ e ∈ entities s address',
    address'.endpoint ≠ address.endpoint ∨ e.name ≠ name →
      e ∈ entities (delete s address name).2 address'
  /-- After a success, and if nothing was found, there is no entity of that name. -/
  gone : ∀ s address name, (delete s address name).1 = .ok () ∨
    (delete s address name).1 = .error (some 404) →
      ∀ e ∈ entities (delete s address name).2 address, e.name ≠ name
  /-- An entity that is not there cannot be deleted. -/
  notFound : ∀ s address name, (∀ e ∈ entities s address, e.name ≠ name) →
    (delete s address name).1 ≠ .ok ()
  /-- The global tenant is reserved. -/
  globalReserved : ∀ s dataSource, ∀ e ∈ entities s { dataSource, endpoint := .tenants },
    e.name = globalTenantName → e.reserved = true

/-- `httpDelete` and `httpDeleteWithIgnores`: whether the request returns, and the backend after it. -/
def Backend.send {σ : Type} (backend : Backend σ) (request : DeleteRequest) (s : σ) : Bool × σ :=
  match backend.delete s request.toAddress request.name with
  | (.ok (), s') => (true, s')
  | (.error status, s') => (status.any fun code => request.ignores.contains code, s')

/-- The requests of the loop, in their order. The first one that throws ends it. -/
def requestDeleteUsers (users : List String) (dataSourceId : String) : List DeleteRequest :=
  users.map fun user => { dataSource := dataSourceId, endpoint := .internalusers, name := user }

def requestDeleteRoles (roles : List String) (dataSourceId : String) : List DeleteRequest :=
  roles.flatMap fun role =>
    [{ dataSource := dataSourceId, endpoint := .roles, name := role },
      { dataSource := dataSourceId, endpoint := .rolesmapping, name := role, ignores := [404] }]

def requestDeleteActionGroups (groups : List String) (dataSourceId : String) : List DeleteRequest :=
  groups.map fun group => { dataSource := dataSourceId, endpoint := .actiongroups, name := group }

def requestDeleteTenant (tenants : List String) : List DeleteRequest :=
  tenants.map fun tenant => { dataSource := LOCAL_CLUSTER_ID, endpoint := .tenants, name := tenant }

/-- The requests one after the other: whether all return, and the backend after the last one sent. -/
def Backend.sendAll {σ : Type} (backend : Backend σ) : List DeleteRequest → σ → Bool × σ
  | [], s => (true, s)
  | request :: requests, s =>
    match backend.send request s with
    | (true, s') => backend.sendAll requests s'
    | (false, s') => (false, s')

/-! ## Pages -/

namespace ListPage

/-- What a row shows, as far as the page reads it. The name is the one that deletions use. The rows of
users do not say whether they are reserved. -/
structure Listing where
  name : String
  reserved : Bool := false
deriving DecidableEq

/-- A row of the table, an object with its reference. -/
structure Row extends Listing where
  ref : ℕ
deriving DecidableEq

end ListPage

open ListPage

/-- What each page does in its own way, and what holds of it. -/
structure ListPage where
  endpoint : Endpoint
  /-- The menu of the page does not pick a data source. -/
  dataSourcePickerReadOnly : Bool
  /-- The row of an entity. -/
  listing : Entity → Listing
  /-- The rows for the answer of the backend. -/
  transform : List Entity → List Listing
  requestDelete : List String → String → List DeleteRequest
  /-- `disabled` of the button that deletes the selection. -/
  deleteDisabled : List Listing → Bool
  listed : ∀ entities, ∀ e ∈ entities, listing e ∈ transform entities
  requested : ∀ names dataSource, ∀ name ∈ names,
    { dataSource := dataSourceOf endpoint dataSource, endpoint, name } ∈
      requestDelete names dataSource
  /-- A row that can be deleted has the name of its entity. -/
  named : ∀ selection, deleteDisabled selection = false → ∀ l ∈ selection, ∀ e,
    (endpoint = .tenants → e.name = globalTenantName → e.reserved = true) → listing e = l →
      e.name = l.name

/-- `UserList` -/
def UserList (currentUsername : String) : ListPage where
  endpoint := .internalusers
  dataSourcePickerReadOnly := false
  listing e := { name := e.name }
  transform entities := entities.map fun e => { name := e.name }
  requestDelete := requestDeleteUsers
  deleteDisabled selection :=
    decide (selection.length = 0) || selection.any fun e => e.name == currentUsername
  listed _ _ he := List.mem_map_of_mem he
  requested _ _ _ hname := List.mem_map_of_mem hname
  named _ _ _ _ _ _ h := by rw [← h]

/-- `RoleList` -/
def RoleList : ListPage where
  endpoint := .roles
  dataSourcePickerReadOnly := false
  listing e := { name := e.name, reserved := e.reserved }
  transform entities := entities.map fun e => { name := e.name, reserved := e.reserved }
  requestDelete := requestDeleteRoles
  deleteDisabled selection := decide (selection.length = 0) || selection.any fun e => e.reserved
  listed _ _ he := List.mem_map_of_mem he
  requested _ _ name hname := List.mem_flatMap.mpr ⟨name, hname, List.mem_cons_self⟩
  named _ _ _ _ _ _ h := by rw [← h]

/-- `PermissionList`: `mergeAllPermissions` adds the permissions that are no groups. -/
def PermissionList (singlePermissions : List String) : ListPage where
  endpoint := .actiongroups
  dataSourcePickerReadOnly := false
  listing e := { name := e.name, reserved := e.reserved }
  transform entities :=
    (entities.map fun e => { name := e.name, reserved := e.reserved }) ++
      singlePermissions.map fun permission => { name := permission, reserved := true }
  requestDelete := requestDeleteActionGroups
  deleteDisabled selection := decide (selection.length = 0) || selection.any fun e => e.reserved
  listed _ _ he := List.mem_append_left _ (List.mem_map_of_mem he)
  requested _ _ _ hname := List.mem_map_of_mem hname
  named _ _ _ _ _ _ h := by rw [← h]

/-- A tenant in the list of `transformTenantData`. -/
def tenantListing (e : Entity) : Listing :=
  { name := if e.name = globalTenantName then "Global" else e.name, reserved := e.reserved }

/-- `ManageTab`: `transformTenantData` puts the private tenant at the second place. -/
def ManageTab : ListPage where
  endpoint := .tenants
  dataSourcePickerReadOnly := true
  listing := tenantListing
  transform entities :=
    Js.splice (entities.map tenantListing) 1 0 [{ name := "Private", reserved := true }]
  requestDelete tenants _ := requestDeleteTenant tenants
  deleteDisabled selection := decide (selection.length = 0) || selection.any fun e => e.reserved
  listed entities e he := by
    have hmem : tenantListing e ∈ entities.map tenantListing := List.mem_map_of_mem he
    rw [← List.take_append_drop (Js.relativeIndex (entities.map tenantListing).length 1)
      (entities.map tenantListing)] at hmem
    rcases List.mem_append.mp hmem with h | h
    · exact List.mem_append_left _ (List.mem_append_left _ h)
    · exact List.mem_append_right _ h
  requested _ _ _ hname := List.mem_map_of_mem hname
  named selection henabled l hl e hglobal h := by
    rw [← h] at hl ⊢
    by_cases hname : e.name = globalTenantName
    · have hreserved : (tenantListing e).reserved = true := hglobal rfl hname
      have hany : (selection.any fun e => e.reserved) = true :=
        List.any_eq_true.mpr ⟨_, hl, hreserved⟩
      rw [hany, Bool.or_true] at henabled
      cases henabled
    · exact (if_neg hname).symm

namespace ListPage

/-! ## The state of a page -/

/-- The rows of the table, with the data source that they were fetched from. -/
structure Table where
  dataSource : String
  rows : List Row := []
deriving DecidableEq

/-- A call of `fetchData` that has not ended. -/
structure Load where
  dataSource : String
  /-- Its rows are in the table. -/
  arrived : Bool := false
deriving DecidableEq

/-- A call of `handleDelete` that waits for its requests. `table` and `selection` are those of the
render that it was called from. -/
structure Deletion where
  table : Table
  selection : List Row
  pending : List DeleteRequest
deriving DecidableEq

structure State (σ : Type) where
  backend : σ
  /-- The listings that a data source may answer with: its nodes can be behind. -/
  listings : String → List (List Entity)
  dataSource : String
  loads : List Load := []
  errorFlag : Bool := false
  table : Table
  selection : List Row := []
  isDeleteConfirmModalVisible : Bool := false
  deletions : List Deletion := []
  /-- The number of row objects so far. -/
  refs : ℕ := 0

inductive Event where
  /-- A pick in the data source menu. -/
  | setDataSource (dataSource : String)
  /-- A call of `fetchData`, from a render with this data source. -/
  | fetchData (dataSource : String)
  /-- A load gets one of the listings. -/
  | setRows (load listing : ℕ)
  | endLoad (load : ℕ) (fails : Bool)
  | onSelectionChange (refs : List ℕ)
  | showDeleteConfirmModal
  | closeDeleteConfirmModal
  | handleConfirm
  /-- A deletion goes on. -/
  | resume (deletion : ℕ)
deriving DecidableEq

section Step

variable {σ : Type} (page : ListPage) (backend : Backend σ)

/-- New row objects. -/
def newRows (entities : List Entity) (refs : ℕ) : List Row :=
  ((page.transform entities).zipIdx refs).map fun (listing, ref) =>
    { toListing := listing, ref := ref }

namespace State

/-- The data source that the page works on. -/
def source (s : State σ) : String := dataSourceOf page.endpoint s.dataSource

/-- `fetchData` up to the answer. -/
def fetchData (dataSource : String) (s : State σ) : State σ :=
  { s with loads := s.loads ++ [{ dataSource := dataSourceOf page.endpoint dataSource }] }

/-- A load sets the rows once. -/
def setRows (i : ℕ) (load : Load) (entities : List Entity) (s : State σ) : State σ :=
  if load.arrived then s
  else
    { s with
      loads := s.loads.set i { load with arrived := true }
      table := { dataSource := load.dataSource, rows := page.newRows entities s.refs }
      refs := s.refs + (page.transform entities).length }

/-- A load may fail before and, on the page of the tenants, after its rows are set. -/
def endLoad (i : ℕ) (load : Load) (fails : Bool) (s : State σ) : State σ :=
  if fails || load.arrived then { s with loads := s.loads.eraseIdx i, errorFlag := fails } else s

/-- The table selects among its rows and those selected before; behind the modal it can only drop
some. -/
def select (refs : List ℕ) (s : State σ) : State σ :=
  let shown := if s.isDeleteConfirmModalVisible then [] else s.table.rows
  { s with selection := (shown ++ s.selection).filter fun row => refs.contains row.ref }

/-- `handleDelete` up to its first request. -/
def handleDelete (s : State σ) : State σ :=
  { s with
    deletions := s.deletions ++
      [{ table := s.table
         selection := s.selection
         pending := page.requestDelete (s.selection.map fun r => r.name) s.dataSource }] }

/-- The end of a deletion, whose requests have all returned. -/
def finish (i : ℕ) (d : Deletion) (s : State σ) : State σ :=
  { s with
    table := { d.table with rows := RoleView.difference Row.ref d.table.rows d.selection }
    selection := []
    isDeleteConfirmModalVisible := false
    deletions := s.deletions.eraseIdx i }

/-- The next request of a deletion. An error is only logged. -/
def sendNext (i : ℕ) (d : Deletion) (request : DeleteRequest) (rest : List DeleteRequest)
    (s : State σ) : State σ :=
  let (returns, after) := backend.send request s.backend
  let s := { s with
    backend := after
    listings := fun dataSource =>
      backend.entities after { dataSource, endpoint := page.endpoint } :: s.listings dataSource }
  if returns then { s with deletions := s.deletions.set i { d with pending := rest } }
  else { s with isDeleteConfirmModalVisible := false, deletions := s.deletions.eraseIdx i }

end State

def next (event : Event) (s : State σ) : State σ :=
  match event with
  | .setDataSource dataSource =>
    -- the effect of the page loads from the data source that was picked
    if page.dataSourcePickerReadOnly then s
    else { s with dataSource := dataSource }.fetchData page dataSource
  | .fetchData dataSource => s.fetchData page dataSource
  | .setRows i listing =>
    match s.loads[i]? with
    | none => s
    | some load =>
      match (s.listings load.dataSource)[listing]? with
      | none => s
      | some entities => s.setRows page i load entities
  | .endLoad i fails =>
    match s.loads[i]? with
    | none => s
    | some load => s.endLoad i load fails
  | .onSelectionChange refs => s.select refs
  | .showDeleteConfirmModal =>
    if page.deleteDisabled (s.selection.map fun r => r.toListing) then s
    else { s with isDeleteConfirmModalVisible := true }
  | .closeDeleteConfirmModal => { s with isDeleteConfirmModalVisible := false }
  | .handleConfirm => if s.isDeleteConfirmModalVisible then s.handleDelete page else s
  | .resume i =>
    match s.deletions[i]? with
    | none => s
    | some d =>
      match d.pending with
      | [] => s.finish i d
      | request :: rest => s.sendNext page backend i d request rest

/-- The pages give no output. -/
def step (event : Event) (s : State σ) : Unit × State σ := ((), page.next backend event s)

/-- A page before it has loaded. -/
def start (b : σ) (dataSource : String) : State σ :=
  State.fetchData page dataSource
    { backend := b
      listings := fun dataSource =>
        [backend.entities b { dataSource, endpoint := page.endpoint }]
      dataSource := dataSource
      table := { dataSource := dataSourceOf page.endpoint dataSource } }

/-- A page that has loaded. -/
def opened (b : σ) (dataSource : String) : State σ :=
  Machine.exec (page.step backend) [.setRows 0 0, .endLoad 0 false] (page.start backend b dataSource)

/-- The page after the events. -/
def after (b : σ) (dataSource : String) (events : List Event) : State σ :=
  Machine.exec (page.step backend) events (page.opened backend b dataSource)

end Step

/-! ## What a table should show -/

section Purpose

variable {σ : Type} (page : ListPage) (backend : Backend σ)

/-- The entities of a data source that the page lists. -/
def State.entities (s : State σ) (dataSource : String) : List Entity :=
  backend.entities s.backend { dataSource, endpoint := page.endpoint }

/-- The rows show every one of the entities. -/
def ShowsAll (rows : List Row) (entities : List Entity) : Prop :=
  ∀ e ∈ entities, ∃ row ∈ rows, row.toListing = page.listing e

/-- A deletion is only confirmed while the rows are those of the data source that it deletes from. -/
def ConfirmsShown (event : Event) (s : State σ) : Prop :=
  event = .handleConfirm → s.table.dataSource = s.source page

/-- A data source is only picked while nothing is on its way, and loads are from the one that is
picked. -/
def WaitsToPick (event : Event) (s : State σ) : Prop :=
  match event with
  | .setDataSource _ => s.loads = [] ∧ s.deletions = []
  | .fetchData dataSource => dataSource = s.dataSource
  | _ => True

/-- The entity of the row is gone. -/
def IsGone (row : Row) (entities : List Entity) : Prop := ∀ e ∈ entities, e.name ≠ row.name

instance (row : Row) (entities : List Entity) : Decidable (IsGone row entities) :=
  inferInstanceAs (Decidable (∀ e ∈ entities, e.name ≠ row.name))

/-- An event that sets no rows and picks no data source. -/
def KeepsRows (event : Event) : Prop :=
  (∀ i listing, event ≠ .setRows i listing) ∧ ∀ dataSource, event ≠ .setDataSource dataSource

/-- The request of a deletion for the row. -/
def rowRequest (dataSource : String) (row : Row) : DeleteRequest where
  dataSource := dataSource
  endpoint := page.endpoint
  name := row.name

/-- From `s` to `s'`, the roles `done` of the data source were deleted with their mappings, and
`stopped` perhaps in part. -/
structure RolesDeleted (dataSource : String) (done stopped : List String) (s s' : σ) : Prop where
  gone : ∀ role ∈ done, ∀ endpoint, endpoint = .roles ∨ endpoint = .rolesmapping →
    ∀ e ∈ backend.entities s' { dataSource, endpoint }, e.name ≠ role
  untouched : ∀ address, ∀ e ∈ backend.entities s address,
    (address.endpoint = .roles ∨ address.endpoint = .rolesmapping → e.name ∉ done ++ stopped) →
      e ∈ backend.entities s' address
  /-- A mapping goes after its role. -/
  mappings : ∀ mapping ∈ backend.entities s { dataSource, endpoint := .rolesmapping },
    mapping ∉ backend.entities s' { dataSource, endpoint := .rolesmapping } →
      ∀ role ∈ backend.entities s' { dataSource, endpoint := .roles }, role.name ≠ mapping.name

end Purpose

end ListPage

end SecurityDashboards
