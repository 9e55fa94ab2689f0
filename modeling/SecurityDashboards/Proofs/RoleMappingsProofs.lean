import Mathlib.Data.List.Nodup
import SecurityDashboards.RoleMappings

/-!
# Proofs: the mapping of a role

The mapping that is sent has the rows without the names of the selected ones, the page keeps the rows
without the selected objects.
-/

namespace SecurityDashboards

namespace RoleView

/-! ## Rows and mappings -/

/-- The rows of a page: every object once, and the users before the backend roles. -/
structure Arranged (rows : List MappedUser) : Prop where
  refs : (rows.map MappedUser.ref).Nodup
  internalFirst : rows.Pairwise fun earlier later =>
    later.userType = .internal → earlier.userType = .internal

theorem Arranged.filter {rows : List MappedUser} (h : Arranged rows) (p : MappedUser → Bool) :
    Arranged (rows.filter p) where
  refs := h.refs.sublist (List.filter_sublist.map _)
  internalFirst := h.internalFirst.filter p

/-- The rows of a kind. -/
def ofKind (userType : UserType) (rows : List MappedUser) : List MappedUser :=
  rows.filter fun r => r.userType = userType

/-- The mapping with these rows. -/
def mappingOf (hosts : List String) (rows : List MappedUser) : RoleMappingDetail where
  users := (ofKind .internal rows).map fun r => r.userName
  backend_roles := (ofKind .external rows).map fun r => r.userName
  hosts := hosts

theorem ofKind_append {rows : List MappedUser} (h : rows.Pairwise fun earlier later =>
    later.userType = .internal → earlier.userType = .internal) :
    ofKind .internal rows ++ ofKind .external rows = rows := by
  induction h with
  | nil => rfl
  | @cons row rows hrow hrows ih =>
    cases hkind : row.userType with
    | internal =>
      have hinternal : ofKind .internal (row :: rows) = row :: ofKind .internal rows := by
        simp [ofKind, hkind]
      have hexternal : ofKind .external (row :: rows) = ofKind .external rows := by
        simp [ofKind, hkind]
      rw [hinternal, hexternal, List.cons_append, ih]
    | external =>
      -- behind a backend role there are no users
      have hnone : ∀ later ∈ row :: rows, later.userType = .external := by
        intro later hlater
        rcases List.mem_cons.mp hlater with rfl | hlater
        · exact hkind
        · cases hlaterKind : later.userType with
          | internal => rw [hrow later hlater hlaterKind] at hkind; cases hkind
          | external => rfl
      have hinternal : ofKind .internal (row :: rows) = [] := by
        refine List.filter_eq_nil_iff.mpr fun later hlater => ?_
        simp [hnone later hlater]
      have hexternal : ofKind .external (row :: rows) = row :: rows := by
        refine List.filter_eq_self.mpr fun later hlater => ?_
        simp [hnone later hlater]
      rw [hinternal, hexternal, List.nil_append]

theorem names_ofKind (userType : UserType) (rows : List MappedUser) :
    ((ofKind userType rows).map fun r => r.userName).map
        (fun name => ({ userName := name, userType := userType } : MappedUsersListing)) =
      (ofKind userType rows).map (·.toMappedUsersListing) := by
  rw [List.map_map]
  refine List.map_congr_left fun row hrow => ?_
  have hkind : row.userType = userType := by simpa using List.of_mem_filter hrow
  cases row
  subst hkind
  rfl

/-- A mapping made of arranged rows is read back as these rows. -/
theorem transform_mappingOf (hosts : List String) {rows : List MappedUser} (h : Arranged rows) :
    transformRoleMappingData (mappingOf hosts rows) = rows.map (·.toMappedUsersListing) := by
  unfold transformRoleMappingData mappingOf
  rw [names_ofKind, names_ofKind, ← List.map_append, ofKind_append h.internalFirst]

/-! ## The page -/

/-- The row does not have the name of a selected one. -/
def unnamed (selection : List MappedUser) (row : MappedUser) : Bool :=
  decide (row.userName ∉ selection.map fun r => r.userName)

theorem difference_names (userType : UserType) (rows selection : List MappedUser) :
    difference id ((ofKind userType rows).map fun r => r.userName)
        (selection.map fun r => r.userName) =
      (ofKind userType (rows.filter (unnamed selection))).map fun r => r.userName := by
  unfold difference ofKind
  rw [List.filter_map, List.filter_filter, List.filter_filter, List.map_id]
  congr 1
  refine List.filter_congr fun row _ => ?_
  exact Bool.and_comm _ _

/-- What is sent is made of the rows that have no name of a selected one. -/
theorem updateObject_eq (accepted : Bool) (view : View) :
    (handleRoleMappingDelete accepted view).1 =
      mappingOf view.hosts (view.mappedUsers.filter (unnamed view.selection)) := by
  unfold handleRoleMappingDelete mappingOf
  rw [← difference_names, ← difference_names]
  rfl

theorem difference_refs {rows selection : List MappedUser} (h : Arranged rows)
    (hshown : selection ⊆ rows) :
    difference MappedUser.ref rows selection = rows.filter fun row => row ∉ selection := by
  refine List.filter_congr fun row hrow => ?_
  have hmem : row.ref ∈ selection.map MappedUser.ref ↔ row ∈ selection := by
    refine ⟨fun hin => ?_, List.mem_map_of_mem⟩
    obtain ⟨selected, hselected, href⟩ := List.mem_map.mp hin
    rwa [List.inj_on_of_nodup_map h.refs hrow (hshown hselected) href.symm]
  exact decide_eq_decide.mpr (not_congr hmem)

/-- What the events of the page keep. -/
structure Loaded (hosts : List String) (view : View) : Prop where
  arranged : Arranged view.mappedUsers
  hosts : view.hosts = hosts

theorem transform_internalFirst (rawData : RoleMappingDetail) :
    (transformRoleMappingData rawData).Pairwise fun earlier later =>
      later.userType = .internal → earlier.userType = .internal := by
  unfold transformRoleMappingData
  refine List.pairwise_append.mpr ⟨?_, ?_, ?_⟩
  · exact List.pairwise_map.mpr (List.pairwise_of_forall fun _ _ _ => rfl)
  · refine List.pairwise_map.mpr (List.pairwise_of_forall fun _ _ hinternal => ?_)
    cases hinternal
  · intro earlier hearlier later _ _
    obtain ⟨mappedUser, -, rfl⟩ := List.mem_map.mp hearlier
    rfl

theorem fetchData_rows (rawData : RoleMappingDetail) :
    (fetchData (some rawData)).mappedUsers.map (·.toMappedUsersListing) =
      transformRoleMappingData rawData := by
  show ((transformRoleMappingData rawData).zipIdx.map _).map _ = _
  rw [List.map_map]
  exact List.zipIdx_map_fst 0 _

theorem fetchData_loaded (rawData : RoleMappingDetail) :
    Loaded rawData.hosts (fetchData (some rawData)) where
  hosts := rfl
  arranged := by
    constructor
    · show (((transformRoleMappingData rawData).zipIdx.map _).map MappedUser.ref).Nodup
      rw [List.map_map]
      have hrefs : ((transformRoleMappingData rawData).zipIdx.map Prod.snd).Nodup := by
        rw [List.zipIdx_map_snd]
        exact List.nodup_range'
      exact hrefs
    · have hrows := transform_internalFirst rawData
      rw [← fetchData_rows, List.pairwise_map] at hrows
      exact hrows

theorem step_loaded {hosts : List String} (event : Event) (view : View) (h : Loaded hosts view) :
    Loaded hosts (step event view).2 := by
  cases event with
  | onSelectionChange selection => exact ⟨h.arranged, h.hosts⟩
  | handleRoleMappingDelete accepted =>
    cases accepted with
    | false => exact h
    | true => exact ⟨h.arranged.filter _, h.hosts⟩

theorem viewAfter_loaded (rawData : RoleMappingDetail) (events : List Event) :
    Loaded rawData.hosts (viewAfter rawData events) :=
  Machine.exec_invariant (Loaded rawData.hosts) step_loaded events (fetchData_loaded rawData)

/-! ## Deleting a selection -/

theorem mem_unnamed {selection : List MappedUser} {row : MappedUser} :
    unnamed selection row = true ↔ ∀ selected ∈ selection, row.userName ≠ selected.userName := by
  unfold unnamed
  rw [decide_eq_true_iff, List.mem_map]
  constructor
  · intro h selected hselected hname
    exact h ⟨selected, hselected, hname.symm⟩
  · rintro h ⟨selected, hselected, hname⟩
    exact h selected hselected hname.symm

section Delete

variable {hosts : List String} {view : View}

theorem sent_rows (h : Loaded hosts view) :
    transformRoleMappingData (handleRoleMappingDelete true view).1 =
      (view.mappedUsers.filter (unnamed view.selection)).map (·.toMappedUsersListing) := by
  rw [updateObject_eq]
  exact transform_mappingOf view.hosts (h.arranged.filter _)

/-- A row that stays cannot lose its name to a row that goes. -/
theorem namesApart_of_rows (h : Loaded hosts view)
    (hrows : transformRoleMappingData (handleRoleMappingDelete true view).1 =
      (view.mappedUsers.filter fun row => row ∉ view.selection).map (·.toMappedUsersListing)) :
    NamesApart view := by
  intro row hrow hstays
  have hlisting : row.toMappedUsersListing ∈
      transformRoleMappingData (handleRoleMappingDelete true view).1 := by
    rw [hrows]
    exact List.mem_map_of_mem (List.mem_filter.mpr ⟨hrow, decide_eq_true hstays⟩)
  rw [sent_rows h] at hlisting
  obtain ⟨sent, hsent, hsame⟩ := List.mem_map.mp hlisting
  have hname : row.userName = sent.userName := congrArg MappedUsersListing.userName hsame.symm
  rw [hname]
  exact mem_unnamed.mp (List.of_mem_filter hsent)

theorem unnamed_rows (hnames : NamesApart view) :
    view.mappedUsers.filter (unnamed view.selection) =
      view.mappedUsers.filter fun row => row ∉ view.selection := by
  refine List.filter_congr fun row hrow => ?_
  rw [Bool.eq_iff_iff, mem_unnamed, decide_eq_true_iff]
  constructor
  · intro hunnamed hin
    exact hunnamed row hin rfl
  · exact hnames row hrow

theorem sent_pairs (h : Loaded hosts view) (hnames : NamesApart view)
    (listing : MappedUsersListing) :
    listing ∈ transformRoleMappingData (handleRoleMappingDelete true view).1 ↔
      listing ∈ view.mappedUsers.map (·.toMappedUsersListing) ∧
        listing ∉ view.selection.map (·.toMappedUsersListing) := by
  rw [sent_rows h]
  constructor
  · intro hlisting
    obtain ⟨row, hrow, rfl⟩ := List.mem_map.mp hlisting
    obtain ⟨hrow, hunnamed⟩ := List.mem_filter.mp hrow
    refine ⟨List.mem_map_of_mem hrow, fun hselected => ?_⟩
    obtain ⟨selected, hselected, hsame⟩ := List.mem_map.mp hselected
    exact mem_unnamed.mp hunnamed selected hselected
      (congrArg MappedUsersListing.userName hsame).symm
  · rintro ⟨hlisting, hnot⟩
    obtain ⟨row, hrow, rfl⟩ := List.mem_map.mp hlisting
    have hstays : row ∉ view.selection := fun hin => hnot (List.mem_map_of_mem hin)
    exact List.mem_map_of_mem
      (List.mem_filter.mpr ⟨hrow, mem_unnamed.mpr (hnames row hrow hstays)⟩)

end Delete

/-- A deletion removes exactly the selection if and only if no row that stays has the name of a row
that goes. -/
theorem deletesExactly_iff (rawData : RoleMappingDetail) (events : List Event)
    (hshown : (viewAfter rawData events).selection ⊆ (viewAfter rawData events).mappedUsers) :
    DeletesExactly rawData.hosts (viewAfter rawData events) ↔
      NamesApart (viewAfter rawData events) := by
  have hloaded := viewAfter_loaded rawData events
  constructor
  · exact fun h => namesApart_of_rows hloaded h.rows
  · intro hnames
    have hrows := sent_rows hloaded
    rw [unnamed_rows hnames] at hrows
    constructor
    · exact hrows
    · exact sent_pairs hloaded hnames
    · rw [hrows]
      exact congrArg _ (difference_refs hloaded.arranged hshown).symm
    · rw [updateObject_eq]
      exact hloaded.hosts

namespace Sample

def twoUsers : RoleMappingDetail where
  users := ["admin", "kirk"]
  backend_roles := ["hr"]
  hosts := ["*.example.com"]

def kirkRow : MappedUser where
  userName := "kirk"
  userType := .internal
  ref := 1

theorem kirk_deleted :
    DeletesExactly ["*.example.com"] (viewAfter twoUsers [.onSelectionChange [kirkRow]]) :=
  (deletesExactly_iff twoUsers [.onSelectionChange [kirkRow]] (by decide)).mpr (by
    unfold NamesApart
    decide)

def adminTwice : RoleMappingDetail where
  users := ["admin"]
  backend_roles := ["admin"]
  hosts := []

def adminRow : MappedUser where
  userName := "admin"
  userType := .internal
  ref := 0

/-- The backend role goes with the user of the same name, and the page still shows it. -/
theorem backendRole_lost :
    adminRow ∈ (fetchData (some adminTwice)).mappedUsers ∧
      (handleRoleMappingDelete true (viewAfter adminTwice [.onSelectionChange [adminRow]])).1 =
        { users := [], backend_roles := [], hosts := [] } ∧
      (handleRoleMappingDelete true (viewAfter adminTwice [.onSelectionChange [adminRow]])).2 =
        { mappedUsers := [{ userName := "admin", userType := .external, ref := 1 }] } ∧
      ¬ DeletesExactly [] (viewAfter adminTwice [.onSelectionChange [adminRow]]) := by
  refine ⟨by decide, by decide, by decide, fun h => ?_⟩
  exact absurd h.rows (by decide)

end Sample

end RoleView

end SecurityDashboards
