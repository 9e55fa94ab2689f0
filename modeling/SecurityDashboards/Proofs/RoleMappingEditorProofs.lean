import SecurityDashboards.RoleMappingEditor

/-!
# Proofs: the editor of a role's mapping
-/

namespace SecurityDashboards

namespace RoleEditMappedUser

open RoleEdit (comboBoxOptionToString stringToComboBoxOption)
open RoleView (RoleMappingDetail)

namespace Page

/-! ## One event -/

theorem step_of_mapping {event : Event} {data : RoleMappingDetail} (h : event.mapping = some data)
    (page : Page) : step event page = (none, showing data) := by
  unfold step
  rw [h]

theorem step_of_no_mapping {event : Event} (h : event.mapping = none) (page : Page) :
    (step event page).2 = panel { page with
      internalUsers := page.editUsers event
      externalIdentities :=
        (event.identityEdit.elim id Rows.Edit.apply) page.externalIdentities } := by
  unfold step
  rw [h]

/-- The button saves, and what is saved is what the page shows. -/
theorem saved_of_step {event : Event} {page : Page} {update : RoleMappingDetail}
    (h : (step event page).1 = some update) : event = .map ∧ update = page.updateObject := by
  cases hmapping : event.mapping with
  | some data =>
    rw [step_of_mapping hmapping] at h
    cases h
  | none =>
    unfold step at h
    rw [hmapping] at h
    cases event with
    | map => exact ⟨rfl, (Option.some.inj h).symm⟩
    | fetched answer => cases h
    | setInternalUsers state => cases h
    | createUser newValue => cases h
    | externalIdentity arrayIndex value => cases h
    | addExternalIdentity => cases h
    | removeExternalIdentity arrayIndex => cases h

/-! ## Runs -/

/-- The events since the mapping was fetched bring no other one. -/
theorem mapping_of_mem_since {events : List Event} :
    ∀ event ∈ (sinceFetched events).2, event.mapping = none := by
  induction events using List.reverseRecOn with
  | nil => exact List.forall_mem_nil _
  | append_singleton events event ih =>
    rw [sinceFetched, Machine.since_append_singleton]
    cases hmapping : event.mapping with
    | some data => exact List.forall_mem_nil _
    | none =>
      intro other hother
      rcases List.mem_append.mp hother with hother | hother
      · exact ih other hother
      · rw [List.mem_singleton.mp hother]
        exact hmapping

/-- What was edited before the mapping was fetched is lost. -/
theorem exec_sinceFetched (events : List Event) :
    Machine.exec step events initial =
      Machine.exec step (sinceFetched events).2 (showing (sinceFetched events).1) :=
  Machine.exec_since (fun _ page _ h => congrArg Prod.snd (step_of_mapping h page)) noMapping events

variable {data : RoleMappingDetail} {events : List Event}

theorem hosts_stay (hmapping : ∀ event ∈ events, event.mapping = none) (page : Page) :
    (Machine.exec step events page).hosts = page.hosts := by
  induction events generalizing page with
  | nil => rfl
  | cons event events ih =>
    obtain ⟨hevent, hrest⟩ := List.forall_mem_cons.mp hmapping
    rw [Machine.exec_cons, ih hrest, step_of_no_mapping hevent]
    rfl

/-- A user that is not touched stays selected as often. -/
theorem selections_editUsers {user : String} {event : Event} {page : Page}
    (h : ¬page.TouchesUser user event) :
    selections { page with internalUsers := page.editUsers event } user = page.selections user := by
  cases event with
  | setInternalUsers state => exact not_not.mp h
  | createUser newValue =>
    have hne : newValue ≠ user := fun heq => h heq.symm
    simp only [selections, editUsers, List.map_append, List.map_singleton, List.count_append,
      comboBoxOptionToString, List.count_singleton, beq_iff_eq, if_neg hne, Nat.add_zero]
  | _ => rfl

theorem selections_stay {user : String} (hmapping : ∀ event ∈ events, event.mapping = none)
    {page : Page}
    (h : Machine.Meets step (fun event page => ¬page.TouchesUser user event) events page) :
    (Machine.exec step events page).selections user = page.selections user := by
  induction events generalizing page with
  | nil => rfl
  | cons event events ih =>
    obtain ⟨hevent, hrest⟩ := List.forall_mem_cons.mp hmapping
    rw [Machine.exec_cons, ih hrest h.2, step_of_no_mapping hevent]
    exact selections_editUsers h.1

/-- The empty row that is shown is no row of a backend role. -/
theorem filter_shown {role : String} (hrole : role ≠ "") (rows : List ExternalIdentityStateClass) :
    (Rows.orEmpty getEmptyExternalIdentity rows).filter (fun row => row.externalIdentity = role) =
      rows.filter fun row => row.externalIdentity = role := by
  refine Rows.filter_orEmpty ?_ rows
  exact decide_eq_false (Ne.symm hrole)

theorem role_rows_stay {role : String} (hrole : role ≠ "")
    (hmapping : ∀ event ∈ events, event.mapping = none) {page : Page}
    (h : Machine.Meets step (fun event page => ¬page.TouchesRole role event) events page) :
    (Machine.exec step events page).externalIdentities.filter
        (fun row => row.externalIdentity = role) =
      page.externalIdentities.filter fun row => row.externalIdentity = role := by
  induction events generalizing page with
  | nil => rfl
  | cons event events ih =>
    obtain ⟨hevent, hrest⟩ := List.forall_mem_cons.mp hmapping
    rw [Machine.exec_cons, ih hrest h.2, step_of_no_mapping hevent]
    refine (filter_shown hrole _).trans ?_
    cases hedit : event.identityEdit with
    | none => rfl
    | some edit => exact Rows.Edit.filter_apply fun ht => h.1 ⟨edit, hedit, ht⟩

/-! ## What is saved -/

theorem count_users (page : Page) (user : String) :
    page.updateObject.users.count user = page.selections user := rfl

theorem count_backend_roles (page : Page) {role : String} (hrole : role ≠ "") :
    page.updateObject.backend_roles.count role =
      (page.externalIdentities.filter fun row => row.externalIdentity = role).length := by
  show ((page.externalIdentities.filter fun v => v.externalIdentity ≠ "").map
    fun item => item.externalIdentity).count role = _
  rw [List.count, List.countP_map, List.countP_filter, List.countP_eq_length_filter]
  refine congrArg List.length (List.filter_congr fun row _ => ?_)
  by_cases hrow : row.externalIdentity = role
  · simp [hrow, hrole]
  · simp [hrow]

theorem count_of_showing {role : String} (hrole : role ≠ "") (data : RoleMappingDetail) :
    ((showing data).externalIdentities.filter fun row => row.externalIdentity = role).length =
      data.backend_roles.count role := by
  have hrows : (showing data).externalIdentities.filter (fun row => row.externalIdentity = role) =
      (buildExternalIdentityState data.backend_roles).filter
        fun row => row.externalIdentity = role := filter_shown hrole _
  rw [hrows, buildExternalIdentityState, ← List.countP_eq_length_filter, List.countP_map, List.count]
  rfl

theorem selections_of_showing (data : RoleMappingDetail) (user : String) :
    (showing data).selections user = data.users.count user := by
  show ((data.users.map stringToComboBoxOption).map comboBoxOptionToString).count user = _
  rw [List.map_map]
  exact congrArg (List.count user) (List.map_id _)

/-- In whichever order the mapping is fetched or fails to be, the page is edited and its button is
pressed: every mapping that is saved has the hosts of the mapping that was fetched last, and every user
and backend role of it as often as it had, unless an edit since then has touched it. So it has no host
if none was fetched. -/
theorem mapped_keeps_untouched {events : List Event} {n : ℕ} {event : Event}
    {update : RoleMappingDetail}
    (h : (Machine.trace step events initial)[n]? = some (event, some update)) :
    event = .map ∧
      update.hosts = (sinceFetched (events.take n)).1.hosts ∧
      (∀ user, Machine.Meets step (fun event page => ¬page.TouchesUser user event)
          (sinceFetched (events.take n)).2 (showing (sinceFetched (events.take n)).1) →
        update.users.count user = (sinceFetched (events.take n)).1.users.count user) ∧
      (∀ role, role ≠ "" → Machine.Meets step (fun event page => ¬page.TouchesRole role event)
          (sinceFetched (events.take n)).2 (showing (sinceFetched (events.take n)).1) →
        update.backend_roles.count role =
          (sinceFetched (events.take n)).1.backend_roles.count role) ∧
      "" ∉ update.backend_roles := by
  obtain ⟨-, hsaved⟩ := Machine.getElem?_trace_eq_some.mp h
  obtain ⟨hmap, hupdate⟩ := saved_of_step hsaved.symm
  have hmapping : ∀ event ∈ (sinceFetched (events.take n)).2, event.mapping = none :=
    mapping_of_mem_since
  rw [exec_sinceFetched] at hupdate
  refine ⟨hmap, ?_, fun user huntouched => ?_, fun role hrole huntouched => ?_, ?_⟩
  · rw [hupdate]
    exact hosts_stay hmapping _
  · rw [hupdate, count_users, selections_stay hmapping huntouched, selections_of_showing]
  · rw [hupdate, count_backend_roles _ hrole, role_rows_stay hrole hmapping huntouched,
      count_of_showing hrole]
  · rw [hupdate]
    intro hmem
    obtain ⟨row, hrow, hempty⟩ := List.mem_map.mp hmem
    simpa [hempty] using (List.mem_filter.mp hrow).2

namespace Sample

/-- The mapping of a role with a host. -/
def auditorMapping : RoleMappingDetail where
  users := ["ana", "bea"]
  backend_roles := ["auditors", "readers"]
  hosts := ["10.0.0.*"]

/-- A user is added before the mapping is there, and one after; then one backend role is renamed. -/
def auditorEdits : List Event :=
  [.createUser "cleo", .fetched (.ok (some auditorMapping)), .createUser "dora",
    .externalIdentity 1 "writers", .map]

def auditorSaved : RoleMappingDetail where
  users := ["ana", "bea", "dora"]
  backend_roles := ["auditors", "writers"]
  hosts := ["10.0.0.*"]

/-- The user `ana` and the host stay as they were. -/
theorem auditor_mapped :
    (Machine.trace step auditorEdits initial)[4]? = some (.map, some auditorSaved) ∧
      auditorSaved.hosts = auditorMapping.hosts ∧
      auditorSaved.users.count "ana" = auditorMapping.users.count "ana" ∧
      auditorSaved.backend_roles.count "auditors" = auditorMapping.backend_roles.count "auditors" := by
  have hsaved : (Machine.trace step auditorEdits initial)[4]? = some (.map, some auditorSaved) := rfl
  obtain ⟨-, hhosts, husers, hroles, -⟩ := mapped_keeps_untouched hsaved
  refine ⟨hsaved, hhosts, husers "ana" ?_, hroles "auditors" (by decide) ?_⟩
  · exact ⟨by decide, by decide, trivial⟩
  · exact ⟨by decide, by decide, trivial⟩

end Sample

end Page

end RoleEditMappedUser

end SecurityDashboards
