import SecurityDashboards.InternalUserEditor
import SecurityDashboards.Proofs.PlainObjectProofs

/-!
# Proofs: the editor of an internal user
-/

namespace SecurityDashboards

namespace InternalUserEdit

open ConfigurationApi (InternalUserUpdate)

/-! ## Attributes -/

theorem unbuild_append (rows : List UserAttributeStateClass) (row : UserAttributeStateClass) :
    unbuildAttributeState (rows ++ [row]) = (unbuildAttributeState rows).put row.key row.value := by
  rw [unbuildAttributeState, List.foldl_append]
  rfl

/-- The value of an attribute is that of its last row. -/
theorem own_unbuild (rows : List UserAttributeStateClass) (name : String) :
    (unbuildAttributeState rows).own name =
      (rows.filter fun row => row.key = name).getLast?.map (·.value) := by
  induction rows using List.reverseRecOn with
  | nil => rfl
  | append_singleton rows row ih =>
    rw [unbuild_append, Js.PlainObject.own_put, List.filter_append]
    by_cases hrow : row.key = name
    · rw [if_pos hrow.symm, List.filter_cons_of_pos (by simpa using hrow), List.filter_nil,
        List.getLast?_append, List.getLast?_singleton]
      rfl
    · rw [if_neg (Ne.symm hrow), ih, List.filter_cons_of_neg (by simpa using hrow), List.filter_nil,
        List.append_nil]

/-- Rows without a name do not matter to the others. -/
theorem filter_named {name : String} (hname : name ≠ "") (rows : List UserAttributeStateClass) :
    ((rows.filter fun row => row.key ≠ "").filter fun row => row.key = name) =
      rows.filter fun row => row.key = name := by
  rw [List.filter_filter]
  refine List.filter_congr fun row _ => ?_
  by_cases hrow : row.key = name
  · simp [hrow, hname]
  · simp [hrow]

/-- A loaded attribute has one row. -/
theorem filter_build (attributes : Js.PlainObject String) (name : String) :
    ((buildAttributeState attributes).filter fun row => row.key = name).getLast?.map (·.value) =
      attributes.own name := by
  obtain ⟨props, hnodup⟩ := attributes
  simp only [buildAttributeState, Js.PlainObject.own]
  induction props with
  | nil => rfl
  | cons p props ih =>
    obtain ⟨hp, hrest⟩ := List.nodup_cons.mp hnodup
    by_cases hname : p.1 = name
    · have hnone : (props.map fun p => (⟨p.1, p.2⟩ : UserAttributeStateClass)).filter
          (fun row => row.key = name) = [] := by
        refine List.filter_eq_nil_iff.mpr fun row hrow hkey => hp ?_
        obtain ⟨q, hq, rfl⟩ := List.mem_map.mp hrow
        have hq1 : q.1 = name := by simpa using hkey
        rw [hname, ← hq1]
        exact List.mem_map_of_mem hq
      rw [List.map_cons, List.filter_cons_of_pos (by simpa using hname), hnone, List.lookup_cons,
        show (name == p.1) = true by simpa using hname.symm]
      rfl
    · rw [List.map_cons, List.filter_cons_of_neg (by simpa using hname), ih hrest, List.lookup_cons,
        show (name == p.1) = false by simpa using Ne.symm hname]

/-! ## Runs -/

namespace Editor

/-- The rows of an attribute, as long as no event touches them. -/
theorem attribute_rows_stay {name : String} (hname : name ≠ "") {user : InternalUser}
    {events : List Event}
    (h : Machine.Meets step (fun event editor => ¬editor.TouchesAttribute name event) events
      (fetchData user)) :
    (after user events).attributes.filter (fun row => row.key = name) =
      (buildAttributeState user.attributes).filter fun row => row.key = name := by
  have hnameless : decide (getEmptyAttribute.key = name) = false := by
    simpa [getEmptyAttribute] using Ne.symm hname
  have hempty := fun rows => Rows.filter_orEmpty
    (p := fun row : UserAttributeStateClass => decide (row.key = name)) hnameless rows
  refine Machine.exec_of_meets
    (fun editor => editor.attributes.filter (fun row => row.key = name) =
      (buildAttributeState user.attributes).filter fun row => row.key = name) ?_ h ?_
  · intro event editor htouches hrows
    simp only [step, panels]
    rw [hempty, ← hrows]
    cases hedit : attributeEdit event with
    | none => rfl
    | some edit => exact Rows.Edit.filter_apply fun ht => htouches ⟨edit, hedit, ht⟩
  · simp only [fetchData, panels]
    rw [hempty]

theorem role_rows_stay {role : String} (hrole : role ≠ "") {user : InternalUser}
    {events : List Event}
    (h : Machine.Meets step (fun event editor => ¬editor.TouchesRole role event) events
      (fetchData user)) :
    (after user events).backendRoles.filter (fun row => row = role) =
      user.backend_roles.filter fun row => row = role := by
  have hempty := fun rows => Rows.filter_orEmpty (p := fun row => decide (row = role))
    (show decide ("" = role) = false by simpa using Ne.symm hrole) rows
  refine Machine.exec_of_meets
    (fun editor => editor.backendRoles.filter (fun row => row = role) =
      user.backend_roles.filter fun row => row = role) ?_ h ?_
  · intro event editor htouches hrows
    simp only [step, panels]
    rw [hempty, ← hrows]
    cases hedit : editor.roleEdit event with
    | none => rfl
    | some edit => exact Rows.Edit.filter_apply fun ht => htouches ⟨edit, hedit, ht⟩
  · simp only [fetchData, panels]
    rw [hempty]

theorem updateUserHandler_ok {action : Action} {editor : Editor} {update : InternalUserUpdate}
    (h : editor.updateUserHandler action = .ok update) :
    update.backend_roles = editor.backendRoles.filter (fun role => !Js.isBlank role) ∧
      update.attributes = unbuildAttributeState (editor.attributes.filter fun row => row.key ≠ "") ∧
      update.password = (if editor.password ≠ "" then some editor.password else none) ∧
      editor.repeatPassword = editor.password ∧ (editor.password = "" → action = .edit) := by
  rw [updateUserHandler] at h
  by_cases hrepeat : editor.repeatPassword ≠ editor.password
  · rw [if_pos hrepeat] at h
    cases h
  by_cases hrequired : editor.password = "" ∧ action ≠ .edit
  · rw [if_neg hrepeat, if_pos hrequired] at h
    cases h
  · rw [if_neg hrepeat, if_neg hrequired] at h
    cases h
    refine ⟨rfl, rfl, rfl, not_not.mp hrepeat, fun hempty => ?_⟩
    by_contra haction
    exact hrequired ⟨hempty, haction⟩

/-- The page saves what it shows, and after any run of events it keeps every attribute and every backend
role that no event has touched. -/
theorem saved_keeps_untouched {action : Action} {user : InternalUser} {events : List Event}
    {update : InternalUserUpdate}
    (hsave : (after user events).updateUserHandler action = .ok update) :
    (∀ name, name ≠ "" → update.attributes.own name =
        ((after user events).attributes.filter fun row => row.key = name).getLast?.map (·.value)) ∧
      update.attributes.own "" = none ∧
      (∀ name, name ≠ "" →
        Machine.Meets step (fun event editor => ¬editor.TouchesAttribute name event) events
          (fetchData user) →
        update.attributes.own name = user.attributes.own name) ∧
      (∀ role, Js.isBlank role = false →
        Machine.Meets step (fun event editor => ¬editor.TouchesRole role event) events
          (fetchData user) →
        update.backend_roles.filter (fun row => row = role) =
          user.backend_roles.filter fun row => row = role) ∧
      update.backend_roles =
        (after user events).backendRoles.filter fun role => !Js.isBlank role := by
  obtain ⟨hroles, hattributes, -⟩ := updateUserHandler_ok hsave
  have hshown : ∀ name, name ≠ "" → update.attributes.own name =
      ((after user events).attributes.filter fun row => row.key = name).getLast?.map (·.value) := by
    intro name hname
    rw [hattributes, own_unbuild, filter_named hname]
  refine ⟨hshown, ?_, fun name hname huntouched => ?_, fun role hrole huntouched => ?_,
    hroles⟩
  · rw [hattributes, own_unbuild, List.filter_filter, List.filter_eq_nil_iff.mpr (by simp)]
    rfl
  · rw [hshown name hname, attribute_rows_stay hname huntouched, filter_build]
  · have hne : role ≠ "" := by
      rintro rfl
      cases hrole
    rw [hroles, List.filter_filter, ← role_rows_stay hne huntouched]
    refine List.filter_congr fun row _ => ?_
    by_cases hrow : row = role
    · simp [hrow, hrole]
    · simp [hrow]

namespace Sample

def ana : InternalUser where
  attributes := (Js.PlainObject.empty.put "team" "logs").put "site" "Rome"
  backend_roles := ["admin", "readers"]

/-- An attribute is renamed, a role is removed, and a blank one is added. -/
def edits : List Event :=
  [.attributeKey 1 "city", .removeBackendRole 1, .addBackendRole, .backendRole 1 " ", .addAttribute]

def saved : InternalUserUpdate where
  backend_roles := ["admin"]
  attributes := (Js.PlainObject.empty.put "team" "logs").put "city" "Rome"

theorem team_kept : saved.attributes.own "team" = ana.attributes.own "team" := by
  have hsaved : (after ana edits).updateUserHandler .edit = .ok saved := rfl
  exact (saved_keeps_untouched hsaved).2.2.1 "team" (by decide)
    ⟨by decide, by decide, by decide, by decide, by decide, trivial⟩

end Sample

end Editor

end InternalUserEdit

end SecurityDashboards
