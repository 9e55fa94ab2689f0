import SecurityDashboards.TenancyEditor

/-!
# Proofs: the editor of the tenancy configuration

The counters of the two switches are always right. The one of the default tenant is right after a
choice that departs from the original tenant or returns to it, and the warning after a choice that
keeps the configuration as valid as it is.
-/

namespace SecurityDashboards

namespace ConfigureTab1

/-! ## Counting the changes -/

/-- The counters of the switches tell whether their settings differ. -/
structure SwitchesCounted (s : State) : Prop where
  tenancy : s.changeInMultiTenancyOption ≠ 0 ↔
    s.updatedConfiguration.multitenancy_enabled ≠ s.originalConfiguration.multitenancy_enabled
  privateTenant : s.changeInPrivateTenantOption ≠ 0 ↔
    s.updatedConfiguration.private_tenant_enabled ≠ s.originalConfiguration.private_tenant_enabled

/-- The counter of the default tenant tells whether it differs. -/
def DefaultTenantCounted (s : State) : Prop :=
  s.changeInDefaultTenantOption ≠ 0 ↔
    s.updatedConfiguration.default_tenant ≠ s.originalConfiguration.default_tenant

/-- A counter that is set where two values are equal. -/
theorem counter_ne_zero_iff {α : Type} [DecidableEq α] (original updated : α) :
    (if original = updated then 1 else 0) ≠ 0 ↔ updated = original := by
  by_cases h : original = updated
  · simp [h]
  · simp [h, Ne.symm h]

theorem flip_counted (original updated : Bool) :
    (if original = updated then 1 else 0) ≠ 0 ↔ (!updated) ≠ original := by
  rw [counter_ne_zero_iff]
  cases original <;> cases updated <;> decide

theorem configuration_ne_iff {updated original : TenancyConfigSettings} :
    updated ≠ original ↔ updated.multitenancy_enabled ≠ original.multitenancy_enabled ∨
      updated.private_tenant_enabled ≠ original.private_tenant_enabled ∨
        updated.default_tenant ≠ original.default_tenant := by
  cases updated
  cases original
  simp only [ne_eq, TenancyConfigSettings.mk.injEq]
  tauto

section Counters

variable {s : State}

/-- The counter of the default tenant decides, unless one of the switches differs. -/
theorem changesCounted_iff (h : SwitchesCounted s) :
    ChangesCounted s ↔
      s.updatedConfiguration.multitenancy_enabled ≠ s.originalConfiguration.multitenancy_enabled ∨
        s.updatedConfiguration.private_tenant_enabled ≠
            s.originalConfiguration.private_tenant_enabled ∨
          DefaultTenantCounted s := by
  have hsum : s.unsavedChanges ≠ 0 ↔ s.changeInMultiTenancyOption ≠ 0 ∨
      s.changeInPrivateTenantOption ≠ 0 ∨ s.changeInDefaultTenantOption ≠ 0 := by
    unfold State.unsavedChanges
    omega
  unfold ChangesCounted DefaultTenantCounted
  rw [hsum, configuration_ne_iff, h.tenancy, h.privateTenant]
  tauto

/-- After a reset of the counters nothing is counted. -/
theorem counted_of_reset (hequal : s.updatedConfiguration = s.originalConfiguration)
    (htenancy : s.changeInMultiTenancyOption = 0) (hprivate : s.changeInPrivateTenantOption = 0)
    (hdefault : s.changeInDefaultTenantOption = 0) :
    SwitchesCounted s ∧ DefaultTenantCounted s := by
  refine ⟨⟨?_, ?_⟩, ?_⟩
  · rw [htenancy, hequal]
    exact iff_of_false (by simp) (by simp)
  · rw [hprivate, hequal]
    exact iff_of_false (by simp) (by simp)
  · rw [DefaultTenantCounted, hdefault, hequal]
    exact iff_of_false (by simp) (by simp)

theorem fetchData_counted (info : Option DashboardsInfo) :
    SwitchesCounted (fetchData info) ∧ DefaultTenantCounted (fetchData info) :=
  counted_of_reset rfl rfl rfl rfl

/-- A choice is counted right exactly if it departs from the original tenant or returns to it. -/
theorem onChangeComboBoxOptions_counted (label : String) (labels : List String) :
    DefaultTenantCounted (s.onChangeComboBoxOptions (label :: labels)) ↔
      DepartsOrReturns (.onChangeComboBoxOptions (label :: labels)) s := by
  have hcounter : (s.onChangeComboBoxOptions (label :: labels)).changeInDefaultTenantOption ≠ 0 ↔
      s.updatedConfiguration.default_tenant = s.originalConfiguration.default_tenant :=
    counter_ne_zero_iff _ _
  unfold DefaultTenantCounted
  rw [hcounter]
  exact Iff.rfl

theorem step_switchesCounted (event : Event) (s : State) (h : SwitchesCounted s) :
    SwitchesCounted (step event s).2 := by
  cases event with
  | onSwitchChangeTenancyEnabled => exact ⟨flip_counted _ _, h.privateTenant⟩
  | onSwitchChangePrivateTenantEnabled => exact ⟨h.tenancy, flip_counted _ _⟩
  | onChangeComboBoxOptions labels =>
    cases labels with
    | nil => exact ⟨h.tenancy, h.privateTenant⟩
    | cons label labels => exact ⟨h.tenancy, h.privateTenant⟩
  | discardChangesFunction => exact (counted_of_reset rfl rfl rfl rfl).1
  | handleSave accepted =>
    cases accepted with
    | false => exact (counted_of_reset rfl rfl rfl rfl).1
    | true => exact (counted_of_reset rfl rfl rfl rfl).1

theorem step_defaultTenantCounted (event : Event) (s : State) (hchoice : DepartsOrReturns event s)
    (h : DefaultTenantCounted s) : DefaultTenantCounted (step event s).2 := by
  cases event with
  | onSwitchChangeTenancyEnabled => exact h
  | onSwitchChangePrivateTenantEnabled => exact h
  | onChangeComboBoxOptions labels =>
    cases labels with
    | nil => exact h
    | cons label labels => exact (onChangeComboBoxOptions_counted label labels).mpr hchoice
  | discardChangesFunction => exact (counted_of_reset rfl rfl rfl rfl).2
  | handleSave accepted =>
    cases accepted with
    | false => exact (counted_of_reset rfl rfl rfl rfl).2
    | true => exact (counted_of_reset rfl rfl rfl rfl).2

end Counters

/-! ## Runs that are counted -/

/-- The events that bring the switches back to the original settings. -/
def switchesBack (s : State) : List Event :=
  (if s.updatedConfiguration.private_tenant_enabled = s.originalConfiguration.private_tenant_enabled
    then [] else [.onSwitchChangePrivateTenantEnabled]) ++
  (if s.updatedConfiguration.multitenancy_enabled = s.originalConfiguration.multitenancy_enabled
    then [] else [.onSwitchChangeTenancyEnabled])

theorem switchesBack_isSwitch (s : State) : ∀ event ∈ switchesBack s, event.IsSwitch := by
  intro event hevent
  unfold switchesBack at hevent
  rcases List.mem_append.mp hevent with hevent | hevent
  · split at hevent
    · cases hevent
    · rw [List.mem_singleton.mp hevent]
      exact trivial
  · split at hevent
    · cases hevent
    · rw [List.mem_singleton.mp hevent]
      exact trivial

/-- With the switches back, only the default tenant may differ. -/
structure SwitchedBack (s s' : State) : Prop where
  tenancy : s'.updatedConfiguration.multitenancy_enabled =
    s'.originalConfiguration.multitenancy_enabled
  privateTenant : s'.updatedConfiguration.private_tenant_enabled =
    s'.originalConfiguration.private_tenant_enabled
  defaultTenant : DefaultTenantCounted s' ↔ DefaultTenantCounted s

theorem switchesBack_switchedBack (s : State) :
    SwitchedBack s (Machine.exec step (switchesBack s) s) := by
  have hflip : ∀ {updated original : Bool}, ¬ updated = original → (!updated) = original := by
    intro updated original h
    cases updated <;> cases original <;> simp_all
  unfold switchesBack
  by_cases hprivate : s.updatedConfiguration.private_tenant_enabled =
      s.originalConfiguration.private_tenant_enabled
  · by_cases htenancy : s.updatedConfiguration.multitenancy_enabled =
        s.originalConfiguration.multitenancy_enabled
    · rw [if_pos hprivate, if_pos htenancy]
      exact ⟨htenancy, hprivate, Iff.rfl⟩
    · rw [if_pos hprivate, if_neg htenancy]
      exact ⟨hflip htenancy, hprivate, Iff.rfl⟩
  · by_cases htenancy : s.updatedConfiguration.multitenancy_enabled =
        s.originalConfiguration.multitenancy_enabled
    · rw [if_neg hprivate, if_pos htenancy]
      exact ⟨htenancy, hflip hprivate, Iff.rfl⟩
    · rw [if_neg hprivate, if_neg htenancy]
      exact ⟨hflip htenancy, hflip hprivate, Iff.rfl⟩

theorem departsOrReturns_of_isSwitch {event : Event} (h : event.IsSwitch) (s : State) :
    DepartsOrReturns event s := by
  cases event with
  | onSwitchChangeTenancyEnabled => exact trivial
  | onSwitchChangePrivateTenantEnabled => exact trivial
  | onChangeComboBoxOptions labels => exact h.elim
  | discardChangesFunction => exact trivial
  | handleSave accepted => exact trivial

theorem exec_switchesCounted (info : Option DashboardsInfo) (events : List Event) :
    SwitchesCounted (Machine.exec step events (fetchData info)) :=
  Machine.exec_invariant SwitchesCounted step_switchesCounted events (fetchData_counted info).1

/-- A run whose choices depart or return is counted right. -/
theorem changesCounted_of_meets {info : Option DashboardsInfo} {events : List Event}
    (h : Machine.Meets step DepartsOrReturns events (fetchData info)) :
    ChangesCounted (Machine.exec step events (fetchData info)) := by
  have hdefault : DefaultTenantCounted (Machine.exec step events (fetchData info)) :=
    Machine.exec_of_meets DefaultTenantCounted step_defaultTenantCounted h
      (fetchData_counted info).2
  exact (changesCounted_iff (exec_switchesCounted info events)).mpr (Or.inr (Or.inr hdefault))

/-- After any other choice the count is wrong as soon as the switches are back. -/
theorem departsOrReturns_of_counted {info : Option DashboardsInfo} {earlier : List Event}
    {event : Event}
    (h : ∀ switches : List Event, (∀ event ∈ switches, event.IsSwitch) →
      ChangesCounted (Machine.exec step (earlier ++ [event] ++ switches) (fetchData info))) :
    DepartsOrReturns event (Machine.exec step earlier (fetchData info)) := by
  cases event with
  | onSwitchChangeTenancyEnabled => exact trivial
  | onSwitchChangePrivateTenantEnabled => exact trivial
  | discardChangesFunction => exact trivial
  | handleSave accepted => exact trivial
  | onChangeComboBoxOptions labels =>
    cases labels with
    | nil => exact trivial
    | cons label labels =>
      let chosen := Machine.exec step (earlier ++ [.onChangeComboBoxOptions (label :: labels)])
        (fetchData info)
      have hcounted := h (switchesBack chosen) (switchesBack_isSwitch chosen)
      have hback := switchesBack_switchedBack chosen
      have hswitches := exec_switchesCounted info
        (earlier ++ [.onChangeComboBoxOptions (label :: labels)] ++ switchesBack chosen)
      rw [changesCounted_iff hswitches] at hcounted
      rw [Machine.exec_append] at hcounted
      have hdefault : DefaultTenantCounted chosen := by
        rcases hcounted with htenancy | hprivate | hdefault
        · exact absurd hback.tenancy htenancy
        · exact absurd hback.privateTenant hprivate
        · exact hback.defaultTenant.mp hdefault
      have hchosen : chosen = (Machine.exec step earlier (fetchData info)).onChangeComboBoxOptions
          (label :: labels) := Machine.exec_append earlier _ _
      rw [hchosen] at hdefault
      exact (onChangeComboBoxOptions_counted label labels).mp hdefault

/-- The changes are counted right along a run, and after any use of the switches on the way, exactly
if every choice of a default tenant departs from the original one or returns to it. -/
theorem changesCounted_iff_meets (info : Option DashboardsInfo) (events : List Event) :
    (∀ earlier, earlier <+: events → ∀ switches : List Event,
      (∀ event ∈ switches, event.IsSwitch) →
        ChangesCounted (Machine.exec step (earlier ++ switches) (fetchData info))) ↔
      Machine.Meets step DepartsOrReturns events (fetchData info) := by
  constructor
  · intro h
    refine Machine.meets_iff.mpr fun earlier event later hevents => ?_
    refine departsOrReturns_of_counted (h (earlier ++ [event]) ⟨later, ?_⟩)
    rw [hevents, List.append_assoc, List.singleton_append]
  · rintro h earlier ⟨later, rfl⟩ switches hswitches
    obtain ⟨hearlier, -⟩ := Machine.meets_append.mp h
    refine changesCounted_of_meets (Machine.meets_append.mpr ⟨hearlier, ?_⟩)
    refine Machine.meets_iff.mpr fun before event after heq => ?_
    refine departsOrReturns_of_isSwitch (hswitches event ?_) _
    rw [heq]
    exact List.mem_append_right before List.mem_cons_self

/-! ## The warning -/

section Warning

variable {s : State}

theorem warnsExactly_iff :
    WarnsExactly s ↔ (s.showErrorWarning = true ↔ s.updatedConfiguration.Invalid) := by
  refine ⟨WarnsExactly.warning, fun h => ⟨h, ?_⟩⟩
  unfold State.bottomBar
  rw [Bool.and_eq_true, Bool.not_eq_true', ← Bool.not_eq_true, h, decide_eq_true_iff]
  exact and_comm

theorem invalid_private_iff (default_tenant : Option String) (enabled : Bool) :
    ((decide (default_tenant = some "Private") && enabled) = true) ↔
      default_tenant = some "Private" ∧ (!enabled) = false := by
  rw [Bool.and_eq_true, decide_eq_true_iff, Bool.not_eq_false']

/-- A choice leaves the warning right exactly if it keeps the configuration as valid as it is. -/
theorem onChangeComboBoxOptions_warns (label : String) (labels : List String) :
    WarnsExactly (s.onChangeComboBoxOptions (label :: labels)) ↔
      KeepsValidity (.onChangeComboBoxOptions (label :: labels)) s := by
  rw [warnsExactly_iff]
  show ((decide (s.updatedConfiguration.default_tenant = some "Private") &&
      !s.updatedConfiguration.private_tenant_enabled) = true ↔
    some label = some "Private" ∧ s.updatedConfiguration.private_tenant_enabled = false) ↔
    (s.updatedConfiguration.private_tenant_enabled = false →
      (s.updatedConfiguration.default_tenant = some "Private" ↔ label = "Private"))
  rw [invalid_private_iff, Bool.not_not, Option.some.injEq]
  tauto

/-- Going back to the original configuration leaves the warning as it is. -/
theorem restored_warns {s' : State} (h : WarnsExactly s)
    (hwarning : s'.showErrorWarning = s.showErrorWarning)
    (hrestored : s'.updatedConfiguration = s.originalConfiguration) :
    WarnsExactly s' ↔ (s.updatedConfiguration.Invalid ↔ s.originalConfiguration.Invalid) := by
  rw [warnsExactly_iff, hwarning, hrestored, h.warning]

/-- The steps that leave the warning right. -/
theorem step_warnsExactly (event : Event) (s : State) (h : WarnsExactly s) :
    WarnsExactly (step event s).2 ↔ KeepsValidity event s := by
  cases event with
  | onSwitchChangeTenancyEnabled => exact iff_of_true (warnsExactly_iff.mpr h.warning) trivial
  | onSwitchChangePrivateTenantEnabled =>
    exact iff_of_true (warnsExactly_iff.mpr (invalid_private_iff _ _)) trivial
  | onChangeComboBoxOptions labels =>
    cases labels with
    | nil => exact iff_of_true (warnsExactly_iff.mpr h.warning) trivial
    | cons label labels => exact onChangeComboBoxOptions_warns label labels
  | discardChangesFunction => exact restored_warns h rfl rfl
  | handleSave accepted =>
    cases accepted with
    | false => exact restored_warns h rfl rfl
    | true => exact iff_of_true (warnsExactly_iff.mpr h.warning) trivial

end Warning

/-- The warning is right in all states of a run exactly if the loaded configuration is valid and every
step keeps the configuration as valid as the warning takes it to be. -/
theorem warnsExactly_iff_meets (info : Option DashboardsInfo) (events : List Event) :
    (∀ earlier, earlier <+: events →
      WarnsExactly (Machine.exec step earlier (fetchData info))) ↔
      ¬ (fetchData info).updatedConfiguration.Invalid ∧
        Machine.Meets step KeepsValidity events (fetchData info) := by
  rw [Machine.states_iff_meets step_warnsExactly, warnsExactly_iff]
  refine and_congr_left' ?_
  exact iff_of_eq (by simp [fetchData])

namespace Sample

def globalDefault : DashboardsInfo where
  multitenancy_enabled := some true
  private_tenant_enabled := some false
  default_tenant := some "Global"

/-- The second choice sets the counter back although the default tenant is not the original one. -/
theorem secondChoice_uncounted :
    (Machine.exec step [.onChangeComboBoxOptions ["analysts"], .onChangeComboBoxOptions ["sales"]]
        (fetchData (some globalDefault))).unsavedChanges = 0 ∧
      ¬ ChangesCounted (Machine.exec step
        [.onChangeComboBoxOptions ["analysts"], .onChangeComboBoxOptions ["sales"]]
        (fetchData (some globalDefault))) := by
  refine ⟨by decide, fun h => ?_⟩
  exact absurd (h.mpr (by decide)) (by decide)

/-- The private tenant is disabled, and choosing it as the default one is offered for saving. -/
theorem privateDefault_offered :
    (Machine.exec step [.onChangeComboBoxOptions ["Private"]]
        (fetchData (some globalDefault))).bottomBar = true ∧
      (Machine.exec step [.onChangeComboBoxOptions ["Private"]]
        (fetchData (some globalDefault))).updatedConfiguration.Invalid ∧
      ¬ WarnsExactly (Machine.exec step [.onChangeComboBoxOptions ["Private"]]
        (fetchData (some globalDefault))) := by
  refine ⟨by decide, ⟨by decide, by decide⟩, fun h => ?_⟩
  exact absurd (h.warning.mpr ⟨by decide, by decide⟩) (by decide)

end Sample

end ConfigureTab1

end SecurityDashboards
