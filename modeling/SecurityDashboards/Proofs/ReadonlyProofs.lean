import SecurityDashboards.Readonly

/-!
# Proofs: when the deciders agree

The server and the panel always agree. The setup of the plugin does not know the built-in role, so
it agrees with them when another role decides.
-/

namespace SecurityDashboards

variable {config : SecurityPluginConfig} {roles : List String}

/-- The user has one of the configured roles. -/
def HasReadonlyRole (config : SecurityPluginConfig) (roles : List String) : Prop :=
  ∃ role ∈ roles, role ∈ config.readonly_mode.roles

theorem mem_default_readonly_roles {role : String} :
    role ∈ DEFAULT_READONLY_ROLES ↔ role = "kibana_read_only" := by
  rw [DEFAULT_READONLY_ROLES, List.mem_singleton]

theorem isReadonly_iff :
    isReadonly (some roles) config = true ↔
      HasReadonlyRole config roles ∨ "kibana_read_only" ∈ roles := by
  simp only [isReadonly, Option.any_some, List.any_eq_true, Bool.or_eq_true, List.contains_iff_mem,
    mem_default_readonly_roles, HasReadonlyRole]
  constructor
  · rintro ⟨role, hrole, h | rfl⟩
    · exact Or.inl ⟨role, hrole, h⟩
    · exact Or.inr hrole
  · rintro (⟨role, hrole, h⟩ | h)
    · exact ⟨role, hrole, Or.inl h⟩
    · exact ⟨_, h, Or.inr rfl⟩

theorem panel_readonly_eq :
    TenantSwitchPanel.readonly config.exposed roles = isReadonly (some roles) config := by
  simp only [TenantSwitchPanel.readonly, SecurityPluginConfig.exposed, isReadonly, Option.any_some]

theorem plugin_readonly_iff :
    SecurityPlugin.isReadonly config.exposed (some { roles }) = some true ↔
      HasReadonlyRole config roles := by
  simp only [SecurityPlugin.isReadonly, SecurityPluginConfig.exposed, Option.map_some,
    Option.getD_some, Option.some.injEq, List.any_eq_true, List.contains_iff_mem, HasReadonlyRole]

/-- The three deciders agree exactly for the users for whom the built-in role does not matter. -/
theorem readonlyAgree_iff (config : SecurityPluginConfig) (roles : List String) :
    ReadonlyAgree config roles ↔
      ("kibana_read_only" ∈ roles → ∃ role ∈ roles, role ∈ config.readonly_mode.roles) := by
  have hplugin : SecurityPlugin.isReadonly config.exposed (some { roles }) =
      some (isReadonly (some roles) config) ↔
        (isReadonly (some roles) config = true ↔ HasReadonlyRole config roles) := by
    rw [← plugin_readonly_iff]
    cases hserver : isReadonly (some roles) config with
    | true => simp
    | false => simp [SecurityPlugin.isReadonly]
  unfold ReadonlyAgree
  rw [hplugin, isReadonly_iff]
  change _ ↔ ("kibana_read_only" ∈ roles → HasReadonlyRole config roles)
  constructor
  · rintro ⟨-, hagree⟩ hbuiltin
    exact hagree.mp (Or.inr hbuiltin)
  · intro h
    exact ⟨panel_readonly_eq, fun hany => hany.elim id h, Or.inl⟩

/-- With the default configuration the setup of the plugin takes a user of the built-in role for one
who may write. -/
theorem builtin_role_disagrees : ¬ ReadonlyAgree {} ["kibana_read_only"] := by decide

end SecurityDashboards
