import SecurityDashboards.Proofs.TenantResolverProofs
import SecurityDashboards.TenantNamespaces

/-!
# Proofs: the server stores in registered namespaces

First, which names are registered, then what the saved objects client makes of each kind of result.
-/

namespace SecurityDashboards

namespace Resolution

variable {toLowerCase : String → String} {i : Resolution} {config : SecurityPluginConfig}

/-! ## Registered names -/

theorem registers_iff {n : String} :
    Registers i.accountInfo (.name n) ↔
      n = DEFAULT_TENANT ∨
      (n = GLOBAL_TENANT_SYMBOL ∧ i.availableTenants.hasOwn globalTenantName = true) ∨
      (n = PRIVATE_TENANT_SYMBOL ++ i.username ∧ i.availableTenants.hasOwn i.username = true ∧
        i.username ≠ globalTenantName) ∨
      (i.availableTenants.hasOwn n = true ∧ n ≠ globalTenantName ∧ n ≠ i.username) := by
  have hkeys : ∀ k, k ∈ i.availableTenants.keys ↔ i.availableTenants.hasOwn k = true :=
    fun k => Js.PlainObject.hasOwn_iff.symm
  constructor
  · rintro ⟨registered, hmem, hn⟩
    cases hn
    rcases List.mem_append.mp hmem with hmem | hmem
    · obtain ⟨k, hk, rfl⟩ := List.mem_map.mp hmem
      have hown : i.availableTenants.hasOwn k = true := (hkeys k).mp hk
      unfold namespaceToRegister
      split
      · rename_i hglobal
        rw [hglobal] at hown
        exact Or.inr (Or.inl ⟨rfl, hown⟩)
      · rename_i hglobal
        split
        · rename_i huser
          cases huser
          exact Or.inr (Or.inr (Or.inl ⟨rfl, hown, hglobal⟩))
        · rename_i huser
          have hne : k ≠ i.username := fun h => huser (congrArg some h)
          exact Or.inr (Or.inr (Or.inr ⟨hown, hglobal, hne⟩))
    · obtain rfl := List.mem_singleton.mp hmem
      exact Or.inl rfl
  · have hregisters : ∀ k, i.availableTenants.hasOwn k = true →
        Registers i.accountInfo (.name (namespaceToRegister (some i.username) k).id) := by
      intro k hk
      exact ⟨_, List.mem_append_left _ (List.mem_map_of_mem ((hkeys k).mpr hk)), rfl⟩
    rintro (rfl | ⟨rfl, hown⟩ | ⟨rfl, hown, hne⟩ | ⟨hown, hglobal, huser⟩)
    · exact ⟨_, List.mem_append_right _ (List.mem_singleton_self _), rfl⟩
    · exact hregisters globalTenantName hown
    · have hid : (namespaceToRegister (some i.username) i.username).id =
          PRIVATE_TENANT_SYMBOL ++ i.username := by
        rw [namespaceToRegister, if_neg hne, if_pos rfl]
        rfl
      rw [← hid]
      exact hregisters i.username hown
    · have hid : (namespaceToRegister (some i.username) n).id = n := by
        rw [namespaceToRegister, if_neg hglobal, if_neg fun h => huser (Option.some.inj h)]
      rw [← hid]
      exact hregisters n hown

/-! ## Names with the private symbol -/

theorem privateNamespace_ne (username : String) {s : String}
    (hs : s.toList.take 8 ≠ PRIVATE_TENANT_SYMBOL.toList) :
    PRIVATE_TENANT_SYMBOL ++ username ≠ s := by
  rintro rfl
  apply hs
  rw [String.toList_append]
  exact List.take_left' (by decide)

theorem privateNamespace_not_inherited (username : String) :
    Js.objectPrototype.contains (PRIVATE_TENANT_SYMBOL ++ username) = false := by
  have hnames : ∀ s ∈ Js.objectPrototype, s.toList.take 8 ≠ PRIVATE_TENANT_SYMBOL.toList := by
    decide
  rw [List.contains_eq_mem, decide_eq_false_iff_not]
  intro hmem
  exact privateNamespace_ne username (hnames _ hmem) rfl

theorem privateNamespace_ne_username (username : String) :
    PRIVATE_TENANT_SYMBOL ++ username ≠ username := by
  intro h
  have hlength := congrArg (fun s => s.toList.length) h
  simp only [String.toList_append, List.length_append] at hlength
  have hsymbol : PRIVATE_TENANT_SYMBOL.toList.length = 8 := by decide
  omega

theorem own_of_has {k : String} (hhas : i.availableTenants.has k = true)
    (hk : Js.objectPrototype.contains k = false) : i.availableTenants.hasOwn k = true := by
  unfold Js.PlainObject.has at hhas
  rw [hk, Bool.or_false] at hhas
  exact hhas

/-! ## The namespaces of the results -/

theorem namespace_private (hconfig : i.Consistent config) (hprivate : i.privateEnabled = true) :
    (i.wrapper config PRIVATE_TENANT_SYMBOL).getNamespaceValue =
      .name (PRIVATE_TENANT_SYMBOL ++ i.username) := by
  have hwrapper : (i.wrapper config PRIVATE_TENANT_SYMBOL).isPrivateEnabled = true :=
    hconfig.enable_private.trans hprivate
  unfold Wrapper.getNamespaceValue Wrapper.isAPrivateTenant
  rw [hwrapper]
  rfl

theorem namespace_raw (hconfig : i.Consistent config) {t : String}
    (ht : ¬ (t = PRIVATE_TENANT_SYMBOL ∧ i.privateEnabled = true)) :
    (i.wrapper config t).getNamespaceValue = .name t := by
  have hwrapper : (i.wrapper config t).isPrivateEnabled = i.privateEnabled := hconfig.enable_private
  have hraw : Wrapper.isAPrivateTenant (i.wrapper config t).selectedTenant
      (i.wrapper config t).isPrivateEnabled = false := by
    rw [hwrapper, Bool.eq_false_iff]
    intro h
    unfold Wrapper.isAPrivateTenant isPrivateTenant at h
    simp only [Bool.and_eq_true, beq_iff_eq] at h
    exact ht ⟨Option.some.inj h.2, h.1.2⟩
  unfold Wrapper.getNamespaceValue
  rw [hraw]
  rfl

/-- The namespace of the private tenant. -/
theorem registers_private_iff (hconfig : i.Consistent config) (hprivate : i.privateEnabled = true) :
    Registers i.accountInfo (.name (PRIVATE_TENANT_SYMBOL ++ i.username)) ↔ i.PrivateRegistered := by
  rw [registers_iff]
  constructor
  · rintro (h | ⟨h, -⟩ | ⟨-, -, hne⟩ | ⟨hown, -, -⟩)
    · exact absurd h (privateNamespace_ne i.username (by decide))
    · exact absurd h (privateNamespace_ne i.username (by decide))
    · exact Or.inl hne
    · exact Or.inr hown
  · rintro (hne | hown)
    · exact Or.inr (Or.inr (Or.inl ⟨rfl, hconfig.private_listed hprivate, hne⟩))
    · exact Or.inr (Or.inr (Or.inr ⟨hown, privateNamespace_ne i.username (by decide),
        privateNamespace_ne_username i.username⟩))

/-- The namespace of a tenant that is selected by its raw name. -/
theorem registers_raw_iff (hconfig : i.Consistent config) {k : String}
    (hhas : i.availableTenants.has k = true) :
    Registers i.accountInfo (i.wrapper config k).getNamespaceValue ↔ i.RegisteredKey k := by
  by_cases hprivate : k = PRIVATE_TENANT_SYMBOL ∧ i.privateEnabled = true
  · obtain ⟨rfl, henabled⟩ := hprivate
    rw [namespace_private hconfig henabled, registers_private_iff hconfig henabled]
    constructor
    · intro h
      exact ⟨own_of_has hhas (by decide), by decide, fun _ => Or.inr (Or.inr ⟨rfl, henabled⟩),
        fun _ _ => h⟩
    · intro h
      exact h.symbol rfl henabled
  · rw [namespace_raw hconfig hprivate, registers_iff]
    have hsymbol : k = PRIVATE_TENANT_SYMBOL → i.privateEnabled = true → i.PrivateRegistered :=
      fun hk henabled => absurd ⟨hk, henabled⟩ hprivate
    constructor
    · rintro (rfl | ⟨rfl, hglobal⟩ | ⟨rfl, huser, hne⟩ | ⟨hown, hglobal, huser⟩)
      · exact ⟨own_of_has hhas (by decide), by decide, fun _ => Or.inl rfl, hsymbol⟩
      · exact ⟨own_of_has hhas (by decide), by decide, fun _ => Or.inr (Or.inl ⟨rfl, hglobal⟩),
          hsymbol⟩
      · exact ⟨own_of_has hhas (privateNamespace_not_inherited i.username),
          privateNamespace_ne i.username (by decide),
          fun h => absurd h (privateNamespace_ne_username i.username), hsymbol⟩
      · exact ⟨hown, hglobal, fun h => absurd h huser, hsymbol⟩
    · intro h
      by_cases huser : k = i.username
      · rcases h.username huser with hk | ⟨hk, hglobal⟩ | hk
        · exact Or.inl hk
        · exact Or.inr (Or.inl ⟨hk, hglobal⟩)
        · exact absurd hk hprivate
      · exact Or.inr (Or.inr (Or.inr ⟨h.own, h.not_global, huser⟩))

/-- The namespace of the global tenant. -/
theorem registers_global (hconfig : i.Consistent config) (hglobal : i.globalTenantEnabled = true) :
    Registers i.accountInfo (i.wrapper config GLOBAL_TENANT_SYMBOL).getNamespaceValue := by
  rw [namespace_raw hconfig fun h => absurd h.1 (by decide), registers_iff]
  exact Or.inr (Or.inl ⟨rfl, hconfig.global_listed hglobal⟩)

/-- The namespace of the first custom tenant. -/
theorem registers_first_iff (hconfig : i.Consistent config) (hpick : i.FirstPick toLowerCase)
    {t : String} (ht : firstAvailableTenant i.otherTenants = .ok (some t)) :
    Registers i.accountInfo (i.wrapper config t).getNamespaceValue ↔
      i.otherTenants.keys ≠ [globalTenantName] := by
  obtain ⟨-, -, hprivate⟩ := hpick
  have hdisabled : ¬ (t = PRIVATE_TENANT_SYMBOL ∧ i.privateEnabled = true) := by
    rintro ⟨-, henabled⟩
    rw [hprivate] at henabled
    cases henabled
  rw [namespace_raw hconfig hdisabled, registers_iff]
  rcases (firstAvailableTenant_eq_some_iff.mp ht).2 with ⟨hne, hhead⟩ | ⟨rfl, hkeys⟩
  · have hmem : t ∈ i.otherTenants.keys := List.mem_of_mem_filter (List.mem_of_mem_head? hhead)
    obtain ⟨hkey, huser⟩ := Js.PlainObject.mem_keys_delete.mp hmem
    refine ⟨fun _ hkeys => ?_, fun _ => Or.inr (Or.inr (Or.inr
      ⟨Js.PlainObject.hasOwn_iff.mpr hkey, hne, huser⟩))⟩
    rw [hkeys, List.mem_singleton] at hmem
    exact hne hmem
  · refine ⟨?_, fun h => absurd hkeys h⟩
    rintro (h | ⟨h, -⟩ | ⟨h, -⟩ | ⟨-, h, -⟩)
    · exact absurd h (by decide)
    · exact absurd h (by decide)
    · exact absurd h.symm (privateNamespace_ne i.username (by decide))
    · exact absurd rfl h

/-- The private tenant is only picked by an alias or as the fallback if it is enabled. -/
theorem privateEnabled_of_pick (h : i.PrivatePick toLowerCase) : i.privateEnabled = true := by
  have halias : ∀ x, i.aliasOf x = some PRIVATE_TENANT_SYMBOL → i.privateEnabled = true := by
    intro x hx
    rcases aliasOf_eq_some hx with ⟨h, -⟩ | ⟨-, henabled, -⟩
    · exact absurd h (by decide)
    · exact henabled
  rcases h with (⟨r, -, -, hr⟩ | ⟨-, x, -, hx⟩) | ⟨-, -, henabled⟩
  · exact halias r hr
  · exact halias x hx
  · exact henabled

/-- The server stores the objects of every tenant that `resolve` returns in a namespace that the
client registers, exactly when all picks are registered names. -/
theorem selected_registered_iff (toLowerCase : String → String) (i : Resolution)
    (config : SecurityPluginConfig) (hconfig : i.Consistent config) :
    (∀ t, i.result toLowerCase = .ok (some t) →
      Registers i.accountInfo (i.wrapper config t).getNamespaceValue) ↔
      i.RegisteredPicks toLowerCase := by
  constructor
  · intro h
    refine ⟨fun ha k hpick => ?_, fun ha hpick => ?_, fun ha hpick hkeys => ?_⟩
    · exact (registers_raw_iff hconfig (has_of_rawPick hpick)).mp (h k (result_raw ha hpick))
    · have hprivate : i.privateEnabled = true := privateEnabled_of_pick hpick
      have hregistered := h _ (result_private ha hpick)
      rw [namespace_private hconfig hprivate] at hregistered
      exact (registers_private_iff hconfig hprivate).mp hregistered
    · have hfirst : firstAvailableTenant i.otherTenants = .ok (some globalTenantName) := by
        refine firstAvailableTenant_eq_some_iff.mpr ⟨fun hthrows => ?_, Or.inr ⟨rfl, hkeys⟩⟩
        have hlength := hthrows.1
        rw [hkeys] at hlength
        exact absurd hlength (by decide)
      exact (registers_first_iff hconfig hpick hfirst).mp (h _ (result_first ha hpick hfirst)) hkeys
  · rintro ⟨hraw, hprivate, hfirst⟩ t ht
    by_cases ha : i.Active
    · rcases result_cases ha ht with hpick | ⟨rfl, hglobal, -⟩ | ⟨rfl, henabled, hpick⟩ |
        ⟨hpick, hf⟩
      · exact (registers_raw_iff hconfig (has_of_rawPick hpick)).mpr (hraw ha t hpick)
      · exact registers_global hconfig hglobal
      · rw [namespace_private hconfig henabled]
        exact (registers_private_iff hconfig henabled).mpr (hprivate ha hpick)
      · exact (registers_first_iff hconfig hpick hf).mpr (hfirst ha hpick)
    · obtain ⟨-, rfl, hglobal⟩ := result_of_not_active ha ht
      exact registers_global hconfig hglobal

def aliceAvailable : Tenants :=
  ⟨[("global_tenant", true), ("alice", true), ("analysts", true)], by decide⟩

/-- alice asks for a tenant, and both flags are set. -/
def aliceRequests (tenant : String) : Resolution where
  username := "alice"
  requestedTenant := some tenant
  preferredTenants := none
  availableTenants := aliceAvailable
  globalTenantEnabled := true
  multitenancyEnabled := some true
  privateTenantEnabled := some true

theorem aliceRequests_consistent (tenant : String) : (aliceRequests tenant).Consistent {} where
  enable_private := rfl
  enable_global := rfl
  private_listed _ := (by decide : aliceAvailable.hasOwn "alice" = true)
  global_listed _ := (by decide : aliceAvailable.hasOwn globalTenantName = true)

/-- A custom tenant is registered under its name. -/
theorem analysts_registered :
    (aliceRequests "analysts").result asciiToLowerCase = .ok (some "analysts") ∧
      Registers (aliceRequests "analysts").accountInfo
        ((aliceRequests "analysts").wrapper {} "analysts").getNamespaceValue := by
  have hresult : (aliceRequests "analysts").result asciiToLowerCase = .ok (some "analysts") := by
    decide
  refine ⟨hresult, (selected_registered_iff asciiToLowerCase (aliceRequests "analysts") {}
    (aliceRequests_consistent "analysts")).mpr ⟨fun _ k hpick => ?_, fun _ hpick => ?_,
      fun _ hpick => ?_⟩ "analysts" hresult⟩
  · have hk : k = "analysts" := by
      rcases hpick with ⟨h, -⟩ | ⟨hunusable, -⟩
      · exact (Option.some.inj h).symm
      · exact absurd (hunusable "analysts" rfl) (by decide)
    subst hk
    exact ⟨by decide, by decide, fun h => absurd h (by decide), fun h => absurd h (by decide)⟩
  · exact Or.inl (by decide)
  · exact absurd hpick.2.1 (by decide)

/-- With the raw name of the global tenant, alice works in a namespace that is not registered. -/
theorem global_key_not_registered :
    (aliceRequests "global_tenant").Consistent {} ∧
      ¬ ∀ t, (aliceRequests "global_tenant").result asciiToLowerCase = .ok (some t) →
        Registers (aliceRequests "global_tenant").accountInfo
          ((aliceRequests "global_tenant").wrapper {} t).getNamespaceValue := by
  refine ⟨aliceRequests_consistent _, fun h => ?_⟩
  have hres : (aliceRequests "global_tenant").result asciiToLowerCase =
      .ok (some "global_tenant") := by rfl
  obtain ⟨registered, hmem, hid⟩ := h _ hres
  have hids : ∀ registered ∈ getNamespacesToRegister (aliceRequests "global_tenant").accountInfo,
      Namespace.name "global_tenant" ≠ .name registered.id := by decide
  exact hids registered hmem hid

end Resolution

end SecurityDashboards
