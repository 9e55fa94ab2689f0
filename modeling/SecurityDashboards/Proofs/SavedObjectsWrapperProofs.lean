import SecurityDashboards.NamespacePolicy
import SecurityDashboards.Proofs.PlainObjectProofs

/-!
# Proofs: the operations of a wrapped client

What one operation passes to the underlying client, and that the operations before it make no
difference.
-/

namespace SecurityDashboards

namespace Wrapper

variable {δ : Type} {w : Wrapper}

/-! ## Single operations -/

/-- Every operation but `find` reaches the underlying client, with the computed namespace if it has
options. -/
theorem call_scoped {operation : Operation δ} (h : operation.isFind = false) (n : Namespace) :
    ∃ call, w.call operation n = (.ok call, w.getNamespaceValue) ∧
      call.passed = call.namespaces.getD [] ∧
      call.namespaces =
        if operation.lacksOptions then none else some [w.getNamespaceValue] := by
  cases operation with
  | find options => cases h
  | create type attributes options => cases options <;> exact ⟨_, rfl, rfl, rfl⟩
  | bulkCreate objects options => cases options <;> exact ⟨_, rfl, rfl, rfl⟩
  | bulkUpdate objects options => cases options <;> exact ⟨_, rfl, rfl, rfl⟩
  | bulkGet objects options => exact ⟨_, rfl, rfl, rfl⟩
  | get type id options => exact ⟨_, rfl, rfl, rfl⟩
  | update type id attributes options => exact ⟨_, rfl, rfl, rfl⟩
  | delete type id options => exact ⟨_, rfl, rfl, rfl⟩
  | checkConflicts objects options => exact ⟨_, rfl, rfl, rfl⟩

theorem call_find_ok_iff {options : Option FindOptions} {n : Namespace} {call : ClientCall δ} :
    (w.call (.find options) n).1 = .ok call ↔
      w.HasTenants ∧ ∃ o, options = some o ∧
        call = .find (scopeFindOptions o (w.findNamespaceValue n)) := by
  simp only [Wrapper.call, findWithNamespace, HasTenants]
  cases w.state.authInfo.bind (·.tenants) with
  | none => simp
  | some tenants =>
    cases options with
    | none => simp
    | some o => simp [eq_comm]

theorem call_find_snd (options : Option FindOptions) (n : Namespace) :
    (w.call (δ := δ) (.find options) n).2 = n ∨
      (w.call (δ := δ) (.find options) n).2 = w.findNamespaceValue n := by
  simp only [Wrapper.call, findWithNamespace]
  cases w.state.authInfo.bind (·.tenants) with
  | none => exact Or.inl rfl
  | some tenants => cases options <;> exact Or.inr rfl

/-! ## The shared variable -/

theorem isPrivateTenant_iff : isPrivateTenant w.selectedTenant = true ↔ w.IsPrivate := by
  simp [isPrivateTenant, IsPrivate]

theorem findNamespaceValue_of_private (h : w.IsPrivate) (n : Namespace) :
    w.findNamespaceValue n = .name (PRIVATE_TENANT_SYMBOL ++ w.usernameText) :=
  if_pos (isPrivateTenant_iff.mpr h)

theorem findNamespaceValue_of_not_private (h : ¬ w.IsPrivate) (n : Namespace) :
    w.findNamespaceValue n = n :=
  if_neg (fun hp => h (isPrivateTenant_iff.mp hp))

theorem getNamespaceValue_of_enabled (h : w.IsPrivate) (he : w.isPrivateEnabled = true) :
    w.getNamespaceValue = .name (PRIVATE_TENANT_SYMBOL ++ w.usernameText) := by
  have h' : w.selectedTenant = some PRIVATE_TENANT_SYMBOL := h
  simp [getNamespaceValue, isAPrivateTenant, isPrivateTenant, he, h']

theorem getNamespaceValue_of_disabled (he : w.isPrivateEnabled = false) :
    w.getNamespaceValue = .ofTenant w.selectedTenant := by
  simp [getNamespaceValue, isAPrivateTenant, he]

theorem getNamespaceValue_of_not_private (h : ¬ w.IsPrivate) :
    w.getNamespaceValue = .ofTenant w.selectedTenant := by
  have hp : isPrivateTenant w.selectedTenant = false := by
    rw [Bool.eq_false_iff]
    exact fun hp => h (isPrivateTenant_iff.mp hp)
  simp [getNamespaceValue, isAPrivateTenant, hp]

/-- Whatever the operations before it leave in `namespaceValue`, `find` works in the own namespace
of the request. -/
theorem findNamespaceValue_namespaceAfter (operations : List (Operation δ)) :
    w.findNamespaceValue (w.namespaceAfter operations) = w.ownNamespace := by
  by_cases h : w.IsPrivate
  · simp only [ownNamespace, findNamespaceValue_of_private h]
  · simp only [ownNamespace, findNamespaceValue_of_not_private h]
    refine Machine.exec_invariant (fun n => n = Namespace.ofTenant w.selectedTenant)
      ?_ operations rfl
    intro operation n hn
    cases hf : operation.isFind with
    | false =>
      obtain ⟨call, hcall, -⟩ := call_scoped (w := w) hf n
      rw [hcall]
      exact getNamespaceValue_of_not_private h
    | true =>
      cases operation with
      | find options =>
        rcases call_find_snd (w := w) (δ := δ) options n with hsnd | hsnd
        · rw [hsnd]; exact hn
        · rw [hsnd, findNamespaceValue_of_not_private h]; exact hn
      | _ => cases hf

/-! ## What an operation sends -/

theorem sends_scoped {earlier : List (Operation δ)} {operation : Operation δ}
    (h : operation.isFind = false) {call : ClientCall δ} (hs : w.Sends earlier operation call) :
    call.passed = call.namespaces.getD [] ∧
      call.namespaces = if operation.lacksOptions then none else some [w.getNamespaceValue] := by
  obtain ⟨call', hcall, hnamespaces⟩ := call_scoped (w := w) h (w.namespaceAfter earlier)
  unfold Sends at hs
  rw [hcall] at hs
  cases hs
  exact hnamespaces

theorem sends_find_iff {earlier : List (Operation δ)} {options : Option FindOptions}
    {call : ClientCall δ} :
    w.Sends earlier (.find options) call ↔
      w.HasTenants ∧ ∃ o, options = some o ∧
        call = .find (scopeFindOptions o w.ownNamespace) := by
  rw [Sends, call_find_ok_iff, findNamespaceValue_namespaceAfter]

/-- The outcomes of a list of operations are what its operations send. -/
theorem mem_outcomes_ok_iff {operations : List (Operation δ)} {operation : Operation δ}
    {call : ClientCall δ} :
    (operation, .ok call) ∈ w.outcomes operations ↔
      ∃ earlier later, operations = earlier ++ operation :: later ∧
        w.Sends earlier operation call := by
  simp only [outcomes, Machine.mem_trace_iff, Sends, namespaceAfter, eq_comm]

theorem scopeFindOptions_namespaces {options : FindOptions} (h : options.hasNamespaces = false)
    (n : Namespace) : (scopeFindOptions options n).namespaces = .many [n] := by
  simp [scopeFindOptions, h]

/-! ## The own namespace -/

theorem ownNamespace_of_private (h : w.IsPrivate) :
    w.ownNamespace = .name (PRIVATE_TENANT_SYMBOL ++ w.usernameText) :=
  findNamespaceValue_of_private h _

theorem ownNamespace_of_not_private {tenant : String} (ht : w.selectedTenant = some tenant)
    (hne : tenant ≠ PRIVATE_TENANT_SYMBOL) : w.ownNamespace = .name tenant := by
  have h : ¬ w.IsPrivate := by
    intro h
    rw [IsPrivate, ht] at h
    exact hne (Option.some.inj h)
  rw [ownNamespace, findNamespaceValue_of_not_private h, ht]
  rfl

/-- The other operations work in it too, unless the configuration file disables the private
tenant. -/
theorem getNamespaceValue_eq_own (h : w.IsPrivate → w.isPrivateEnabled = true) :
    w.getNamespaceValue = w.ownNamespace := by
  by_cases hp : w.IsPrivate
  · rw [getNamespaceValue_of_enabled hp (h hp), ownNamespace_of_private hp]
  · rw [getNamespaceValue_of_not_private hp, ownNamespace, findNamespaceValue_of_not_private hp]

end Wrapper

end SecurityDashboards
