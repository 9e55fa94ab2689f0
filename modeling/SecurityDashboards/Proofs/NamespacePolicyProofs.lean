import SecurityDashboards.Proofs.SavedObjectsWrapperProofs

/-!
# Proofs: when a wrapped client keeps to its namespaces

Three properties of the wrapped saved objects client, each with the exact condition under which the
code has it and an input on which it has not: all operations work in one namespace, `find` reads
readable namespaces only, and private tenants are isolated from each other and from shared ones.
-/

namespace SecurityDashboards

/-- Two spaces share their namespace only when they are the same, or when a shared tenant is called
like the private namespace of a user. -/
theorem Space.namespace_eq_iff {s s' : Space} :
    s.namespace_ = s'.namespace_ ↔
      s = s' ∨ (∃ u, s = .user u ∧ s' = .shared (PRIVATE_TENANT_SYMBOL ++ u)) ∨
        ∃ u, s = .shared (PRIVATE_TENANT_SYMBOL ++ u) ∧ s' = .user u := by
  cases s <;> cases s' <;> simp [Space.namespace_, eq_comm]

namespace Wrapper

variable {δ : Type} {w : Wrapper}

/-! ## One namespace for all operations -/

theorem exists_sends_of_mem {operations : List (Operation δ)} {operation : Operation δ}
    (hmem : operation ∈ operations) (hf : operation.isFind = false) :
    ∃ call, (operation, Except.ok call) ∈ w.outcomes operations ∧
      call.namespaces = if operation.lacksOptions then none else some [w.getNamespaceValue] := by
  obtain ⟨earlier, later, rfl⟩ := List.append_of_mem hmem
  obtain ⟨call, hcall, -, hnamespaces⟩ := call_scoped (w := w) hf (w.namespaceAfter earlier)
  have hs : w.Sends earlier operation call := by rw [Sends, hcall]
  exact ⟨call, mem_outcomes_ok_iff.mpr ⟨earlier, later, rfl, hs⟩, hnamespaces⟩

theorem exists_sends_of_findsOwn {operations : List (Operation δ)} {operation : Operation δ}
    (hmem : operation ∈ operations) (hf : w.FindsOwn operation) :
    operation.choosesNamespaces = false ∧
      ∃ call, (operation, Except.ok call) ∈ w.outcomes operations ∧
        call.namespaces = some [w.ownNamespace] := by
  obtain ⟨htenants, options, rfl, hown⟩ := hf
  obtain ⟨earlier, later, rfl⟩ := List.append_of_mem hmem
  refine ⟨hown, .find (scopeFindOptions options w.ownNamespace), ?_, ?_⟩
  · refine mem_outcomes_ok_iff.mpr ⟨earlier, later, rfl, ?_⟩
    exact sends_find_iff.mpr ⟨htenants, options, rfl, rfl⟩
  · simp [ClientCall.namespaces, scopeFindOptions_namespaces hown, OneOrMany.toList]

/-- What an operation that counts sends: the computed namespace, none without options, or for
`find` the own namespace of the request. -/
theorem namespaces_of_outcome {operations : List (Operation δ)} {operation : Operation δ}
    {call : ClientCall δ} (h : (operation, Except.ok call) ∈ w.outcomes operations)
    (hc : operation.choosesNamespaces = false) :
    (operation ∈ operations ∧ operation.isFind = false ∧
        call.namespaces = if operation.lacksOptions then none else some [w.getNamespaceValue]) ∨
      (operation ∈ operations ∧ w.FindsOwn operation ∧
        call.namespaces = some [w.ownNamespace]) := by
  obtain ⟨earlier, later, rfl, hs⟩ := mem_outcomes_ok_iff.mp h
  have hmem : operation ∈ earlier ++ operation :: later := by simp
  cases hf : operation.isFind with
  | false => exact Or.inl ⟨hmem, rfl, (sends_scoped hf hs).2⟩
  | true =>
    cases operation with
    | find options =>
      obtain ⟨htenants, o, rfl, rfl⟩ := sends_find_iff.mp hs
      have hown : o.hasNamespaces = false := hc
      refine Or.inr ⟨hmem, ⟨htenants, o, rfl, hown⟩, ?_⟩
      simp [ClientCall.namespaces, scopeFindOptions_namespaces hown, OneOrMany.toList]
    | _ => cases hf

/-- The two computations of the namespace only differ in a disabled private tenant. -/
theorem getNamespaceValue_eq_own_iff :
    w.getNamespaceValue = w.ownNamespace ↔
      (w.IsPrivate → w.isPrivateEnabled = false → w.usernameText = "") := by
  constructor
  · intro heq hp he
    rw [getNamespaceValue_of_disabled he, ownNamespace_of_private hp,
      show w.selectedTenant = some PRIVATE_TENANT_SYMBOL from hp] at heq
    have hs : PRIVATE_TENANT_SYMBOL ++ "" = PRIVATE_TENANT_SYMBOL ++ w.usernameText := by
      simpa [Namespace.ofTenant] using heq
    exact ((String.append_right_inj _).mp hs).symm
  · intro h
    by_cases hp : w.IsPrivate
    · cases he : w.isPrivateEnabled with
      | true => exact getNamespaceValue_eq_own fun _ => he
      | false =>
        rw [getNamespaceValue_of_disabled he, ownNamespace_of_private hp, h hp he,
          show w.selectedTenant = some PRIVATE_TENANT_SYMBOL from hp]
        simp [Namespace.ofTenant]
    · exact getNamespaceValue_eq_own fun hp' => absurd hp' hp

/-- Both computations give a name. -/
theorem exists_name {tenant : String} (ht : w.selectedTenant = some tenant) :
    (∃ s, w.getNamespaceValue = .name s) ∧ ∃ s, w.ownNamespace = .name s := by
  constructor
  · by_cases hp : w.IsPrivate ∧ w.isPrivateEnabled = true
    · exact ⟨_, getNamespaceValue_of_enabled hp.1 hp.2⟩
    · refine ⟨tenant, ?_⟩
      rw [not_and_or, Bool.not_eq_true] at hp
      have hn : w.getNamespaceValue = .ofTenant w.selectedTenant := by
        rcases hp with hp | hp
        · exact getNamespaceValue_of_not_private hp
        · exact getNamespaceValue_of_disabled hp
      rw [hn, ht]
      rfl
  · by_cases hp : tenant = PRIVATE_TENANT_SYMBOL
    · rw [hp] at ht
      exact ⟨_, ownNamespace_of_private ht⟩
    · exact ⟨_, ownNamespace_of_not_private ht hp⟩

/-- If one namespace serves the whole run, every operation has options, and the two computations of
the namespace do not meet in it where they differ. -/
theorem scopedUse_of_oneNamespace {operations : List (Operation δ)}
    (h : w.OneNamespace operations) : w.ScopedUse operations := by
  obtain ⟨N, hN⟩ := h
  have hscoped : ∀ operation ∈ operations, operation.isFind = false →
      operation.lacksOptions = false ∧ w.getNamespaceValue = .name N := by
    intro operation hmem hf
    obtain ⟨call, hout, hcall⟩ := exists_sends_of_mem (w := w) hmem hf
    have hc : operation.choosesNamespaces = false := by cases operation <;> first | rfl | cases hf
    have h := hN _ _ hout hc call rfl
    rw [hcall] at h
    cases hl : operation.lacksOptions with
    | true => simp [hl] at h
    | false => exact ⟨rfl, by simpa [hl] using h⟩
  constructor
  · intro operation hmem
    cases hf : operation.isFind with
    | false => exact (hscoped operation hmem hf).1
    | true => cases operation <;> first | rfl | cases hf
  · intro hp he hu
    by_contra hmixed
    obtain ⟨hsome, hfind⟩ := not_or.mp hmixed
    push Not at hsome hfind
    obtain ⟨operation, hmem, hf⟩ := hsome
    obtain ⟨found, hmem', hown⟩ := hfind
    obtain ⟨hc, call, hout, hcall⟩ := exists_sends_of_findsOwn hmem' hown
    have h := hN _ _ hout hc call rfl
    have hN' := (hscoped operation hmem (by simpa using hf)).2
    rw [hcall, ← hN'] at h
    have heq : w.getNamespaceValue = w.ownNamespace := by simpa using h.symm
    exact hu (getNamespaceValue_eq_own_iff.mp heq hp he)

/-- Where every operation has options, it is sent with one of the two namespaces. -/
theorem namespace_of_outcome {operations : List (Operation δ)}
    (hoptions : ∀ operation ∈ operations, operation.lacksOptions = false)
    {operation : Operation δ} {call : ClientCall δ}
    (hout : (operation, Except.ok call) ∈ w.outcomes operations)
    (hc : operation.choosesNamespaces = false) :
    (operation ∈ operations ∧ operation.isFind = false ∧
        call.namespaces = some [w.getNamespaceValue]) ∨
      (operation ∈ operations ∧ w.FindsOwn operation ∧
        call.namespaces = some [w.ownNamespace]) := by
  rcases namespaces_of_outcome hout hc with ⟨hmem, hf, h⟩ | h
  · rw [hoptions operation hmem] at h
    exact Or.inl ⟨hmem, hf, by simpa using h⟩
  · exact Or.inr h

theorem oneNamespace_of_scopedUse {tenant : String} (ht : w.selectedTenant = some tenant)
    {operations : List (Operation δ)} (h : w.ScopedUse operations) :
    w.OneNamespace operations := by
  obtain ⟨hoptions, hmixed⟩ := h
  obtain ⟨⟨g, hg⟩, ⟨o, ho⟩⟩ := exists_name ht
  -- One of the two namespaces serves every operation of the run.
  have hcases : w.getNamespaceValue = w.ownNamespace ∨
      (∀ operation ∈ operations, operation.isFind = true) ∨
      ∀ operation ∈ operations, ¬ w.FindsOwn operation := by
    by_cases heq : w.getNamespaceValue = w.ownNamespace
    · exact Or.inl heq
    · rw [getNamespaceValue_eq_own_iff] at heq
      push Not at heq
      exact Or.inr (hmixed heq.1 heq.2.1 heq.2.2)
  rcases hcases with heq | hall | hnone
  · refine ⟨g, fun operation outcome hout hc call heq' => ?_⟩
    subst heq'
    rcases namespace_of_outcome hoptions hout hc with ⟨-, -, h⟩ | ⟨-, -, h⟩
    · rw [h, hg]
    · rw [h, ← heq, hg]
  · refine ⟨o, fun operation outcome hout hc call heq' => ?_⟩
    subst heq'
    rcases namespace_of_outcome hoptions hout hc with ⟨hmem, hf, -⟩ | ⟨-, -, h⟩
    · rw [hall operation hmem] at hf
      cases hf
    · rw [h, ho]
  · refine ⟨g, fun operation outcome hout hc call heq' => ?_⟩
    subst heq'
    rcases namespace_of_outcome hoptions hout hc with ⟨-, -, h⟩ | ⟨hmem, hown, -⟩
    · rw [h, hg]
    · exact absurd hown (hnone operation hmem)

/-- In a run of operations all of them are scoped to one namespace, exactly when the client is used
as `ScopedUse` says. -/
theorem oneNamespace_iff (w : Wrapper) (tenant : String) (ht : w.selectedTenant = some tenant)
    (operations : List (Operation δ)) :
    w.OneNamespace operations ↔ w.ScopedUse operations :=
  ⟨scopedUse_of_oneNamespace, oneNamespace_of_scopedUse ht⟩

/-- alice works in her private tenant. -/
def alicePrivate : Wrapper where
  state := {
    authInfo := some { user_name := some "alice", tenants := some ⟨[("alice", true)], by decide⟩ }
    selectedTenant := some "__user__" }
  config := {}

theorem alicePrivate_one_namespace :
    alicePrivate.OneNamespace (δ := Unit)
      [.create "dashboard" () (some {}), .get "dashboard" "1" none,
        .find (some { type := .one (some "dashboard") })] :=
  (oneNamespace_iff alicePrivate "__user__" rfl _).mpr
    ⟨by decide, fun _ he => absurd he (by decide)⟩

theorem create_without_namespace :
    alicePrivate.selectedTenant = some "__user__" ∧
      ¬ alicePrivate.OneNamespace (δ := Unit) [.create "dashboard" () none] := by
  refine ⟨rfl, ?_⟩
  rintro ⟨N, hN⟩
  have h := hN _ _ (List.mem_singleton_self _) rfl _ rfl
  cases h

/-! ## Readable namespaces -/

theorem typeKey_eq_config {type : Option String} :
    typeKey type = "config" ↔ type = some "config" := by
  cases type <;> simp [typeKey]

/-- The map after the loop over the requested types. -/
theorem own_foldl_set (types : List (Option String)) (v : List Namespace)
    (map : Js.Assigned (List Namespace)) (k : String) :
    (types.foldl (fun map t => map.set (typeKey t) v) map).own k =
      if k ∈ types.map typeKey ∧ k ≠ "__proto__" then some v else map.own k := by
  induction types generalizing map with
  | nil => simp
  | cons t types ih =>
    rw [List.foldl_cons, ih, Js.Assigned.own_set]
    by_cases hp : k = "__proto__"
    · subst hp
      simp only [ne_eq, not_true, and_false, if_false]
      split
      · rename_i h; exact absurd h.1.symm h.2
      · rfl
    · by_cases hk : k = typeKey t
      · subst hk; simp [hp]
      · simp [hp, hk]

/-- Every type but `config` is mapped to the namespaces of the caller. -/
theorem own_typeToNamespacesMap (types : List (Option String)) (included : List Namespace)
    (n : Namespace) {k : String} (hk : k ≠ "config") :
    (typeToNamespacesMap types included n).own k =
      if k ∈ types.map typeKey ∧ k ≠ "__proto__" then some included else none := by
  have hloop := own_foldl_set types included .empty k
  rw [Js.Assigned.own_empty] at hloop
  rw [← hloop, typeToNamespacesMap]
  split
  · split
    · exact Js.Assigned.own_set_ne hk
    · rw [Js.Assigned.own_remove, if_neg hk]
  · rfl

/-- The type `config` is mapped to the own namespace, if at all. -/
theorem own_typeToNamespacesMap_config {types : List (Option String)} {included : List Namespace}
    {n : Namespace} {v : List Namespace}
    (h : (typeToNamespacesMap types included n).own "config" = some v) : v = [n] := by
  rw [typeToNamespacesMap] at h
  split at h
  · split at h
    · rw [Js.Assigned.own_set_self (by decide)] at h
      exact (Option.some.inj h).symm
    · rw [Js.Assigned.own_remove, if_pos rfl] at h
      cases h
  · rename_i hc
    have hk : ¬ "config" ∈ types.map typeKey := by
      intro hm
      obtain ⟨t, ht, hkey⟩ := List.mem_map.mp hm
      rw [typeKey_eq_config.mp hkey] at ht
      exact hc (by simpa using ht)
    rw [own_foldl_set, if_neg (fun h => hk h.1)] at h
    cases h

/-- The namespaces that `find` passes on when the caller names some. -/
theorem forall_map_iff {types : List (Option String)} {included : List Namespace} {n : Namespace}
    {P : Namespace → Prop} (hn : P n) :
    (∀ p ∈ (typeToNamespacesMap types included n).props, ∀ m ∈ p.2, P m) ↔
      (∀ m ∈ included, P m) ∨
        ∀ type ∈ types, typeKey type = "config" ∨ typeKey type = "__proto__" := by
  constructor
  · intro hall
    by_contra hno
    obtain ⟨hincl, htypes⟩ := not_or.mp hno
    push Not at htypes
    obtain ⟨type, hmem, hconfig, hproto⟩ := htypes
    refine hincl fun m hm => ?_
    have hown := own_typeToNamespacesMap types included n hconfig
    rw [if_pos ⟨List.mem_map.mpr ⟨type, hmem, rfl⟩, hproto⟩] at hown
    exact hall _ (Js.PlainObject.own_eq_some_iff.mp hown) m hm
  · rintro h ⟨k, v⟩ hp m hm
    have hown := Js.PlainObject.own_eq_some_iff.mpr hp
    by_cases hk : k = "config"
    · subst hk
      rw [own_typeToNamespacesMap_config hown] at hm
      rw [List.mem_singleton.mp hm]
      exact hn
    · rw [own_typeToNamespacesMap types included n hk] at hown
      split at hown
      · rename_i hkey
        obtain rfl := Option.some.inj hown
        rcases h with h | h
        · exact h m hm
        · obtain ⟨type, hmem, rfl⟩ := List.mem_map.mp hkey.1
          exact absurd (h type hmem) (not_or.mpr ⟨hk, hkey.2⟩)
      · cases hown

theorem readable_own : w.Readable w.ownNamespace := Or.inr rfl

theorem forall_passed_iff (options : FindOptions) :
    (∀ n ∈ (ClientCall.find (δ := δ) (scopeFindOptions options w.ownNamespace)).passed,
      w.Readable n) ↔ w.FindsReadable options := by
  simp only [ClientCall.passed, FindsReadable]
  cases hc : options.hasNamespaces with
  | true =>
    simp only [scopeFindOptions, hc, if_true, OneOrMany.toList, List.nil_append, Option.getD_some]
    rw [← forall_map_iff readable_own]
    simp only [List.mem_flatten, List.mem_map]
    constructor
    · intro h p hp m hm
      exact h m ⟨p.2, ⟨p, hp, rfl⟩, hm⟩
    · rintro h m ⟨l, ⟨p, hp, rfl⟩, hm⟩
      exact h p hp m hm
  | false =>
    simp only [scopeFindOptions, hc, Bool.false_eq_true, if_false, OneOrMany.toList,
      List.cons_append, List.nil_append, List.mem_cons, forall_eq_or_imp, readable_own, true_and,
      List.mem_flatten, List.mem_map]
    constructor
    · intro h p hp m hm
      exact h m ⟨p.2, ⟨p, hp, rfl⟩, hm⟩
    · rintro h m ⟨l, ⟨p, hp, rfl⟩, hm⟩
      exact h p hp m hm

/-- After any operations, `find` reaches the underlying client with readable namespaces only, exactly
when it throws before, or what the caller asks for is readable or without effect. -/
theorem find_readable_iff (w : Wrapper) (earlier : List (Operation δ))
    (options : Option FindOptions) :
    (∀ call, w.Sends earlier (.find options) call → ∀ n ∈ call.passed, w.Readable n) ↔
      (w.HasTenants → ∀ o, options = some o → w.FindsReadable o) := by
  simp only [sends_find_iff]
  constructor
  · intro h htenants o ho
    exact (forall_passed_iff o).mp (h _ ⟨htenants, o, ho, rfl⟩)
  · rintro h call ⟨htenants, o, ho, rfl⟩
    exact (forall_passed_iff o).mpr (h htenants o ho)

/-- alice looks for dashboards in the private tenant of bob. -/
def findAtBob : FindOptions where
  type := .one (some "dashboard")
  namespaces := .one (.name "__user__bob")

theorem find_foreign_namespace :
    ¬ ∀ call, alicePrivate.Sends (δ := Unit) [] (.find (some findAtBob)) call →
      ∀ n ∈ call.passed, alicePrivate.Readable n := by
  intro h
  rcases h _ rfl (.name "__user__bob") (by decide) with ⟨tenants, ht, s, hs, hn⟩ | hn
  · cases ht
    cases hn
    revert hs
    decide
  · revert hn
    decide

/-! ## Isolation -/

/-- Every operation works in the space that `spaceOf` names. -/
theorem namespace_of_space {tenant : String} (ht : w.selectedTenant = some tenant)
    (operation : Operation δ) :
    (if operation.isFind then w.ownNamespace else w.getNamespaceValue) =
      (w.spaceOf tenant operation).namespace_ := by
  by_cases hp : tenant = PRIVATE_TENANT_SYMBOL
  · subst hp
    cases hf : operation.isFind with
    | true =>
      have ha : w.AppendsUsername operation := Or.inl hf
      simp only [if_true, spaceOf, ha, and_self, ownNamespace_of_private ht, Space.namespace_]
    | false =>
      cases he : w.isPrivateEnabled with
      | true =>
        have ha : w.AppendsUsername operation := Or.inr he
        simp only [Bool.false_eq_true, if_false, spaceOf, ha, and_self, if_true,
          getNamespaceValue_of_enabled ht he, Space.namespace_]
      | false =>
        have ha : ¬ w.AppendsUsername operation := by simp [AppendsUsername, hf, he]
        simp only [Bool.false_eq_true, if_false, spaceOf, ha, and_false,
          getNamespaceValue_of_disabled he, ht, Namespace.ofTenant, Space.namespace_]
  · have hnp : ¬ w.IsPrivate := by
      intro h
      rw [IsPrivate, ht] at h
      exact hp (Option.some.inj h)
    have heq : w.getNamespaceValue = w.ownNamespace :=
      getNamespaceValue_eq_own fun h => absurd h hnp
    rw [heq, ite_self, ownNamespace_of_not_private ht hp]
    simp [spaceOf, hp, Space.namespace_]

/-- An operation that leaves the namespaces to the client passes the one of its space, or none. -/
theorem passed_of_sends {tenant : String} (ht : w.selectedTenant = some tenant)
    {earlier : List (Operation δ)} {operation : Operation δ} {call : ClientCall δ}
    (hl : operation.leavesNamespaces = true) (hs : w.Sends earlier operation call) {n : Namespace} :
    n ∈ call.passed ↔
      w.Reaches operation ∧ n = (w.spaceOf tenant operation).namespace_ := by
  rw [← namespace_of_space ht]
  cases hf : operation.isFind with
  | false =>
    obtain ⟨hpassed, hnamespaces⟩ := sends_scoped hf hs
    rw [hpassed, hnamespaces, Reaches, hf]
    cases operation.lacksOptions <;> simp
  | true =>
    cases operation with
    | find options =>
      obtain ⟨htenants, o, rfl, rfl⟩ := sends_find_iff.mp hs
      obtain ⟨hown, hmap⟩ : o.hasNamespaces = false ∧ o.typeToNamespacesMap = none := by
        simpa [Operation.leavesNamespaces] using hl
      have hreach : w.Reaches (Operation.find (δ := δ) (some o)) :=
        ⟨htenants, o, rfl, hown⟩
      simp [ClientCall.passed, scopeFindOptions, hown, hmap, OneOrMany.toList, hreach]
    | _ => cases hf

theorem exists_sends (earlier : List (Operation δ)) {operation : Operation δ}
    (h : w.Reaches operation) : ∃ call, w.Sends earlier operation call := by
  cases hf : operation.isFind with
  | false =>
    obtain ⟨call, hcall, -⟩ := call_scoped (w := w) hf (w.namespaceAfter earlier)
    exact ⟨call, by rw [Sends, hcall]⟩
  | true =>
    rw [Reaches, hf] at h
    obtain ⟨htenants, options, rfl, -⟩ := h
    exact ⟨_, sends_find_iff.mpr ⟨htenants, options, rfl, rfl⟩⟩

/-- Two operations are isolated when they work in spaces with different namespaces. -/
theorem isolatedFrom_iff {w' : Wrapper} {tenant tenant' : String}
    (ht : w.selectedTenant = some tenant) (ht' : w'.selectedTenant = some tenant')
    {earlier earlier' : List (Operation δ)} {operation operation' : Operation δ}
    (hl : operation.leavesNamespaces = true) (hl' : operation'.leavesNamespaces = true) :
    w.IsolatedFrom earlier operation w' earlier' operation' ↔
      (w.Reaches operation → w'.Reaches operation' →
        (w.spaceOf tenant operation).namespace_ ≠ (w'.spaceOf tenant' operation').namespace_) := by
  constructor
  · intro h hr hr' heq
    obtain ⟨call, hs⟩ := exists_sends earlier hr
    obtain ⟨call', hs'⟩ := exists_sends earlier' hr'
    exact h call call' hs hs' _ ((passed_of_sends ht hl hs).mpr ⟨hr, rfl⟩)
      ((passed_of_sends ht' hl' hs').mpr ⟨hr', heq⟩)
  · intro h call call' hs hs' n hn hn'
    obtain ⟨hr, rfl⟩ := (passed_of_sends ht hl hs).mp hn
    obtain ⟨hr', heq⟩ := (passed_of_sends ht' hl' hs').mp hn'
    exact h hr hr' heq

theorem spaces_differ_iff {w' : Wrapper} {u u' tenant : String} (hu : w.username = some u)
    (hu' : w'.username = some u') (hne : tenant = PRIVATE_TENANT_SYMBOL → u ≠ u')
    (operation operation' : Operation δ) :
    (w.spaceOf PRIVATE_TENANT_SYMBOL operation).namespace_ ≠
        (w'.spaceOf tenant operation').namespace_ ↔
      KeptApart (w.AppendsUsername operation) u (w'.AppendsUsername operation') tenant u' := by
  have hself : ∀ s : String, PRIVATE_TENANT_SYMBOL = PRIVATE_TENANT_SYMBOL ++ s ↔ s = "" := by
    intro s
    constructor
    · intro h
      have h' : PRIVATE_TENANT_SYMBOL ++ "" = PRIVATE_TENANT_SYMBOL ++ s := by simpa using h
      exact ((String.append_right_inj _).mp h').symm
    · rintro rfl; simp
  rw [Ne, Space.namespace_eq_iff, KeptApart]
  by_cases hp : tenant = PRIVATE_TENANT_SYMBOL
  · have huu := hne hp
    subst hp
    by_cases ha : w.AppendsUsername operation <;> by_cases ha' : w'.AppendsUsername operation' <;>
      simp [spaceOf, ha, ha', usernameText, hu, hu', hself, huu] 
    by_contra! h
    exact huu (h.1.trans h.2.symm)
  · by_cases ha : w.AppendsUsername operation <;>
      simp [spaceOf, ha, hp, usernameText, hu, eq_comm]

/-- An operation in the private tenant of `u` is isolated from an operation in another user's private
tenant and from one in a shared tenant, exactly when `KeptApart` says so. -/
theorem private_isolated_iff (w w' : Wrapper) (u u' tenant : String)
    (earlier earlier' : List (Operation δ)) (operation operation' : Operation δ)
    (ht : w.selectedTenant = some PRIVATE_TENANT_SYMBOL) (ht' : w'.selectedTenant = some tenant)
    (hu : w.username = some u) (hu' : w'.username = some u')
    (hne : tenant = PRIVATE_TENANT_SYMBOL → u ≠ u')
    (hl : operation.leavesNamespaces = true) (hl' : operation'.leavesNamespaces = true) :
    w.IsolatedFrom earlier operation w' earlier' operation' ↔
      (w.Reaches operation → w'.Reaches operation' →
        KeptApart (w.AppendsUsername operation) u (w'.AppendsUsername operation') tenant u') := by
  rw [isolatedFrom_iff ht ht' hl hl', spaces_differ_iff hu hu' hne]

/-- bob works in his private tenant. -/
def bobPrivate : Wrapper where
  state := { authInfo := some { user_name := some "bob" }, selectedTenant := some "__user__" }
  config := {}

theorem alice_bob_isolated :
    alicePrivate.IsolatedFrom (δ := Unit) [] (.get "dashboard" "1" none) bobPrivate []
      (.get "dashboard" "1" none) :=
  (private_isolated_iff alicePrivate bobPrivate "alice" "bob" "__user__" [] [] _ _ rfl rfl rfl rfl
    (by decide) rfl rfl).mpr fun _ _ => Or.inl ⟨Or.inr rfl, by decide⟩

/-- The configuration file disables private tenants. -/
def privateDisabled : SecurityPluginConfig where
  multitenancy := { enabled := true, tenants := { enable_private := false } }

theorem alice_bob_share_namespace :
    (Wrapper.mk alicePrivate.state privateDisabled).username = some "alice" ∧
      (Wrapper.mk bobPrivate.state privateDisabled).username = some "bob" ∧
      ¬ (Wrapper.mk alicePrivate.state privateDisabled).IsolatedFrom (δ := Unit) []
        (.get "dashboard" "1" none) ⟨bobPrivate.state, privateDisabled⟩ []
        (.get "dashboard" "1" none) := by
  refine ⟨rfl, rfl, fun h => ?_⟩
  exact h _ _ rfl rfl (.name "__user__") (by decide) (by decide)

end Wrapper

end SecurityDashboards
