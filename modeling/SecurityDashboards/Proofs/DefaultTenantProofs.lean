import SecurityDashboards.DefaultTenant
import SecurityDashboards.Proofs.TenantPreferencesProofs
import SecurityDashboards.Proofs.TenantSessionsProofs

/-!
# Proofs: users load into the default tenant

The list marks the row that `markedName` names, and the server resolves the tenant of that row.
-/

namespace SecurityDashboards

namespace TenantList

variable {raw : Js.PlainObject TenantData} {info : DashboardsInfo} {row other : Tenant}

/-! ## The rows -/

theorem mem_transformTenantData :
    row ∈ transformTenantData raw ↔ row = privateTenant ∨ ∃ entry ∈ raw.props, tenantOf entry = row := by
  unfold transformTenantData Js.splice
  dsimp only
  rw [Nat.add_zero, List.append_assoc, List.singleton_append, List.mem_append, List.mem_cons,
    or_left_comm, ← List.mem_append, List.take_append_drop, List.mem_map]

/-- A row of a custom tenant has its name. -/
theorem tenantOf_custom {entry : String × TenantData} (h : entry.1 ≠ globalTenantName) :
    (tenantOf entry).tenant = entry.1 ∧ (tenantOf entry).tenantValue = entry.1 :=
  ⟨if_neg h, if_neg h⟩

theorem tenantOf_global {entry : String × TenantData} (h : entry.1 = globalTenantName) :
    (tenantOf entry).tenant = "Global" ∧ (tenantOf entry).tenantValue = GLOBAL_TENANT_SYMBOL :=
  ⟨if_pos h, if_pos h⟩

/-- A row is that of the private, of the global or of a custom tenant. -/
inductive RowKind (raw : Js.PlainObject TenantData) (row : Tenant) : Prop where
  | ofPrivate (h : row = privateTenant)
  | ofGlobal (entry : String × TenantData) (hmem : entry ∈ raw.props)
    (hname : entry.1 = globalTenantName) (h : tenantOf entry = row)
  | ofCustom (entry : String × TenantData) (hmem : entry ∈ raw.props) (h : tenantOf entry = row)
    (htenant : row.tenant = entry.1) (hvalue : row.tenantValue = entry.1)
    (hcustom : entry.1 ∉ aliases)

theorem rowKind (hlisted : Listed raw) (hrow : row ∈ transformTenantData raw) : RowKind raw row := by
  rcases mem_transformTenantData.mp hrow with h | ⟨entry, hmem, h⟩
  · exact .ofPrivate h
  · by_cases hname : entry.1 = globalTenantName
    · exact .ofGlobal entry hmem hname h
    · obtain ⟨htenant, hvalue⟩ := tenantOf_custom hname
      exact .ofCustom entry hmem h (h ▸ htenant) (h ▸ hvalue)
        fun halias => hlisted.custom entry.1 halias (List.mem_map_of_mem hmem)

/-- The label of a row that is not of a custom tenant is an alias. -/
theorem label_cases (hlisted : Listed raw) (hrow : row ∈ transformTenantData raw) :
    (row.tenant = "Private" ∧ row = privateTenant) ∨
      (row.tenant = "Global" ∧ row.tenantValue = GLOBAL_TENANT_SYMBOL) ∨
      (row.tenant ∉ aliases ∧ row.tenantValue = row.tenant) := by
  cases rowKind hlisted hrow with
  | ofPrivate h => exact Or.inl ⟨h ▸ rfl, h⟩
  | ofGlobal entry hmem hname h => exact Or.inr (Or.inl (h ▸ tenantOf_global hname))
  | ofCustom entry hmem h htenant hvalue hcustom =>
    exact Or.inr (Or.inr ⟨htenant ▸ hcustom, hvalue.trans htenant.symm⟩)

/-- Entries of the same name are the same. -/
theorem entry_ext {entry entry' : String × TenantData} (h : entry ∈ raw.props)
    (h' : entry' ∈ raw.props) (hname : entry'.1 = entry.1) : entry' = entry :=
  List.inj_on_of_nodup_map raw.nodup h' h hname

/-- No two rows have the same label. -/
theorem row_ext (hlisted : Listed raw) (hrow : row ∈ transformTenantData raw)
    (hother : other ∈ transformTenantData raw) (h : other.tenant = row.tenant) : other = row := by
  cases rowKind hlisted hrow with
  | ofPrivate hp =>
    rcases label_cases hlisted hother with ⟨-, ho⟩ | ⟨ho, -⟩ | ⟨ho, -⟩
    · exact ho.trans hp.symm
    · rw [ho, hp] at h
      exact absurd h (by decide)
    · rw [h, hp] at ho
      exact absurd (show privateTenant.tenant ∈ aliases by decide) ho
  | ofGlobal entry hmem hname hg =>
    have hlabel : row.tenant = "Global" := hg ▸ (tenantOf_global hname).1
    rw [hlabel] at h
    cases rowKind hlisted hother with
    | ofPrivate ho =>
      rw [ho] at h
      exact absurd h (by decide)
    | ofGlobal entry' hmem' hname' ho =>
      rw [← hg, ← ho, entry_ext hmem hmem' (hname'.trans hname.symm)]
    | ofCustom entry' hmem' ho htenant hvalue hcustom =>
      rw [← htenant, h] at hcustom
      exact absurd (show "Global" ∈ aliases by decide) hcustom
  | ofCustom entry hmem hc htenant hvalue hcustom =>
    rw [htenant] at h
    cases rowKind hlisted hother with
    | ofPrivate ho =>
      rw [← h, ho] at hcustom
      exact absurd (show privateTenant.tenant ∈ aliases by decide) hcustom
    | ofGlobal entry' hmem' hname' ho =>
      rw [← h, ← ho, (tenantOf_global hname').1] at hcustom
      exact absurd (show "Global" ∈ aliases by decide) hcustom
    | ofCustom entry' hmem' ho htenant' hvalue' hcustom' =>
      rw [← hc, ← ho, entry_ext hmem hmem' (htenant'.symm.trans h)]

theorem exists_globalTenant (hlisted : Listed raw) :
    ∃ row ∈ transformTenantData raw, row.tenant = "Global" := by
  obtain ⟨entry, hmem, hname⟩ := List.mem_map.mp hlisted.globalTenant
  exact ⟨tenantOf entry, mem_transformTenantData.mpr (Or.inr ⟨entry, hmem, rfl⟩),
    (tenantOf_global hname).1⟩

theorem label_ne_empty (hlisted : Listed raw) (hrow : row ∈ transformTenantData raw) :
    row.tenant ≠ "" := by
  rcases label_cases hlisted hrow with ⟨h, -⟩ | ⟨h, -⟩ | ⟨h, -⟩
  · rw [h]; decide
  · rw [h]; decide
  · intro hempty
    rw [hempty] at h
    exact absurd (show "" ∈ aliases by decide) h

/-! ## The row that is marked -/

/-- The label of the row that is marked. -/
def markedName (info : DashboardsInfo) : Option String :=
  if truthyFlag info.multitenancy_enabled = false then some "Global"
  else if info.default_tenant = some "" ∨
      (info.default_tenant = some "Private" ∧ truthyFlag info.private_tenant_enabled = false) then
    some "Global"
  else info.default_tenant

theorem loadTenantStatus_iff {name : String} (hname : name ≠ "") :
    loadTenantStatus info name = .defaultTenant ↔ markedName info = some name := by
  have hempty : info.default_tenant = some "" → info.default_tenant ≠ some name :=
    fun h h' => hname (Option.some.inj (h'.symm.trans h))
  unfold loadTenantStatus markedName
  by_cases hglobal : name = "Global"
  · subst hglobal
    cases truthyFlag info.multitenancy_enabled with
    | false => simp
    | true => grind
  · by_cases hprivate : name = "Private"
    · subst hprivate
      cases truthyFlag info.multitenancy_enabled with
      | false => simp
      | true => cases truthyFlag info.private_tenant_enabled <;> grind
    · cases truthyFlag info.multitenancy_enabled with
      | false => grind
      | true => grind

/-- A default tenant that is chosen is marked. -/
theorem exists_marked (hlisted : Listed raw) (hchosen : Chosen raw info) :
    ∃ row ∈ transformTenantData raw, markedName info = some row.tenant := by
  obtain ⟨globalRow, hmem, hglobal⟩ := exists_globalTenant hlisted
  unfold markedName
  by_cases hdisabled : truthyFlag info.multitenancy_enabled = false
  · exact ⟨globalRow, hmem, by rw [if_pos hdisabled, hglobal]⟩
  rw [if_neg hdisabled]
  split
  · exact ⟨globalRow, hmem, by rw [hglobal]⟩
  next hdefault =>
    rcases hchosen with h | h | ⟨row, hrow, h⟩
    · exact absurd h hdisabled
    · exact absurd (Or.inl h) hdefault
    · exact ⟨row, hrow, h⟩

theorem isMarked_of_markedName (hlisted : Listed raw) (hrow : row ∈ transformTenantData raw)
    (hname : markedName info = some row.tenant) : IsMarked raw info row := by
  refine ⟨hrow, fun other hother => ?_⟩
  rw [loadTenantStatus_iff (label_ne_empty hlisted hother), hname, Option.some.injEq]
  constructor
  · exact fun h => row_ext hlisted hrow hother h.symm
  · exact fun h => by rw [h]

theorem markedName_of_isMarked (hlisted : Listed raw) (h : IsMarked raw info row) :
    markedName info = some row.tenant :=
  (loadTenantStatus_iff (label_ne_empty hlisted h.1)).mp ((h.2 row h.1).mpr rfl)

/-! ## The tenant that is resolved -/

section Resolved

variable {server : Server} {told : AuthInfo} {tenants : Tenants} {requested : Option String}

/-- The resolution for the user. -/
def resolution (server : Server) (told : AuthInfo) (tenants : Tenants) (info : DashboardsInfo)
    (requested : Option String) : Resolution where
  username := told.user_name.getD "undefined"
  requestedTenant := requested
  preferredTenants := some server.config.multitenancy.tenants.preferred
  availableTenants := tenants
  globalTenantEnabled := server.config.multitenancy.tenants.enable_global
  multitenancyEnabled := info.multitenancy_enabled
  privateTenantEnabled := info.private_tenant_enabled

theorem resolveFor_eq (hmember : Member told tenants) :
    server.resolveFor told info requested =
      (resolution server told tenants info requested).result server.runtime.toLowerCase := by
  unfold Server.resolveFor
  rw [hmember.told]
  rfl

/-- What no request decides, is decided for the global tenant. -/
theorem result_eq (hserver : PrefersGlobal server)
    (hmulti : truthyFlag info.multitenancy_enabled = true) :
    (resolution server told tenants info requested).result server.runtime.toLowerCase =
      .ok (some ((resolution server told tenants info requested).readRequest.getD
        GLOBAL_TENANT_SYMBOL)) := by
  have hactive : (resolution server told tenants info requested).Active :=
    ⟨hmulti, Or.inl hserver.enable_global⟩
  have hfallback : (resolution server told tenants info requested).fallback =
      .ok (some GLOBAL_TENANT_SYMBOL) := if_pos hserver.enable_global
  rw [Resolution.result_of_readings hactive]
  cases (resolution server told tenants info requested).readRequest with
  | some tenant => rfl
  | none =>
    have hpreferred : ∀ element ∈ server.config.multitenancy.tenants.preferred,
        (resolution server told tenants info requested).readTenant server.runtime.toLowerCase
          element = some GLOBAL_TENANT_SYMBOL := by
      intro element helement
      have halias : (resolution server told tenants info requested).aliasOf
          (server.runtime.toLowerCase element) = some GLOBAL_TENANT_SYMBOL := by
        have hcontains := List.contains_iff_mem.mpr (hserver.preferred element helement)
        have henabled : (resolution server told tenants info requested).globalTenantEnabled = true :=
          hserver.enable_global
        unfold Resolution.aliasOf
        rw [henabled, hcontains]
        rfl
      unfold Resolution.readTenant
      rw [halias]
    cases hfound : ((resolution server told tenants info requested).preferredTenants.getD
        []).findSome? ((resolution server told tenants info requested).readTenant
          server.runtime.toLowerCase) with
    | none => exact hfallback
    | some tenant =>
      obtain ⟨element, helement, hread⟩ := List.exists_of_findSome?_eq_some hfound
      rw [hpreferred element helement] at hread
      rw [← hread]
      rfl

theorem aliasOf_of_custom {i : Resolution} {name : String} (h : name ∉ aliases) :
    i.aliasOf name = none := by
  have hglobal : GLOBAL_TENANTS.contains name = false :=
    Bool.eq_false_iff.mpr fun hmem =>
      h (List.mem_append_left _ (List.contains_iff_mem.mp hmem))
  have hprivate : PRIVATE_TENANTS.contains name = false :=
    Bool.eq_false_iff.mpr fun hmem =>
      h (List.mem_append_right _ (List.contains_iff_mem.mp hmem))
  unfold Resolution.aliasOf
  rw [hglobal, hprivate, Bool.and_false, Bool.and_false, Bool.false_and]
  rfl

theorem aliasOf_private_disabled (hdisabled : truthyFlag info.private_tenant_enabled = false) :
    (resolution server told tenants info requested).aliasOf "Private" = none := by
  have hprivate : (resolution server told tenants info requested).privateEnabled = false :=
    hdisabled
  unfold Resolution.aliasOf
  rw [hprivate, show GLOBAL_TENANTS.contains "Private" = false by decide, Bool.and_false]
  rfl

theorem readRequest_of_has {name : String} (h : tenants.has name = true) :
    (resolution server told tenants info (some name)).readRequest = some name :=
  if_pos h

/-- A name that the user has no tenant of is read as an alias. -/
theorem readRequest_of_not_has {name : String} (h : tenants.has name = false) :
    (resolution server told tenants info (some name)).readRequest =
      (resolution server told tenants info (some name)).aliasOf name :=
  if_neg (Bool.eq_false_iff.mp h)

theorem mayUse_private (hmember : Member told tenants) : MayUse told tenants privateTenant ↔
    tenants.has (told.user_name.getD "undefined") = true := by
  have hhas : tenants.has privateTenant.tenantValue = false :=
    hmember.custom PRIVATE_TENANT_SYMBOL (by decide)
  constructor
  · rintro (h | ⟨-, h⟩ | h)
    · exact absurd h (by decide)
    · exact h
    · exact absurd (hhas.symm.trans h) Bool.false_ne_true
  · exact fun h => Or.inr (Or.inl ⟨rfl, h⟩)

theorem mayUse_custom (hcustom : row.tenant ∉ aliases) (hvalue : row.tenantValue = row.tenant) :
    MayUse told tenants row ↔ tenants.has row.tenant = true := by
  unfold MayUse
  rw [hvalue]
  constructor
  · rintro (h | ⟨h, -⟩ | h)
    · exact absurd (h ▸ (show GLOBAL_TENANT_SYMBOL ∈ aliases by decide)) hcustom
    · exact absurd (h ▸ (show PRIVATE_TENANT_SYMBOL ∈ aliases by decide)) hcustom
    · exact h
  · exact fun h => Or.inr (Or.inr h)

theorem announced_global (hvalue : row.tenantValue = GLOBAL_TENANT_SYMBOL) :
    announced told tenants row = GLOBAL_TENANT_SYMBOL :=
  (if_pos (Or.inl hvalue)).trans hvalue

/-- Who asks for the tenant of a row by its label gets the announced one. -/
theorem readRequest_label (hlisted : Listed raw) (hserver : PrefersGlobal server)
    (hmember : Member told tenants) (hrow : row ∈ transformTenantData raw)
    (hprivate : row = privateTenant → truthyFlag info.private_tenant_enabled = true) :
    (resolution server told tenants info (some row.tenant)).readRequest.getD GLOBAL_TENANT_SYMBOL =
      announced told tenants row := by
  have henabled : (resolution server told tenants info (some row.tenant)).globalTenantEnabled =
      true := hserver.enable_global
  rcases label_cases hlisted hrow with ⟨-, rfl⟩ | ⟨hlabel, hvalue⟩ | ⟨hcustom, hvalue⟩
  · have hhas : tenants.has privateTenant.tenant = false := hmember.custom "Private" (by decide)
    have hp : (resolution server told tenants info (some privateTenant.tenant)).privateEnabled =
        true := hprivate rfl
    have huser : (resolution server told tenants info (some privateTenant.tenant)).availableTenants.has
        (resolution server told tenants info (some privateTenant.tenant)).username =
          tenants.has (told.user_name.getD "undefined") := rfl
    rw [readRequest_of_not_has hhas]
    unfold Resolution.aliasOf announced
    rw [hp, huser, henabled]
    by_cases hown : tenants.has (told.user_name.getD "undefined") = true
    · rw [if_pos ((mayUse_private hmember).mpr hown), hown]
      rfl
    · rw [if_neg fun h => hown ((mayUse_private hmember).mp h), Bool.not_eq_true _ |>.mp hown]
      rfl
  · have hhas : tenants.has "Global" = false := hmember.custom "Global" (by decide)
    rw [hlabel] at henabled ⊢
    rw [readRequest_of_not_has hhas, announced_global hvalue]
    unfold Resolution.aliasOf
    rw [henabled, if_pos (by decide)]
    rfl
  · unfold announced
    by_cases hhas : tenants.has row.tenant = true
    · rw [readRequest_of_has hhas, if_pos ((mayUse_custom hcustom hvalue).mpr hhas), hvalue]
      rfl
    · rw [readRequest_of_not_has (Bool.eq_false_iff.mpr hhas), aliasOf_of_custom hcustom,
        if_neg fun h => hhas ((mayUse_custom hcustom hvalue).mp h)]
      rfl

/-- The tenant that a request without a tenant asks for. -/
theorem selectedTenantOf_default {request : Request} (hnames : request.NamesNoTenant)
    {cookie : SecuritySessionCookie} (htenant : cookie.tenant = none)
    (multitenancyEnabled : Option Bool) (defaultTenant : Option String) :
    selectedTenantOf request cookie multitenancyEnabled defaultTenant =
      if truthyString defaultTenant && truthyFlag multitenancyEnabled then defaultTenant
      else none := by
  have hparams := hnames.params
  have hheaders := hnames.headers
  simp only [List.forall_mem_cons, List.not_mem_nil, false_implies, implies_true, and_true]
    at hparams hheaders
  simp only [selectedTenantOf, hparams.1, hparams.2.1, hparams.2.2, hheaders.1, hheaders.2,
    Bool.false_eq_true, if_false, htenant, Option.isSome_none]

/-- Without a tenant of its own, a request gets the tenant that is announced for the marked row. -/
theorem resolveFor_default (hlisted : Listed raw) (hserver : PrefersGlobal server)
    (hmember : Member told tenants) (hrow : row ∈ transformTenantData raw)
    (hname : markedName info = some row.tenant) :
    server.resolveFor told info
        (if truthyString info.default_tenant && truthyFlag info.multitenancy_enabled then
          info.default_tenant else none) =
      .ok (some (announced told tenants row)) := by
  have hglobal : row.tenant = "Global" → announced told tenants row = GLOBAL_TENANT_SYMBOL := by
    intro hlabel
    rcases label_cases hlisted hrow with ⟨h, -⟩ | ⟨-, hvalue⟩ | ⟨hcustom, -⟩
    · exact absurd (hlabel.symm.trans h) (by decide)
    · exact announced_global hvalue
    · exact absurd (hlabel ▸ (show "Global" ∈ aliases by decide)) hcustom
  rw [resolveFor_eq hmember]
  unfold markedName at hname
  cases hmulti : truthyFlag info.multitenancy_enabled with
  | false =>
    rw [hmulti, if_pos rfl, Option.some.injEq] at hname
    rw [Resolution.result_of_disabled hmulti, hglobal hname.symm]
    exact congrArg (Except.ok) (if_pos hserver.enable_global)
  | true =>
    rw [hmulti, if_neg (by decide)] at hname
    rw [result_eq hserver hmulti, Bool.and_true]
    split at hname
    next hdefault =>
      rw [hglobal (Option.some.inj hname).symm]
      rcases hdefault with hempty | ⟨hp, hdisabled⟩
      · rw [hempty]
        rfl
      · have hhas : tenants.has "Private" = false := hmember.custom "Private" (by decide)
        rw [hp, if_pos (by decide), readRequest_of_not_has hhas, aliasOf_private_disabled hdisabled]
        rfl
    next hdefault =>
      have htruthy : truthyString info.default_tenant = true := by
        rw [hname]
        exact bne_iff_ne.mpr (label_ne_empty hlisted hrow)
      rw [if_pos htruthy, hname, readRequest_label hlisted hserver hmember hrow]
      intro hp
      rw [hname, hp] at hdefault
      exact Bool.of_not_eq_false fun hdisabled => hdefault (Or.inr ⟨rfl, hdisabled⟩)

/-- Users load into the tenant that is announced for the marked row. -/
theorem loadsInto_announced (hlisted : Listed raw) (hserver : PrefersGlobal server)
    (hmember : Member told tenants) (hmarked : IsMarked raw info row) :
    LoadsInto server told info (announced told tenants row) := by
  have hresolves := resolveFor_default hlisted hserver hmember hmarked.1
    (markedName_of_isMarked hlisted hmarked)
  constructor
  · intro request cookie hnames htenant
    rw [selectedTenantOf_default hnames htenant, hresolves]
  · intro henabled scheme events s hs hmeets
    exact Machine.trace_of_meets
      (P := fun _ output => SelectsOnly (announced told tenants row) output)
      (fun s => s.browser.InTenant (announced told tenants row))
      (fun event s hevent hs =>
        sessionStep_sticks henabled (resolveFor_again hresolves) event s hevent hs)
      hmeets hs

end Resolved

namespace Sample

open SecurityDashboards.Sample (member tenancy tenantServer)

/-- The tenants of the cluster. -/
def listing : Js.PlainObject TenantData where
  props := [(globalTenantName, ⟨true, ""⟩), ("analysts", ⟨false, "Reports"⟩), ("ops", ⟨false, ""⟩)]
  nodup := by decide

def ops : Tenant where
  tenant := "ops"
  reserved := false
  description := ""
  tenantValue := "ops"

/-- Those of alice: her own one and `analysts`. -/
def memberTenants : Tenants := member.tenants.getD .empty

theorem listed : Listed listing := ⟨by decide, by decide⟩

theorem prefersGlobal : PrefersGlobal tenantServer := ⟨rfl, by decide⟩

end Sample

end TenantList

end SecurityDashboards
