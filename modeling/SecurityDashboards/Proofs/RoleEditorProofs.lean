import Mathlib.Data.List.Forall2
import SecurityDashboards.RoleEditor

/-!
# Opening and saving a role

Which roles the page saves as it loaded them, and what it makes of the others.
-/

namespace SecurityDashboards

namespace RoleEdit

/-- A list of entries survives two maps exactly if each entry does. -/
theorem map_map_eq_self_iff {α β : Type*} {f : α → β} {g : β → α} {l : List α} :
    (l.map f).map g = l ↔ ∀ a ∈ l, g (f a) = a := by
  have hid : (l.map f).map g = l ↔ l.map (g ∘ f) = l.map id := by rw [List.map_map, List.map_id]
  rw [hid, List.map_inj_left]
  rfl

/-! ## Options -/

@[simp] theorem comboBoxOptionToString_stringToComboBoxOption (s : String) :
    comboBoxOptionToString (stringToComboBoxOption s) = s := rfl

@[simp] theorem stringToComboBoxOption_comboBoxOptionToString (option : EuiComboBoxOptionOption) :
    stringToComboBoxOption (comboBoxOptionToString option) = option := rfl

@[simp] theorem map_comboBoxOptionToString_map (l : List String) :
    (l.map stringToComboBoxOption).map comboBoxOptionToString = l :=
  map_map_eq_self_iff.mpr fun _ _ => rfl

@[simp] theorem map_stringToComboBoxOption_map (l : ComboBoxOptions) :
    (l.map comboBoxOptionToString).map stringToComboBoxOption = l :=
  map_map_eq_self_iff.mpr fun _ _ => rfl

/-! ## Excluded fields -/

theorem isExcluded_iff {s : String} : IsExcluded s = true ↔ ∃ t, s = "~" ++ t := Js.startsWith_iff

theorem isExcluded_tilde (t : String) : IsExcluded ("~" ++ t) = true := Js.startsWith_append "~" t

@[simp] theorem withoutTilde_tilde (t : String) : withoutTilde ("~" ++ t) = t := by
  have htoList : ("~" ++ t).toList = '~' :: t.toList := String.toList_append
  rw [withoutTilde, htoList]
  exact String.ofList_toList

/-- A field that is not excluded stays as it is. -/
theorem withoutTilde_of_not_isExcluded {s : String} (h : ¬IsExcluded s = true) :
    withoutTilde s = s := by
  unfold withoutTilde
  split
  · next l hl =>
    refine absurd (isExcluded_iff.mpr ⟨String.ofList l, ?_⟩) h
    rw [← String.toList_inj, hl, String.toList_append, String.toList_ofList, String.toList_ofList,
      List.singleton_append]
  · rfl

/-- The tilde is put back exactly if it was there. -/
theorem tilde_withoutTilde_iff {s : String} : "~" ++ withoutTilde s = s ↔ IsExcluded s = true := by
  constructor
  · intro h
    exact isExcluded_iff.mpr ⟨withoutTilde s, h.symm⟩
  · intro h
    obtain ⟨t, rfl⟩ := isExcluded_iff.mp h
    rw [withoutTilde_tilde]

theorem getFieldLevelSecurityMethod_eq_exclude_iff {fls : List String} :
    getFieldLevelSecurityMethod fls = .exclude ↔ ∃ s ∈ fls, IsExcluded s = true := by
  unfold getFieldLevelSecurityMethod
  split
  · next h => exact ⟨fun _ => List.any_eq_true.mp h, fun _ => rfl⟩
  · next h => exact ⟨(fun hc => by cases hc), fun hs => absurd (List.any_eq_true.mpr hs) h⟩

theorem getFieldLevelSecurityMethod_eq_include_iff {fls : List String} :
    getFieldLevelSecurityMethod fls = .include ↔ ∀ s ∈ fls, ¬IsExcluded s = true := by
  constructor
  · intro h s hs hexcluded
    have hmethod := getFieldLevelSecurityMethod_eq_exclude_iff.mpr ⟨s, hs, hexcluded⟩
    rw [h] at hmethod
    cases hmethod
  · intro h
    cases hmethod : getFieldLevelSecurityMethod fls with
    | «include» => rfl
    | exclude =>
      obtain ⟨s, hs, hexcluded⟩ := getFieldLevelSecurityMethod_eq_exclude_iff.mp hmethod
      exact absurd hexcluded (h s hs)

/-! ## The fields of one entry -/

/-- The fields of an entry are all included or all excluded. -/
def IsUniform (fls : List String) : Prop :=
  (∀ s ∈ fls, IsExcluded s = true) ∨ ∀ s ∈ fls, ¬IsExcluded s = true

/-- A field with a tilde before it. -/
def exclusion (s : String) : String := if IsExcluded s then s else "~" ++ s

/-- The fields as the page saves them: one excluded field excludes all of them. -/
def savedFields (fls : List String) : List String :=
  if fls.any IsExcluded then fls.map exclusion else fls

theorem tilde_withoutTilde (s : String) : "~" ++ withoutTilde s = exclusion s := by
  unfold exclusion
  by_cases hs : IsExcluded s = true
  · rw [if_pos hs]
    exact tilde_withoutTilde_iff.mpr hs
  · rw [if_neg hs, withoutTilde_of_not_isExcluded hs]

theorem exclusion_eq_self_iff {s : String} : exclusion s = s ↔ IsExcluded s = true := by
  rw [← tilde_withoutTilde, tilde_withoutTilde_iff]

theorem packFieldLevelSecurity_exclude (fieldOptions : ComboBoxOptions) :
    packFieldLevelSecurity .exclude fieldOptions =
      fieldOptions.map fun option => "~" ++ comboBoxOptionToString option :=
  List.map_map

theorem packFieldLevelSecurity_fields (fls : List String) :
    packFieldLevelSecurity (getFieldLevelSecurityMethod fls) (getFieldLevelSecurityFields fls) =
      savedFields fls := by
  unfold getFieldLevelSecurityFields savedFields
  cases hmethod : getFieldLevelSecurityMethod fls with
  | «include» =>
    have hincluded := getFieldLevelSecurityMethod_eq_include_iff.mp hmethod
    have hany : ¬fls.any IsExcluded = true := by
      intro hany
      obtain ⟨s, hs, hexcluded⟩ := List.any_eq_true.mp hany
      exact hincluded s hs hexcluded
    rw [if_neg hany, packFieldLevelSecurity, map_comboBoxOptionToString_map]
    rw [List.map_congr_left (g := id), List.map_id]
    intro s hs
    exact withoutTilde_of_not_isExcluded (hincluded s hs)
  | exclude =>
    have hany := List.any_eq_true.mpr (getFieldLevelSecurityMethod_eq_exclude_iff.mp hmethod)
    rw [if_pos hany, packFieldLevelSecurity_exclude, List.map_map, List.map_map]
    exact List.map_congr_left fun s _ => tilde_withoutTilde s

theorem savedFields_eq_self_iff {fls : List String} : savedFields fls = fls ↔ IsUniform fls := by
  unfold savedFields IsUniform
  split
  · next hany =>
    obtain ⟨excluded, hmem, hexcluded⟩ := List.any_eq_true.mp hany
    have hsaved : fls.map exclusion = fls ↔ fls.map exclusion = fls.map id := by rw [List.map_id]
    rw [hsaved, List.map_inj_left]
    constructor
    · intro h
      exact Or.inl fun s hs => exclusion_eq_self_iff.mp (h s hs)
    · rintro (hall | hnone) s hs
      · exact exclusion_eq_self_iff.mpr (hall s hs)
      · exact absurd hexcluded (hnone excluded hmem)
  · next hany =>
    refine ⟨fun _ => Or.inr fun s hs hexcluded => ?_, fun _ => rfl⟩
    exact hany (List.any_eq_true.mpr ⟨s, hs, hexcluded⟩)

/-- Saved fields are uniform, so that they are saved as they are from then on. -/
theorem isUniform_savedFields (fls : List String) : IsUniform (savedFields fls) := by
  unfold savedFields
  split
  · refine Or.inl fun s hs => ?_
    obtain ⟨t, -, rfl⟩ := List.mem_map.mp hs
    rw [← tilde_withoutTilde]
    exact isExcluded_tilde _
  · next hany => exact Or.inr fun s hs hexcluded => hany (List.any_eq_true.mpr ⟨s, hs, hexcluded⟩)

/-! ## Index permissions -/

/-- An entry as the page saves it. -/
def savedIndexPermission (perm : RoleIndexPermission) : RoleIndexPermission :=
  { perm with fls := savedFields perm.fls }

theorem unbuildIndexPermission_build (perm : RoleIndexPermission) :
    unbuildIndexPermission (buildIndexPermission perm) = savedIndexPermission perm := by
  rw [savedIndexPermission, ← packFieldLevelSecurity_fields]
  simp only [unbuildIndexPermission, buildIndexPermission, map_comboBoxOptionToString_map]

theorem unbuildIndexPermissionState_build (p : List RoleIndexPermission) :
    unbuildIndexPermissionState (buildIndexPermissionState p) = p.map savedIndexPermission := by
  rw [unbuildIndexPermissionState, buildIndexPermissionState, List.map_map]
  exact List.map_congr_left fun perm _ => unbuildIndexPermission_build perm

theorem savedIndexPermission_saved (perm : RoleIndexPermission) :
    savedIndexPermission (savedIndexPermission perm) = savedIndexPermission perm := by
  simp only [savedIndexPermission, savedFields_eq_self_iff.mpr (isUniform_savedFields perm.fls)]

theorem unbuildIndexPermission_build_eq_self_iff {perm : RoleIndexPermission} :
    unbuildIndexPermission (buildIndexPermission perm) = perm ↔ IsUniform perm.fls := by
  rw [unbuildIndexPermission_build, savedIndexPermission, ← savedFields_eq_self_iff]
  constructor
  · intro h
    exact congrArg RoleIndexPermission.fls h
  · intro h
    rw [h]

/-- An entry whose included fields are not spelled as excluded ones. -/
def IsSpelledOut (perm : RoleIndexPermissionStateClass) : Prop :=
  perm.fieldLevelSecurityMethod = .include →
    ∀ field ∈ perm.fieldLevelSecurityFields, ¬IsExcluded field.label = true

/-- The fields of a state with fields are shown again exactly if they are spelled out. -/
theorem fields_packFieldLevelSecurity_iff {perm : RoleIndexPermissionStateClass}
    (hfields : perm.fieldLevelSecurityFields ≠ []) {fls : List String}
    (hpack : fls =
      packFieldLevelSecurity perm.fieldLevelSecurityMethod perm.fieldLevelSecurityFields) :
    (getFieldLevelSecurityMethod fls = perm.fieldLevelSecurityMethod ∧
      getFieldLevelSecurityFields fls = perm.fieldLevelSecurityFields) ↔ IsSpelledOut perm := by
  unfold IsSpelledOut
  cases hmethod : perm.fieldLevelSecurityMethod with
  | «include» =>
    have hfls : fls = perm.fieldLevelSecurityFields.map comboBoxOptionToString := by
      rw [hpack, hmethod, packFieldLevelSecurity]
    have hincluded : (∀ s ∈ fls, ¬IsExcluded s = true) ↔
        ∀ field ∈ perm.fieldLevelSecurityFields, ¬IsExcluded field.label = true := by
      rw [hfls]
      exact List.forall_mem_map
    rw [getFieldLevelSecurityMethod_eq_include_iff, hincluded]
    refine ⟨fun h _ => h.1, fun h => ⟨h rfl, ?_⟩⟩
    rw [getFieldLevelSecurityFields, List.map_congr_left (g := id), List.map_id, hfls,
      map_stringToComboBoxOption_map]
    exact fun s hs => withoutTilde_of_not_isExcluded (hincluded.mpr (h rfl) s hs)
  | exclude =>
    have hfls : fls = perm.fieldLevelSecurityFields.map fun option =>
        "~" ++ comboBoxOptionToString option := by
      rw [hpack, hmethod, packFieldLevelSecurity_exclude]
    refine ⟨fun _ h => (by cases h), fun _ => ⟨?_, ?_⟩⟩
    · rw [getFieldLevelSecurityMethod_eq_exclude_iff, hfls]
      obtain ⟨field, hfield⟩ := List.exists_mem_of_ne_nil _ hfields
      exact ⟨_, List.mem_map_of_mem hfield, isExcluded_tilde _⟩
    · rw [getFieldLevelSecurityFields, hfls, List.map_map, List.map_map,
        List.map_congr_left (g := id), List.map_id]
      intro field _
      simp only [Function.comp_apply, withoutTilde_tilde,
        stringToComboBoxOption_comboBoxOptionToString, id_eq]

theorem buildIndexPermission_unbuild_eq_self_iff {perm : RoleIndexPermissionStateClass}
    (hfields : perm.fieldLevelSecurityFields ≠ []) :
    buildIndexPermission (unbuildIndexPermission perm) = perm ↔ IsSpelledOut perm := by
  rw [← fields_packFieldLevelSecurity_iff hfields rfl]
  constructor
  · intro h
    exact ⟨congrArg RoleIndexPermissionStateClass.fieldLevelSecurityMethod h,
      congrArg RoleIndexPermissionStateClass.fieldLevelSecurityFields h⟩
  · rintro ⟨hmethod, hlist⟩
    simp only [unbuildIndexPermission, buildIndexPermission, map_stringToComboBoxOption_map,
      hmethod, hlist]

/-- What an untouched save makes of index permissions, which it preserves exactly if no list of
fields is mixed; and which states of the editor are shown again as they were saved. -/
theorem indexPermissions_edited (p : List RoleIndexPermission)
    (s : List RoleIndexPermissionStateClass) (hs : ∀ perm ∈ s, perm.fieldLevelSecurityFields ≠ []) :
    unbuildIndexPermissionState (buildIndexPermissionState p) = p.map savedIndexPermission ∧
      (unbuildIndexPermissionState (buildIndexPermissionState p) = p ↔
        ∀ perm ∈ p, IsUniform perm.fls) ∧
      (buildIndexPermissionState (unbuildIndexPermissionState s) = s ↔
        ∀ perm ∈ s, IsSpelledOut perm) := by
  refine ⟨unbuildIndexPermissionState_build p, ?_, ?_⟩
  · refine map_map_eq_self_iff.trans ?_
    exact forall₂_congr fun perm _ => unbuildIndexPermission_build_eq_self_iff
  · refine map_map_eq_self_iff.trans ?_
    exact forall₂_congr fun perm hperm => buildIndexPermission_unbuild_eq_self_iff (hs perm hperm)

namespace Sample

/-- Permissions with these fields. -/
def indexPermission (fls : List String) : RoleIndexPermission where
  index_patterns := ["staff"]
  dls := ""
  fls := fls
  masked_fields := []
  allowed_actions := ["read"]

/-- An editor state with these fields. -/
def indexState (method : FieldLevelSecurityMethod) (fields : List String) :
    RoleIndexPermissionStateClass :=
  { getEmptyIndexPermission with
    fieldLevelSecurityMethod := method
    fieldLevelSecurityFields := fields.map stringToComboBoxOption }

/-- The name can be read before the save, and not after it. -/
theorem mixedFields_rewritten :
    unbuildIndexPermissionState (buildIndexPermissionState [indexPermission ["name", "~salary"]]) =
        [indexPermission ["~name", "~salary"]] ∧
      unbuildIndexPermissionState (buildIndexPermissionState [indexPermission ["name", "~salary"]]) ≠
        [indexPermission ["name", "~salary"]] := by
  decide

theorem excludedFields_edited :
    unbuildIndexPermissionState (buildIndexPermissionState [indexPermission ["~name", "~salary"]]) =
        [indexPermission ["~name", "~salary"]] ∧
      buildIndexPermissionState (unbuildIndexPermissionState [indexState .include ["name"]]) =
        [indexState .include ["name"]] := by
  obtain ⟨-, hsaved, hshown⟩ := indexPermissions_edited [indexPermission ["~name", "~salary"]]
    [indexState .include ["name"]] (by decide)
  refine ⟨hsaved.mpr ?_, hshown.mpr ?_⟩
  · intro perm hperm
    rw [List.mem_singleton.mp hperm]
    exact Or.inl (by decide)
  · intro perm hperm
    rw [List.mem_singleton.mp hperm]
    exact fun _ => by decide

end Sample

/-! ## Tenant permissions -/

/-- The same tenants and the same set of actions. -/
structure SameGrants (a b : RoleTenantPermission) : Prop where
  tenant_patterns : a.tenant_patterns = b.tenant_patterns
  allowed_actions : ∀ action, action ∈ a.allowed_actions ↔ action ∈ b.allowed_actions

/-- The actions are those of one of the choices that the page knows. -/
def IsOneChoice (actions : List String) : Prop :=
  (∀ action, action ∉ actions) ∨
    (∀ action, action ∈ actions ↔ action = TENANT_READ_PERMISSION) ∨
    ∀ action, action ∈ actions ↔ action = TENANT_WRITE_PERMISSION

/-- The actions as the page saves them. -/
def savedActions (actions : List String) : List String :=
  if TENANT_WRITE_PERMISSION ∈ actions then [TENANT_WRITE_PERMISSION]
  else if TENANT_READ_PERMISSION ∈ actions then [TENANT_READ_PERMISSION]
  else []

theorem TENANT_PERMISSION_TYPE_DICT_getTenantPermissionType (actions : List String) :
    TENANT_PERMISSION_TYPE_DICT (getTenantPermissionType actions) = savedActions actions := by
  unfold getTenantPermissionType savedActions
  simp only [List.contains_iff_mem]
  split
  · rfl
  · split <;> rfl

/-- Saved actions are one choice. -/
theorem isOneChoice_savedActions (actions : List String) : IsOneChoice (savedActions actions) := by
  unfold savedActions
  split
  · exact Or.inr (Or.inr fun action => List.mem_singleton)
  · split
    · exact Or.inr (Or.inl fun action => List.mem_singleton)
    · exact Or.inl fun action => List.not_mem_nil

theorem savedActions_savedActions (actions : List String) :
    savedActions (savedActions actions) = savedActions actions := by
  have hne : TENANT_WRITE_PERMISSION ≠ TENANT_READ_PERMISSION := by decide
  have hwrite : savedActions [TENANT_WRITE_PERMISSION] = [TENANT_WRITE_PERMISSION] :=
    if_pos List.mem_cons_self
  have hread : savedActions [TENANT_READ_PERMISSION] = [TENANT_READ_PERMISSION] := by
    rw [savedActions, if_neg fun h => hne (List.mem_singleton.mp h), if_pos List.mem_cons_self]
  have hnone : savedActions [] = [] := by
    rw [savedActions, if_neg List.not_mem_nil, if_neg List.not_mem_nil]
  unfold savedActions at hwrite hread hnone ⊢
  split
  · exact hwrite
  · split
    · exact hread
    · exact hnone

/-- An entry as the page saves it. -/
def savedTenantPermission (permission : RoleTenantPermission) : RoleTenantPermission :=
  { permission with allowed_actions := savedActions permission.allowed_actions }

theorem unbuildTenantPermission_build (permission : RoleTenantPermission) :
    unbuildTenantPermission (buildTenantPermission permission) =
      savedTenantPermission permission := by
  rw [savedTenantPermission, ← TENANT_PERMISSION_TYPE_DICT_getTenantPermissionType]
  simp only [unbuildTenantPermission, buildTenantPermission, map_comboBoxOptionToString_map]

theorem savedTenantPermission_saved (permission : RoleTenantPermission) :
    savedTenantPermission (savedTenantPermission permission) = savedTenantPermission permission := by
  simp only [savedTenantPermission, savedActions_savedActions]

theorem unbuildTenantPermissionState_build (p : List RoleTenantPermission) :
    unbuildTenantPermissionState (buildTenantPermissionState p) = p.map savedTenantPermission := by
  rw [unbuildTenantPermissionState, buildTenantPermissionState, List.map_map]
  exact List.map_congr_left fun permission _ => unbuildTenantPermission_build permission

/-- One choice is saved as it is. -/
theorem mem_savedActions_of_isOneChoice {actions : List String} (h : IsOneChoice actions)
    (action : String) : action ∈ savedActions actions ↔ action ∈ actions := by
  have hne : TENANT_WRITE_PERMISSION ≠ TENANT_READ_PERMISSION := by decide
  unfold savedActions
  rcases h with hnone | hread | hwrite
  · rw [if_neg (hnone _), if_neg (hnone _)]
    exact ⟨fun h => absurd h List.not_mem_nil, fun h => absurd h (hnone action)⟩
  · rw [if_neg fun h => hne ((hread _).mp h), if_pos ((hread _).mpr rfl), List.mem_singleton,
      hread action]
  · rw [if_pos ((hwrite _).mpr rfl), List.mem_singleton, hwrite action]

theorem sameGrants_saved_iff {permission : RoleTenantPermission} :
    SameGrants (savedTenantPermission permission) permission ↔
      IsOneChoice permission.allowed_actions := by
  constructor
  · intro h
    have hactions : ∀ action, action ∈ savedActions permission.allowed_actions ↔
        action ∈ permission.allowed_actions := h.allowed_actions
    have hchoice := isOneChoice_savedActions permission.allowed_actions
    unfold IsOneChoice at hchoice ⊢
    simpa only [hactions] using hchoice
  · intro h
    exact ⟨rfl, mem_savedActions_of_isOneChoice h⟩

/-! ## The page -/

@[simp] theorem isEmpty_map_stringToComboBoxOption (l : List String) :
    (l.map stringToComboBoxOption).isEmpty = l.isEmpty := List.isEmpty_map

/-- The empty row that a panel shows is not saved. -/
theorem filter_emptyRow {α : Type*} (shown : Bool) (valid : α → Bool) {row : α}
    (hrow : valid row = false) (l : List α) :
    (if shown && l.isEmpty then [row] else l).filter valid = l.filter valid := by
  by_cases hempty : (shown && l.isEmpty) = true
  · rw [if_pos hempty, List.isEmpty_iff.mp (Bool.and_eq_true_iff.mp hempty).2, List.filter_singleton,
      hrow]
    rfl
  · rw [if_neg hempty]

/-- Entries that are valid are valid as saved, and are saved once and for all. -/
theorem map_filter_map_filter {α : Type*} (valid : α → Bool) (save : α → α)
    (hvalid : ∀ a, valid (save a) = valid a) (hsave : ∀ a, save (save a) = save a) (l : List α) :
    (((l.filter valid).map save).filter valid).map save = (l.filter valid).map save := by
  have hvalid' : valid ∘ save = valid := funext hvalid
  have hsave' : save ∘ save = save := funext hsave
  rw [List.filter_map, List.map_map, hvalid', hsave', List.filter_filter]
  simp only [Bool.and_self]

/-- The permissions that are saved at all. -/
def withIndexPatterns (p : List RoleIndexPermission) : List RoleIndexPermission :=
  p.filter fun perm => !perm.index_patterns.isEmpty

def withTenantPatterns (p : List RoleTenantPermission) : List RoleTenantPermission :=
  p.filter fun permission => !permission.tenant_patterns.isEmpty

theorem filter_buildIndexPermissionState (p : List RoleIndexPermission) :
    ((buildIndexPermissionState p).filter fun v => !v.indexPatterns.isEmpty) =
      buildIndexPermissionState (withIndexPatterns p) := by
  rw [buildIndexPermissionState, List.filter_map, buildIndexPermissionState, withIndexPatterns]
  congr 1
  refine List.filter_congr fun perm _ => ?_
  rw [Function.comp_apply, buildIndexPermission, isEmpty_map_stringToComboBoxOption]

theorem filter_buildTenantPermissionState (p : List RoleTenantPermission) :
    ((buildTenantPermissionState p).filter fun v => !v.tenantPatterns.isEmpty) =
      buildTenantPermissionState (withTenantPatterns p) := by
  rw [buildTenantPermissionState, List.filter_map, buildTenantPermissionState, withTenantPatterns]
  congr 1
  refine List.filter_congr fun permission _ => ?_
  rw [Function.comp_apply, buildTenantPermission, isEmpty_map_stringToComboBoxOption]

/-- An untouched save drops the permissions without patterns, and saves the others each by itself. -/
theorem savedUntouched_eq (isMultiTenancyEnabled : Bool) (roleData : RoleUpdate) :
    savedUntouched isMultiTenancyEnabled roleData =
      { cluster_permissions := roleData.cluster_permissions
        index_permissions :=
          (withIndexPatterns roleData.index_permissions).map savedIndexPermission
        tenant_permissions :=
          (withTenantPatterns roleData.tenant_permissions).map savedTenantPermission } := by
  have hindex := filter_emptyRow true (fun v => !v.indexPatterns.isEmpty)
    (show (!getEmptyIndexPermission.indexPatterns.isEmpty) = false from rfl)
    (buildIndexPermissionState roleData.index_permissions)
  have htenant := filter_emptyRow isMultiTenancyEnabled (fun v => !v.tenantPatterns.isEmpty)
    (show (!getEmptyTenantPermission.tenantPatterns.isEmpty) = false from rfl)
    (buildTenantPermissionState roleData.tenant_permissions)
  rw [Bool.true_and, filter_buildIndexPermissionState] at hindex
  rw [filter_buildTenantPermissionState] at htenant
  rw [← unbuildIndexPermissionState_build, ← unbuildTenantPermissionState_build, ← hindex, ← htenant,
    ← map_comboBoxOptionToString_map roleData.cluster_permissions]
  rfl

/-- A second untouched save changes nothing. -/
theorem savedUntouched_savedUntouched (isMultiTenancyEnabled : Bool) (roleData : RoleUpdate) :
    savedUntouched isMultiTenancyEnabled (savedUntouched isMultiTenancyEnabled roleData) =
      savedUntouched isMultiTenancyEnabled roleData := by
  have hindex := map_filter_map_filter (fun perm => !perm.index_patterns.isEmpty)
    savedIndexPermission (fun _ => rfl) savedIndexPermission_saved roleData.index_permissions
  have htenant := map_filter_map_filter (fun permission => !permission.tenant_patterns.isEmpty)
    savedTenantPermission (fun _ => rfl) savedTenantPermission_saved roleData.tenant_permissions
  rw [savedUntouched_eq, savedUntouched_eq]
  exact congrArg₂ (RoleUpdate.mk roleData.cluster_permissions) hindex htenant

/-- What an untouched save makes of tenant permissions with patterns: each keeps its patterns and
gets the actions of one choice, which are its own exactly if they were one choice before. -/
theorem tenantPermissions_edited (isMultiTenancyEnabled : Bool) (roleData : RoleUpdate)
    (hpatterns : ∀ permission ∈ roleData.tenant_permissions, permission.tenant_patterns ≠ []) :
    (savedUntouched isMultiTenancyEnabled roleData).tenant_permissions =
        roleData.tenant_permissions.map savedTenantPermission ∧
      (List.Forall₂ SameGrants (savedUntouched isMultiTenancyEnabled roleData).tenant_permissions
          roleData.tenant_permissions ↔
        ∀ permission ∈ roleData.tenant_permissions, IsOneChoice permission.allowed_actions) := by
  have hall : withTenantPatterns roleData.tenant_permissions = roleData.tenant_permissions := by
    refine List.filter_eq_self.mpr fun permission hpermission => ?_
    rw [Bool.not_eq_true', List.isEmpty_eq_false_iff]
    exact hpatterns permission hpermission
  rw [savedUntouched_eq, hall]
  refine ⟨rfl, ?_⟩
  rw [List.forall₂_map_left_iff, List.forall₂_same]
  exact forall₂_congr fun permission _ => sameGrants_saved_iff

namespace Sample

/-- A role with one tenant and these actions on it. -/
def tenantRole (actions : List String) : RoleUpdate where
  cluster_permissions := []
  index_permissions := []
  tenant_permissions := [{ tenant_patterns := ["analysts"], allowed_actions := actions }]

/-- An action group of its own is gone after an untouched save. -/
theorem actionGroup_lost :
    (savedUntouched true (tenantRole ["dashboards_reviewer"])).tenant_permissions =
        (tenantRole []).tenant_permissions ∧
      ¬List.Forall₂ SameGrants
        (savedUntouched true (tenantRole ["dashboards_reviewer"])).tenant_permissions
        (tenantRole ["dashboards_reviewer"]).tenant_permissions := by
  have hsaved : (savedUntouched true (tenantRole ["dashboards_reviewer"])).tenant_permissions =
      (tenantRole []).tenant_permissions := by decide
  refine ⟨hsaved, ?_⟩
  rw [hsaved]
  intro h
  obtain ⟨hsame, -⟩ := List.forall₂_cons.mp h
  exact absurd ((hsame.allowed_actions "dashboards_reviewer").mpr (by decide)) (by decide)

theorem readPermission_edited :
    List.Forall₂ SameGrants
      (savedUntouched true (tenantRole [TENANT_READ_PERMISSION])).tenant_permissions
      (tenantRole [TENANT_READ_PERMISSION]).tenant_permissions := by
  have hpatterns : ∀ permission ∈ (tenantRole [TENANT_READ_PERMISSION]).tenant_permissions,
      permission.tenant_patterns ≠ [] := by decide
  refine (tenantPermissions_edited true (tenantRole [TENANT_READ_PERMISSION]) hpatterns).2.mpr ?_
  intro permission hpermission
  rw [List.mem_singleton.mp hpermission]
  exact Or.inr (Or.inl fun action => List.mem_singleton)

end Sample

end RoleEdit

end SecurityDashboards
