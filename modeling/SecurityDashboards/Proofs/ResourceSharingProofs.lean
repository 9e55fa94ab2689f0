import SecurityDashboards.Proofs.PlainObjectProofs
import SecurityDashboards.ResourceSharing

/-!
# Proofs: what the share modal submits

The levels of every state of the modal have plain names, and each level of a difference has
recipients. Both is all that the schemas ask for.
-/

namespace SecurityDashboards

open ConfigSchema

namespace ResourceSharing

/-! ## Recipients -/

theorem get_set (r : ShareRecipients) (key : RecipientKey) (values : List String) :
    (r.set key values).get key = some values := by
  cases key with
  | users => rfl
  | roles => rfl
  | backend_roles => rfl

theorem mem_keys (key : RecipientKey) : key ∈ RecipientKey.keys := by
  cases key with
  | users => decide
  | roles => decide
  | backend_roles => decide

theorem hasNonEmptyRecipients_iff {r : ShareRecipients} :
    hasNonEmptyRecipients r = true ↔ ∃ key values, r.get key = some values ∧ values ≠ [] := by
  rw [hasNonEmptyRecipients, List.any_eq_true]
  constructor
  · rintro ⟨key, -, hkey⟩
    cases hvalues : r.get key with
    | none =>
      rw [hvalues] at hkey
      exact absurd hkey (by simp)
    | some values =>
      rw [hvalues] at hkey
      exact ⟨key, values, hvalues, List.ne_nil_of_length_pos (of_decide_eq_true hkey)⟩
  · rintro ⟨key, values, hvalues, hne⟩
    refine ⟨key, mem_keys key, ?_⟩
    rw [hvalues]
    exact decide_eq_true (List.length_pos_of_ne_nil hne)

/-- Recipients that get values are not empty. -/
theorem hasNonEmptyRecipients_set (r : ShareRecipients) (key : RecipientKey) {values : List String}
    (h : values ≠ []) : hasNonEmptyRecipients (r.set key values) = true :=
  hasNonEmptyRecipients_iff.mpr ⟨key, values, get_set r key values, h⟩

/-! ## Levels -/

theorem plainLevels_empty : PlainLevels Js.PlainObject.empty := by
  intro g hg
  cases hg

theorem plainLevels_put {sw : ShareWith} {g : String} {r : ShareRecipients} (h : PlainLevels sw)
    (hg : g ∉ Js.objectPrototype) : PlainLevels (sw.put g r) := by
  intro level hlevel
  rw [← Js.PlainObject.own_isSome_iff, Js.PlainObject.own_put] at hlevel
  split_ifs at hlevel with heq
  · rw [heq]
    exact hg
  · exact h level (Js.PlainObject.own_isSome_iff.mp hlevel)

theorem plainLevels_delete {sw : ShareWith} {g : String} (h : PlainLevels sw) :
    PlainLevels (sw.delete g) := by
  intro level hlevel
  rw [Js.PlainObject.keys_delete] at hlevel
  exact h level (List.mem_of_mem_filter hlevel)

/-- Every level has a plain name and recipients. -/
def Sendable (sw : ShareWith) : Prop :=
  ∀ level ∈ sw.props, level.1 ∉ Js.objectPrototype ∧ hasNonEmptyRecipients level.2 = true

theorem sendable_empty : Sendable Js.PlainObject.empty := by
  intro level hlevel
  cases hlevel

theorem sendable_put {sw : ShareWith} {g : String} {r : ShareRecipients} (h : Sendable sw)
    (hg : g ∉ Js.objectPrototype) (hr : hasNonEmptyRecipients r = true) : Sendable (sw.put g r) := by
  rintro ⟨level, r'⟩ hlevel
  rw [← Js.PlainObject.own_eq_some_iff, Js.PlainObject.own_put] at hlevel
  split_ifs at hlevel with heq
  · rw [Option.some.inj hlevel] at hr
    rw [heq]
    exact ⟨hg, hr⟩
  · exact h (level, r') (Js.PlainObject.own_eq_some_iff.mp hlevel)

/-- A state without empty levels can be sent. -/
theorem sendable_of_emptyLevels {sw : ShareWith} (hplain : PlainLevels sw)
    (h : emptyLevels sw = []) : Sendable sw := by
  intro level hlevel
  refine ⟨hplain level.1 (List.mem_map_of_mem hlevel), ?_⟩
  by_contra hempty
  have hmem : level.1 ∈ emptyLevels sw :=
    List.mem_map_of_mem (List.mem_filter.mpr ⟨hlevel, by simpa using hempty⟩)
  rw [h] at hmem
  cases hmem

/-! ## The difference -/

section Diff

variable {prev next : ShareWith} {g : String}

theorem sendable_appendRecipients {sw : ShareWith} (h : Sendable sw) (hg : g ∉ Js.objectPrototype)
    (k : RecipientKey) (values : List String) : Sendable (appendRecipients sw g k values) := by
  unfold appendRecipients
  split_ifs with hvalues
  · refine sendable_put h hg (hasNonEmptyRecipients_set _ _ ?_)
    intro hnil
    rw [(List.append_eq_nil_iff.mp hnil).2] at hvalues
    exact absurd hvalues (by decide)
  · exact h

/-- One round keeps both objects sendable. -/
theorem sendable_diffRound {acc : ShareWith × ShareWith} (h : Sendable acc.1 ∧ Sendable acc.2)
    (hg : g ∉ Js.objectPrototype) (k : RecipientKey) :
    Sendable (diffRound prev next g acc k).1 ∧ Sendable (diffRound prev next g acc k).2 :=
  ⟨sendable_appendRecipients h.1 hg k _, sendable_appendRecipients h.2 hg k _⟩

theorem sendable_diffLoop (prev next : ShareWith) {levels : List String}
    (hlevels : ∀ g ∈ levels, g ∉ Js.objectPrototype) :
    Sendable (diffLoop prev next levels).1 ∧ Sendable (diffLoop prev next levels).2 := by
  unfold diffLoop
  refine List.foldlRecOn (motive := fun acc : ShareWith × ShareWith =>
    Sendable acc.1 ∧ Sendable acc.2) levels _ ⟨sendable_empty, sendable_empty⟩ fun acc hacc g hg => ?_
  refine List.foldlRecOn (motive := fun acc : ShareWith × ShareWith =>
    Sendable acc.1 ∧ Sendable acc.2) RecipientKey.keys _ hacc fun acc' hacc' k _ => ?_
  exact sendable_diffRound hacc' (hlevels g hg) k

/-- What the difference adds and revokes can be sent. -/
theorem sendable_diff (hprev : PlainLevels prev) (hnext : PlainLevels next) :
    (∀ sw, (diffShareWith prev next).add = some sw → Sendable sw) ∧
      ∀ sw, (diffShareWith prev next).revoke = some sw → Sendable sw := by
  have hlevels : ∀ g ∈ (prev.keys ++ next.keys).eraseDups, g ∉ Js.objectPrototype := by
    intro g hg
    rcases List.mem_append.mp (List.mem_eraseDups.mp hg) with hg | hg
    · exact hprev g hg
    · exact hnext g hg
  obtain ⟨hadd, hrevoke⟩ := sendable_diffLoop prev next hlevels
  constructor
  · intro sw hsw
    obtain ⟨-, hsome⟩ := Option.ite_none_left_eq_some.mp hsw
    rw [← Option.some.inj hsome]
    exact hadd
  · intro sw hsw
    obtain ⟨-, hsome⟩ := Option.ite_none_left_eq_some.mp hsw
    rw [← Option.some.inj hsome]
    exact hrevoke

end Diff

/-! ## The modal -/

namespace ShareAccessModal

variable {modal : ShareAccessModal} {working : ShareWith}

theorem plainLevels_initial (h : modal.PlainNames) : PlainLevels modal.initial := by
  unfold initial
  cases modal.mode with
  | create => exact plainLevels_empty
  | edit => exact h.original

theorem plainLevels_addLevel (h : modal.PlainNames) (hworking : PlainLevels working) :
    PlainLevels (modal.addLevel working) := by
  unfold addLevel
  cases hbase : modal.ACCESS_LEVELS.find? fun level => !working.keys.contains level with
  | none => exact hworking
  | some base =>
    have hmem : base ∈ modal.accessLevels.getD [] :=
      List.mem_eraseDups.mp (List.mem_of_find?_eq_some hbase)
    dsimp only
    split_ifs
    · exact hworking
    · exact plainLevels_put hworking (h.suggested base hmem)

theorem plainLevels_setLevelName (hworking : PlainLevels working) (g newName : String) :
    PlainLevels (setLevelName working g newName) := by
  unfold setLevelName
  split_ifs with hsame hused
  · exact hworking
  · exact hworking
  · refine plainLevels_delete (plainLevels_put hworking fun hinherited => hused ?_)
    exact Js.PlainObject.has_iff.mpr (Or.inr hinherited)

/-- No edit brings in a level with an inherited name. -/
theorem plainLevels_step (h : modal.PlainNames) (hworking : PlainLevels working) {edit : Edit}
    (hedit : edit.OfPlainLevel) : PlainLevels (modal.step working edit) := by
  cases edit with
  | addLevel => exact plainLevels_addLevel h hworking
  | removeLevel g => exact plainLevels_delete hworking
  | setLevelName g newName => exact plainLevels_setLevelName hworking g newName
  | setRecipients g key values => exact plainLevels_put hworking hedit

theorem plainLevels_run (h : modal.PlainNames) {edits : List Edit}
    (hedits : ∀ edit ∈ edits, edit.OfPlainLevel) : PlainLevels (modal.run edits) :=
  List.foldlRecOn (motive := PlainLevels) edits _ (plainLevels_initial h)
    fun _ hworking edit hmem => plainLevels_step h hworking (hedits edit hmem)

/-- The button is enabled if there is no reason to disable it. -/
theorem canSubmit_iff : modal.canSubmit working = true ↔ modal.disabledReason working = none := by
  unfold canSubmit disabledReason
  cases isInvalid working with
  | true => simp
  | false =>
    cases modal.hasChanges working with
    | true => simp
    | false =>
      cases modal.mode with
      | create => simp
      | edit => simp

end ShareAccessModal

/-! ## What the schemas accept -/

section Accepts

variable {schema : Builder}

theorem accepts_stringArray (hdoc : schema.Documented) (values : List String) :
    schema.accepts (stringArray schema) (some (.array (values.map .string))) = true := by
  refine hdoc.arrayOf _ _ fun value hvalue => ?_
  obtain ⟨s, -, rfl⟩ := List.mem_map.mp hvalue
  exact hdoc.string 0 s (Nat.zero_le _)

/-- The properties of recipients. -/
def recipientProps (r : ShareRecipients) : List (String × Json) :=
  RecipientKey.keys.filterMap fun key =>
    (r.get key).map fun values => (key.name, .array (values.map .string))

theorem lookup_recipientProps (r : ShareRecipients) (key : RecipientKey) :
    (recipientProps r).lookup key.name =
      (r.get key).map fun values => .array (values.map .string) := by
  rcases r with ⟨_ | users, _ | roles, _ | backend_roles⟩ <;> cases key <;> rfl

/-- Recipients that are not empty satisfy their schema. -/
theorem accepts_recipients (hdoc : schema.Documented) {r : ShareRecipients}
    (h : hasNonEmptyRecipients r = true) :
    schema.accepts (recipientsSchema schema) (some r.toJson) = true := by
  have hfield : ∀ key : RecipientKey, schema.accepts (schema.maybe (stringArray schema))
      ((recipientProps r).lookup key.name) = true := by
    intro key
    rw [lookup_recipientProps]
    cases r.get key with
    | none => exact hdoc.maybe_absent _
    | some values => exact hdoc.maybe_present _ _ (accepts_stringArray hdoc values)
  refine hdoc.object _ _ _ (recipientProps r) ?_ ?_ ?_
  · intro field hmem
    simp only [List.mem_cons, List.not_mem_nil, or_false] at hmem
    rcases hmem with rfl | rfl | rfl
    · exact hfield .users
    · exact hfield .roles
    · exact hfield .backend_roles
  · intro _ prop hprop
    obtain ⟨key, -, hkey⟩ := List.mem_filterMap.mp hprop
    obtain ⟨values, -, rfl⟩ := Option.map_eq_some_iff.mp hkey
    cases key with
    | users => simp [RecipientKey.name]
    | roles => simp [RecipientKey.name]
    | backend_roles => simp [RecipientKey.name]
  · obtain ⟨key, values, hvalues, -⟩ := hasNonEmptyRecipients_iff.mp h
    have hlookup := lookup_recipientProps r key
    rw [hvalues] at hlookup
    cases key with
    | users =>
      have hpresent : truthy ((recipientProps r).lookup "users") = true := congrArg truthy hlookup
      simp [hpresent]
    | roles =>
      have hpresent : truthy ((recipientProps r).lookup "roles") = true := congrArg truthy hlookup
      simp [hpresent]
    | backend_roles =>
      have hpresent : truthy ((recipientProps r).lookup "backend_roles") = true :=
        congrArg truthy hlookup
      simp [hpresent]

theorem accepts_shareWith (hdoc : schema.Documented) {sw : ShareWith} (h : Sendable sw) :
    schema.accepts (shareWithSchema schema) (some (shareWithJson sw)) = true := by
  refine hdoc.recordOf _ _ _ (fun prop hprop => ?_) fun prop hprop => ?_
  · obtain ⟨level, hlevel, rfl⟩ := List.mem_map.mp hprop
    exact (h level hlevel).1
  · obtain ⟨level, hlevel, rfl⟩ := List.mem_map.mp hprop
    exact ⟨hdoc.string 0 level.1 (Nat.zero_le _), accepts_recipients hdoc (h level hlevel).2⟩

/-- An object that may be left out. -/
theorem accepts_optional (hdoc : schema.Documented) {sw : Option ShareWith}
    (h : ∀ sw', sw = some sw' → Sendable sw') :
    schema.accepts (schema.maybe (shareWithSchema schema)) (sw.map shareWithJson) = true := by
  cases sw with
  | none => exact hdoc.maybe_absent _
  | some sw => exact hdoc.maybe_present _ _ (accepts_shareWith hdoc (h sw rfl))

theorem accepts_nonempty (hdoc : schema.Documented) {s : String} (h : s ≠ "") :
    schema.accepts (schema.string 1) (some (.string s)) = true := by
  refine hdoc.string 1 s ?_
  cases hs : s.toList with
  | nil => exact absurd (String.toList_eq_nil_iff.mp hs) h
  | cons c l =>
    have hc : 1 ≤ if c.toNat < 65536 then 1 else 2 := by split_ifs <;> decide
    rw [Js.length, hs, List.map_cons, List.sum_cons]
    omega

variable {modal : ShareAccessModal} {working : ShareWith}

/-- A state without empty levels, and with at least one level, is accepted by the route that shares a
resource. -/
theorem accepts_put (hdoc : schema.Documented) (hid : modal.resource_id ≠ "")
    (htype : modal.resourceTypeIndex ≠ "") (hsend : Sendable working)
    (hchanges : hasNonEmptyShareWith working = true) :
    schema.accepts (putBodySchema schema) (some (.object [("resource_id", .string modal.resource_id),
      ("resource_type", .string modal.resourceTypeIndex),
      ("share_with", shareWithJson working)])) = true := by
  refine hdoc.object _ _ _ _ ?_ ?_ ?_
  · intro field hmem
    simp only [List.mem_cons, List.not_mem_nil, or_false] at hmem
    rcases hmem with rfl | rfl | rfl
    · exact accepts_nonempty hdoc hid
    · exact accepts_nonempty hdoc htype
    · exact accepts_shareWith hdoc hsend
  · intro h
    cases h
  · obtain ⟨level, hlevel, -⟩ := List.any_eq_true.mp hchanges
    have hne : working.props ≠ [] := List.ne_nil_of_mem hlevel
    simp [List.lookup_cons, hasNoKeys, shareWithJson, hne]

/-- The properties of an update. -/
def updateProps (modal : ShareAccessModal) (add revoke : Option ShareWith) : List (String × Json) :=
  [("resource_id", .string modal.resource_id), ("resource_type", .string modal.resourceTypeIndex)] ++
    optional "add" add ++ optional "revoke" revoke

theorem lookup_updateProps_add (add revoke : Option ShareWith) :
    (updateProps modal add revoke).lookup "add" = add.map shareWithJson := by
  cases add with
  | none =>
    cases revoke with
    | none => rfl
    | some revoke => rfl
  | some add => rfl

theorem lookup_updateProps_revoke (add revoke : Option ShareWith) :
    (updateProps modal add revoke).lookup "revoke" = revoke.map shareWithJson := by
  cases add with
  | none =>
    cases revoke with
    | none => rfl
    | some revoke => rfl
  | some add =>
    cases revoke with
    | none => rfl
    | some revoke => rfl

/-- An update names only the properties of its schema. -/
theorem name_of_mem_optional {name : String} {sw : Option ShareWith} {prop : String × Json}
    (h : prop ∈ optional name sw) : prop.1 = name := by
  obtain ⟨sw', -, rfl⟩ := Option.map_eq_some_iff.mp (Option.mem_toList.mp h)
  rfl

/-- A difference is accepted by the route that updates the sharing. -/
theorem accepts_post (hdoc : schema.Documented) (hid : modal.resource_id ≠ "")
    (htype : modal.resourceTypeIndex ≠ "") {add revoke : Option ShareWith}
    (hadd : ∀ sw, add = some sw → Sendable sw) (hrevoke : ∀ sw, revoke = some sw → Sendable sw)
    (hchanges : (add.isSome || revoke.isSome) = true) :
    schema.accepts (postBodySchema schema) (some (.object (updateProps modal add revoke))) =
      true := by
  refine hdoc.object _ _ _ _ ?_ ?_ ?_
  · intro field hmem
    simp only [List.mem_cons, List.not_mem_nil, or_false] at hmem
    rcases hmem with rfl | rfl | rfl | rfl
    · exact accepts_nonempty hdoc hid
    · exact accepts_nonempty hdoc htype
    · rw [lookup_updateProps_add]
      exact accepts_optional hdoc hadd
    · rw [lookup_updateProps_revoke]
      exact accepts_optional hdoc hrevoke
  · intro _ prop hprop
    rw [updateProps, List.mem_append, List.mem_append] at hprop
    rcases hprop with (hprop | hprop) | hprop
    · simp only [List.mem_cons, List.not_mem_nil, or_false] at hprop
      rcases hprop with rfl | rfl
      · simp
      · simp
    · simp [name_of_mem_optional hprop]
    · simp [name_of_mem_optional hprop]
  · have htruthy : ∀ sw : Option ShareWith, truthy (sw.map shareWithJson) = sw.isSome := by
      rintro (_ | sw)
      · rfl
      · rfl
    rw [lookup_updateProps_add, lookup_updateProps_revoke, htruthy, htruthy]
    rw [← Bool.not_or, hchanges]
    rfl

end Accepts

/-- Whatever edits lead to a state in which the submit button is enabled, what is submitted satisfies
the schema of the route to which it goes. -/
theorem submitted_accepted {schema : Builder} (hdoc : schema.Documented) (modal : ShareAccessModal)
    (hid : modal.resource_id ≠ "") (htype : modal.resourceTypeIndex ≠ "")
    (hplain : modal.PlainNames) (edits : List Edit) (hedits : ∀ edit ∈ edits, edit.OfPlainLevel)
    (hsubmit : modal.canSubmit (modal.run edits) = true) :
    ∃ payload, modal.handleSubmit (modal.run edits) = some payload ∧
      schema.accepts (bodySchema schema modal.mode) (some payload) = true := by
  have hrun : PlainLevels (modal.run edits) :=
    ShareAccessModal.plainLevels_run hplain hedits
  obtain ⟨hchanges, hvalid⟩ := Bool.and_eq_true_iff.mp hsubmit
  have hlevels : emptyLevels (modal.run edits) = [] := by
    rw [ShareAccessModal.isInvalid, Bool.not_eq_true', decide_eq_false_iff_not] at hvalid
    exact List.eq_nil_of_length_eq_zero (Nat.eq_zero_of_not_pos hvalid)
  unfold ShareAccessModal.hasChanges at hchanges
  unfold ShareAccessModal.handleSubmit
  cases hmode : modal.mode with
  | create =>
    rw [hmode] at hchanges
    exact ⟨_, rfl, accepts_put hdoc hid htype (sendable_of_emptyLevels hrun hlevels) hchanges⟩
  | edit =>
    rw [hmode] at hchanges
    obtain ⟨hadd, hrevoke⟩ := sendable_diff hplain.original hrun
    have hsome : ((modal.diff (modal.run edits)).add.isSome ||
        (modal.diff (modal.run edits)).revoke.isSome) = true := hchanges
    refine ⟨_, if_neg ?_, accepts_post hdoc hid htype hadd hrevoke hsome⟩
    rw [← Bool.not_or, hsome]
    decide

/-! ## A session of the modal -/

namespace Sample

/-- A schema is a test of values. -/
def builder : Builder where
  Schema := Option Json → Bool
  string minLength
    | some (.string s) => decide (minLength ≤ Js.length s)
    | _ => false
  arrayOf item
    | some (.array items) => items.all fun value => item (some value)
    | _ => false
  maybe schema value := value.isNone || schema value
  object fields unknowns validate
    | some (.object props) =>
      (fields.all fun field => field.2 (props.lookup field.1)) &&
        (unknowns != .forbid || props.all fun prop => (fields.map Prod.fst).contains prop.1) &&
        (validate props).isNone
    | _ => false
  recordOf key value
    | some (.object props) => props.all fun prop =>
      key (some (.string prop.1)) && value (some prop.2) && !Js.objectPrototype.contains prop.1
    | _ => false
  accepts schema value := schema value

theorem builder_documented : builder.Documented where
  string minLength s h := decide_eq_true h
  arrayOf item items h := List.all_eq_true.mpr h
  maybe_absent schema := rfl
  maybe_present schema value h := by
    have hschema : schema value = true := h
    simp [builder, hschema]
  object fields unknowns validate props hfields hunknowns hvalidate := by
    have hnames : (unknowns != .forbid ||
        props.all fun prop => (fields.map Prod.fst).contains prop.1) = true := by
      by_cases hforbid : unknowns = .forbid
      · have hall := hunknowns hforbid
        rw [List.all_eq_true.mpr fun prop hprop => List.contains_iff_mem.mpr (hall prop hprop),
          Bool.or_true]
      · simp [hforbid]
    have hall : (fields.all fun field => field.2 (props.lookup field.1)) = true :=
      List.all_eq_true.mpr hfields
    have hvalid : (validate props).isNone = true := by
      rw [hvalidate]
      rfl
    exact Bool.and_eq_true_iff.mpr ⟨Bool.and_eq_true_iff.mpr ⟨hall, hnames⟩, hvalid⟩
  recordOf key value props hplain h := by
    refine List.all_eq_true.mpr fun prop hprop => ?_
    obtain ⟨hkey, hvalue⟩ := h prop hprop
    have hname : key (some (.string prop.1)) = true := hkey
    have hbody : value (some prop.2) = true := hvalue
    rw [hname, hbody]
    simpa using hplain prop hprop

/-- The level of a resource is renamed, a role is added to it and a user removed. -/
def modal : ShareAccessModal where
  mode := .edit
  resource_id := "dashboard-1"
  share_with := some (Js.PlainObject.empty.put "read" { users := some ["alice", "bob"] })
  resourceTypeIndex := "dashboards"
  accessLevels := some ["read", "write"]

def edits : List Edit :=
  [.addLevel, .setRecipients "write" .roles ["editors"], .setRecipients "read" .users ["bob"],
    .setLevelName "read" "view"]

theorem edits_accepted :
    ∃ payload, modal.handleSubmit (modal.run edits) = some payload ∧
      builder.accepts (bodySchema builder modal.mode) (some payload) = true := by
  refine submitted_accepted builder_documented modal (by decide) (by decide) ⟨?_, ?_⟩ edits ?_ ?_
  · decide
  · decide
  · decide
  · decide

end Sample

end ResourceSharing

end SecurityDashboards
