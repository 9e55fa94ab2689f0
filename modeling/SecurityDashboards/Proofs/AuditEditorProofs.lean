import SecurityDashboards.AuditEditor
import SecurityDashboards.Lib.JsString
import SecurityDashboards.Lib.NestedObject

/-!
# Proofs: the editor of the audit logging settings

The invalid settings are a store as the configuration is one. In both, the calls of a render write
into what was rendered.
-/

namespace SecurityDashboards

namespace AuditLogging

variable {Config Path Value : Type} [DecidableEq Path]

/-! ## The invalid settings as a store -/

section Invalid

variable {invalidSettings : List Path} {path path' : Path} {error : Bool}

theorem mem_without : path' ∈ without invalidSettings path ↔
    path' ∈ invalidSettings ∧ path' ≠ path := by
  rw [without, List.mem_filter, decide_eq_true_iff]

theorem mem_handleInvalid_self : path ∈ handleInvalid invalidSettings path error ↔ error = true := by
  unfold handleInvalid
  cases error with
  | false =>
    refine iff_of_false (fun h => ?_) Bool.false_ne_true
    exact (mem_without.mp h).2 rfl
  | true => exact iff_of_true (List.mem_append_right _ (List.mem_singleton_self path)) rfl

theorem mem_handleInvalid_of_ne (hne : path' ≠ path) :
    path' ∈ handleInvalid invalidSettings path error ↔ path' ∈ invalidSettings := by
  have hwithout : path' ∈ without invalidSettings path ↔ path' ∈ invalidSettings := by
    rw [mem_without, and_iff_left hne]
  unfold handleInvalid
  cases error with
  | false => exact hwithout
  | true =>
    show path' ∈ without invalidSettings path ++ [path] ↔ path' ∈ invalidSettings
    rw [List.mem_append, List.mem_singleton, or_iff_left hne, hwithout]

end Invalid

/-- The invalid settings, read and written path by path. -/
def invalidStore : PathStore (List Path) Path Bool where
  get invalidSettings path := some (decide (path ∈ invalidSettings))
  set := handleInvalid
  Apart path path' := path' ≠ path
  get_set invalidSettings path error := by
    rw [decide_eq_decide.mpr mem_handleInvalid_self, Bool.decide_coe]
  get_set_of_apart hne invalidSettings error := by
    rw [decide_eq_decide.mpr (mem_handleInvalid_of_ne hne)]

theorem invalidStore_get_iff {invalidSettings : List Path} {path : Path} {error : Bool} :
    invalidStore.get invalidSettings path = some error ↔
      (path ∈ invalidSettings ↔ error = true) := by
  show some (decide (path ∈ invalidSettings)) = some error ↔ _
  rw [Option.some.injEq, Bool.eq_iff_iff, decide_eq_true_iff]

/-- At first no setting is invalid. -/
theorem invalidStore_get_nil (path : Path) : invalidStore.get [] path = some false :=
  invalidStore_get_iff.mpr (iff_of_false List.not_mem_nil Bool.false_ne_true)

theorem invalidStore_pathsApart (entries : List (Path × Bool)) :
    invalidStore.PathsApart entries :=
  fun _ _ _ _ hne => Ne.symm hne

theorem invalidStore_holds_iff {entries : List (Path × Bool)} {invalidSettings : List Path} :
    invalidStore.Holds [] entries invalidSettings ↔
      ∀ path, path ∈ invalidSettings ↔ PathStore.lastValue entries path = some true := by
  constructor
  · intro h path
    cases hlast : PathStore.lastValue entries path with
    | none =>
      have hnow := h.unchanged path (PathStore.lastValue_eq_none_iff.mp hlast)
      rw [invalidStore_get_iff.mp (hnow.trans (invalidStore_get_nil path))]
      exact iff_of_false Bool.false_ne_true fun heq => by cases heq
    | some error =>
      rw [Option.some.injEq]
      exact invalidStore_get_iff.mp (h.written path error hlast)
  · intro h
    constructor
    · intro path error hlast
      refine invalidStore_get_iff.mpr ?_
      rw [h path, hlast, Option.some.injEq]
    · intro path hother
      have hnone := PathStore.lastValue_eq_none_iff.mpr hother
      have hnot : path ∉ invalidSettings := by
        rw [h path, hnone]
        exact fun heq => by cases heq
      rw [invalidStore_get_nil]
      exact invalidStore_get_iff.mpr (iff_of_false hnot Bool.false_ne_true)

/-! ## The calls of a render -/

section Render

variable {lodash : PathStore Config Path Value} {fetchedConfig : Config}
  {rendered : State Config Path}

omit [DecidableEq Path] in
@[simp] theorem changes_append (earlier calls : List (Call Path Value)) :
    changes (earlier ++ calls) = changes earlier ++ changes calls := List.filterMap_append

omit [DecidableEq Path] in
@[simp] theorem reports_append (earlier calls : List (Call Path Value)) :
    reports (earlier ++ calls) = reports earlier ++ reports calls := List.filterMap_append

/-- Each call writes into what was rendered. -/
theorem nextRender_eq (calls : List (Call Path Value)) (rendered : State Config Path) :
    nextRender lodash calls rendered =
      { editConfig := lodash.writeEach rendered.editConfig (changes calls)
        invalidSettings := invalidStore.writeEach rendered.invalidSettings (reports calls) } := by
  induction calls using List.reverseRecOn with
  | nil => rfl
  | append_singleton calls call ih =>
    unfold nextRender at ih ⊢
    rw [List.foldl_append, ih, changes_append, reports_append]
    cases call with
    | handleChange path val =>
      show _ = State.mk (lodash.writeEach _ (changes calls ++ [(path, val)]))
        (invalidStore.writeEach _ (reports calls ++ []))
      rw [PathStore.writeEach_concat, List.append_nil]
      rfl
    | handleInvalid path error =>
      show _ = State.mk (lodash.writeEach _ (changes calls ++ []))
        (invalidStore.writeEach _ (reports calls ++ [(path, error)]))
      rw [PathStore.writeEach_concat, List.append_nil]
      rfl

theorem keepsEdits_iff_holds {calls : List (Call Path Value)} {s : State Config Path} :
    KeepsEdits lodash fetchedConfig calls s ↔
      lodash.Holds fetchedConfig (changes calls) s.editConfig ∧
        invalidStore.Holds [] (reports calls) s.invalidSettings := by
  rw [invalidStore_holds_iff]
  exact ⟨fun h => ⟨h.edited, h.invalid⟩, fun h => ⟨h.1, h.2⟩⟩

theorem losesNothing_iff_holdsOthers {calls : List (Call Path Value)} :
    LosesNothing lodash calls rendered ↔
      lodash.HoldsOthers (changes calls) rendered.editConfig ∧
        invalidStore.HoldsOthers (reports calls) rendered.invalidSettings := by
  constructor
  · rintro ⟨hchanges, hreports⟩
    exact ⟨hchanges, fun path error hlast hnot =>
      invalidStore_get_iff.mpr (hreports path error hlast hnot)⟩
  · rintro ⟨hchanges, hreports⟩
    exact ⟨hchanges, fun path error hlast hnot =>
      invalidStore_get_iff.mp (hreports path error hlast hnot)⟩

/-- The calls of a render lose nothing if they change and report one setting each. -/
theorem losesNothing_of_one {calls : List (Call Path Value)} (changed reported : Path)
    (hchanged : ∀ entry ∈ changes calls, entry.1 = changed)
    (hreported : ∀ entry ∈ reports calls, entry.1 = reported) (rendered : State Config Path) :
    LosesNothing lodash calls rendered :=
  losesNothing_iff_holdsOthers.mpr
    ⟨PathStore.holdsOthers_of_one changed hchanged _,
      PathStore.holdsOthers_of_one reported hreported _⟩

/-- One render keeps the edits so far exactly if its calls lose nothing. -/
theorem nextRender_keepsEdits {earlier calls : List (Call Path Value)}
    (hapart : lodash.PathsApart (changes (earlier ++ calls)))
    (h : KeepsEdits lodash fetchedConfig earlier rendered) :
    KeepsEdits lodash fetchedConfig (earlier ++ calls) (nextRender lodash calls rendered) ↔
      LosesNothing lodash calls rendered := by
  rw [keepsEdits_iff_holds] at h
  obtain ⟨hconfig, hinvalid⟩ := h
  rw [changes_append] at hapart
  rw [keepsEdits_iff_holds, losesNothing_iff_holdsOthers, nextRender_eq, changes_append,
    reports_append, PathStore.holds_append_iff hapart hconfig,
    PathStore.holds_append_iff (invalidStore_pathsApart _) hinvalid]

theorem fetchConfig_keepsEdits (fetchedConfig : Config) :
    KeepsEdits lodash fetchedConfig [] (fetchConfig fetchedConfig) :=
  keepsEdits_iff_holds.mpr ⟨PathStore.holds_nil fetchedConfig, PathStore.holds_nil []⟩

end Render

/-- No edit is lost in a run of renders exactly if none is lost by the calls of one render. -/
theorem keepsEdits_iff_meets (lodash : PathStore Config Path Value) (fetchedConfig : Config)
    (renders : List (List (Call Path Value)))
    (hapart : lodash.PathsApart (changes renders.flatten)) :
    (∀ earlier, earlier <+: renders →
      KeepsEdits lodash fetchedConfig earlier.flatten
        (Machine.exec (step lodash) earlier (fetchConfig fetchedConfig))) ↔
      Machine.Meets (step lodash) (LosesNothing lodash) renders (fetchConfig fetchedConfig) := by
  refine Machine.history_iff_meets
    (P := fun earlier s => KeepsEdits lodash fetchedConfig earlier.flatten s)
    (fetchConfig_keepsEdits fetchedConfig) fun earlier calls hearlier s hs => ?_
  have hflatten : (earlier ++ [calls]).flatten = earlier.flatten ++ calls := by simp
  obtain ⟨later, rfl⟩ := hearlier
  have hnow : lodash.PathsApart (changes (earlier.flatten ++ calls)) := by
    rw [List.flatten_append, hflatten, changes_append (earlier.flatten ++ calls)] at hapart
    exact hapart.subset (List.subset_append_left _ _)
  rw [hflatten]
  exact nextRender_keepsEdits hnow hs

namespace Sample

open Js (NestedObject)

inductive AuditValue where
  | bool (b : Bool)
  | strings (l : List String)

/-- The paths of the settings, which lead along the names between the dots. -/
def auditStore : PathStore (NestedObject AuditValue) String (NestedObject AuditValue) :=
  NestedObject.pathStore fun path => Js.split path '.'

def off : NestedObject AuditValue := .leaf (.bool false)

def on : NestedObject AuditValue := .leaf (.bool true)

def bothLayers : NestedObject AuditValue :=
  .object [("enabled", on), ("audit", .object [("enable_rest", on), ("enable_transport", on),
    ("ignore_users", .leaf (.strings ["kibanaserver"]))])]

def restOff : Call String (NestedObject AuditValue) := .handleChange "audit.enable_rest" off

def transportOff : Call String (NestedObject AuditValue) :=
  .handleChange "audit.enable_transport" off

theorem layers_apart {entries : List (String × NestedObject AuditValue)}
    (h : ∀ entry ∈ entries,
      entry.1 = "audit.enable_rest" ∨ entry.1 = "audit.enable_transport") :
    auditStore.PathsApart entries := by
  intro entry hentry entry' hentry' hne
  rcases h entry hentry with hpath | hpath <;> rcases h entry' hentry' with hpath' | hpath' <;>
    rw [hpath, hpath'] at hne ⊢
  · exact absurd rfl hne
  · exact ⟨by decide, by decide⟩
  · exact ⟨by decide, by decide⟩
  · exact absurd rfl hne

theorem bothOff_apart : auditStore.PathsApart (changes [restOff, transportOff]) := by
  refine layers_apart fun entry hentry => ?_
  rcases List.mem_cons.mp hentry with rfl | hentry
  · exact Or.inl rfl
  · rw [List.mem_singleton.mp hentry]
    exact Or.inr rfl

/-- One switch after the other, with a render in between. -/
theorem oneByOne_kept :
    KeepsEdits auditStore bothLayers [restOff, transportOff]
      (Machine.exec (step auditStore) [[restOff], [transportOff]] (fetchConfig bothLayers)) := by
  refine (keepsEdits_iff_meets auditStore bothLayers [[restOff], [transportOff]]
    bothOff_apart).mpr ⟨?_, ?_, trivial⟩ _ List.prefix_rfl
  · refine losesNothing_of_one "audit.enable_rest" "" (fun entry hentry => ?_)
      (fun entry hentry => by cases hentry) _
    rw [List.mem_singleton.mp hentry]
  · refine losesNothing_of_one "audit.enable_transport" "" (fun entry hentry => ?_)
      (fun entry hentry => by cases hentry) _
    rw [List.mem_singleton.mp hentry]

/-- Of two switches in one render, the first one is undone. -/
theorem bothAtOnce_lost :
    auditStore.PathsApart (changes [restOff, transportOff]) ∧
      auditStore.get (Machine.exec (step auditStore) [[restOff, transportOff]]
        (fetchConfig bothLayers)).editConfig "audit.enable_rest" = some on ∧
      ¬ KeepsEdits auditStore bothLayers [restOff, transportOff]
        (Machine.exec (step auditStore) [[restOff, transportOff]] (fetchConfig bothLayers)) := by
  have hlost : auditStore.get (Machine.exec (step auditStore) [[restOff, transportOff]]
      (fetchConfig bothLayers)).editConfig "audit.enable_rest" = some on := by
    rfl
  refine ⟨bothOff_apart, hlost, fun h => ?_⟩
  have hkept := h.edited.written "audit.enable_rest" off rfl
  rw [hlost] at hkept
  cases hkept

end Sample

end AuditLogging

end SecurityDashboards
