import SecurityDashboards.PasswordReset

/-!
# Proofs: which passwords are changed

The passwords that a press sends are those of its panel, and they are sent once the login of the same
press has been accepted. Whether the new one was entered twice depends on the field edited last.
-/

namespace SecurityDashboards

namespace PasswordResetPanel

variable {username : String} {s : State} {event : Event} {events : List Event}

theorem after_append_singleton (events : List Event) (event : Event) :
    after username (events ++ [event]) = (step username event (after username events)).2 := by
  unfold after
  rw [Machine.exec_append]
  rfl

/-! ## The fields for the new password -/

/-- The two fields for the new password, and whether they are said to differ. -/
def Panel.entries (panel : Panel) : String × String × Bool :=
  (panel.newPassword, panel.repeatNewPassword, panel.isRepeatNewPasswordInvalid)

theorem finish_entries {update : Panel → Panel}
    (hupdate : ∀ panel, (update panel).entries = panel.entries) (i : ℕ) (reset : Reset) :
    (s.finish i reset update).panel.entries = s.panel.entries :=
  hupdate s.panel

theorem resume_entries (i : ℕ) (reset : Reset) (answer : Except (Option String) Unit) :
    (resume username i reset answer s).2.panel.entries = s.panel.entries := by
  unfold resume
  split
  · rfl
  · exact finish_entries (fun _ => rfl) i reset
  · rfl
  · exact finish_entries (fun _ => rfl) i reset
  · exact finish_entries (fun _ => rfl) i reset
  · exact finish_entries (fun _ => rfl) i reset
  · rfl

/-- Only their own edits change the two fields and what is said about them. -/
theorem step_entries (h : ¬event.EditsNewPassword) :
    (step username event s).2.panel.entries = s.panel.entries := by
  cases event with
  | setCurrentPassword value => rfl
  | setNewPassword value => exact absurd trivial h
  | setRepeatNewPassword value => exact absurd trivial h
  | handleReset =>
    unfold step
    simp only
    split
    · rfl
    · rfl
  | answered i answer =>
    unfold step
    simp only
    split
    · exact resume_entries i _ answer
    · rfl

theorem exec_entries (h : ∀ event ∈ events, ¬event.EditsNewPassword) :
    (Machine.exec (step username) events s).panel.entries = s.panel.entries := by
  induction events generalizing s with
  | nil => rfl
  | cons event events ih =>
    rw [List.forall_mem_cons] at h
    rw [Machine.exec_cons, ih h.2, step_entries h.1]

/-- What the panel says about the two fields depends on the one edited last. -/
theorem after_entries (earlier : List Event) (event : Event) {later : List Event}
    (h : ∀ event ∈ later, ¬event.EditsNewPassword) :
    (after username (earlier ++ event :: later)).panel.entries =
      (step username event (after username earlier)).2.panel.entries := by
  have happend : after username (earlier ++ event :: later) =
      Machine.exec (step username) later (step username event (after username earlier)).2 := by
    unfold after
    rw [Machine.exec_append]
    rfl
  rw [happend, exec_entries h]

theorem enabled_iff {panel : Panel} : panel.disabled = false ↔
    panel.currentPassword ≠ "" ∧ panel.newPassword ≠ "" ∧
      panel.isRepeatNewPasswordInvalid = false := by
  unfold Panel.disabled isResetButtonDisabled
  rw [Bool.or_eq_false_iff, Bool.or_eq_false_iff, beq_eq_false_iff_ne, beq_eq_false_iff_ne, and_assoc]

/-! ## The calls -/

/-- The passwords that a call sends. -/
def Reset.passwords (reset : Reset) : String × String := (reset.newPassword, reset.currentPassword)

/-- The passwords of the call that an event makes. -/
def called (panel : Panel) : Event → List (String × String)
  | .handleReset => if panel.disabled then [] else [(panel.newPassword, panel.currentPassword)]
  | _ => []

theorem map_set_awaits {resets : List Reset} {i : ℕ} {reset : Reset} (hi : resets[i]? = some reset)
    (awaits : Awaits) :
    (resets.set i { reset with awaits }).map Reset.passwords = resets.map Reset.passwords := by
  obtain ⟨hlt, hreset⟩ := List.getElem?_eq_some_iff.mp hi
  have hmap : i < (resets.map Reset.passwords).length := by rwa [List.length_map]
  have hsame : Reset.passwords { reset with awaits } = (resets.map Reset.passwords)[i] := by
    rw [List.getElem_map, hreset]
    rfl
  rw [List.map_set, hsame, List.set_getElem_self]

/-- An answer that a call gets is the last one to its login. -/
theorem resume_resets {i : ℕ} {reset : Reset} (answer : Except (Option String) Unit)
    (hi : s.resets[i]? = some reset) :
    ∃ awaits, awaits ≠ .validateCurrentPassword ∧
      (resume username i reset answer s).2.resets = s.resets.set i { reset with awaits } := by
  unfold resume
  split
  · exact ⟨.updateNewPassword, nofun, rfl⟩
  · exact ⟨.nothing, nofun, rfl⟩
  · exact ⟨.logout, nofun, rfl⟩
  · exact ⟨.nothing, nofun, rfl⟩
  · exact ⟨.nothing, nofun, rfl⟩
  · exact ⟨.nothing, nofun, rfl⟩
  next hawaits =>
    refine ⟨.nothing, nofun, ?_⟩
    obtain ⟨hlt, hreset⟩ := List.getElem?_eq_some_iff.mp hi
    have hsame : { reset with awaits := .nothing } = s.resets[i] := by
      rw [hreset, ← hawaits]
    rw [hsame, List.set_getElem_self]

/-- Calls keep their passwords, and only a press makes a new one. -/
theorem step_passwords (event : Event) (s : State) :
    (step username event s).2.resets.map Reset.passwords =
      s.resets.map Reset.passwords ++ called s.panel event := by
  cases event with
  | handleReset =>
    unfold step called
    simp only
    split
    · exact (List.append_nil _).symm
    · exact List.map_append
  | answered i answer =>
    unfold step called
    simp only
    split
    next reset hi =>
      obtain ⟨awaits, -, hresets⟩ := resume_resets answer hi
      rw [hresets, map_set_awaits hi awaits, List.append_nil]
    · exact (List.append_nil _).symm
  | _ => exact (List.append_nil _).symm

theorem getElem?_called {panel : Panel} {event : Event} {i : ℕ} {p : String × String}
    (h : (called panel event)[i]? = some p) :
    i = 0 ∧ event = .handleReset ∧ panel.disabled = false ∧
      p = (panel.newPassword, panel.currentPassword) := by
  cases event with
  | handleReset =>
    unfold called at h
    cases hdisabled : panel.disabled with
    | true =>
      rw [hdisabled] at h
      cases h
    | false =>
      rw [hdisabled] at h
      obtain ⟨hi, hp⟩ := List.getElem?_eq_some_iff.mp h
      have hzero : i = 0 := Nat.lt_one_iff.mp hi
      subst hzero
      exact ⟨rfl, rfl, rfl, hp.symm⟩
  | _ => cases h

/-- A call that waits for its login has not been answered. -/
theorem unanswered_of_step {i : ℕ} {reset : Reset} (hlt : i < s.resets.length)
    (h : (step username event s).2.resets[i]? = some reset)
    (hawaits : reset.awaits = .validateCurrentPassword) :
    (∀ answer, event ≠ .answered i answer) ∧ s.resets[i]? = some reset := by
  cases event with
  | handleReset =>
    refine ⟨nofun, ?_⟩
    unfold step at h
    simp only at h
    split at h
    · exact h
    · rwa [List.getElem?_append_left hlt] at h
  | answered j answer =>
    unfold step at h
    simp only at h
    split at h
    next reset' hj =>
      obtain ⟨awaits, hne, hresets⟩ := resume_resets answer hj
      rw [hresets] at h
      by_cases hij : j = i
      · subst hij
        rw [List.getElem?_set_self hlt, Option.some.injEq] at h
        exact absurd (by rw [← hawaits, ← h]) hne
      · rw [List.getElem?_set_ne hij] at h
        refine ⟨fun answer' heq => hij ?_, h⟩
        cases heq
        rfl
    next hj =>
      refine ⟨fun answer' heq => ?_, h⟩
      cases heq
      rw [List.getElem?_eq_getElem hlt] at hj
      cases hj
  | _ => exact ⟨nofun, h⟩

/-- Every call was made by a press, and has the passwords that the panel had then. -/
theorem pressed_of_reset {i : ℕ} {reset : Reset}
    (h : (after username events).resets[i]? = some reset) :
    ∃ earlier middle, events = earlier ++ .handleReset :: middle ∧
      (after username earlier).resets.length = i ∧
      (after username earlier).panel.disabled = false ∧
      reset.passwords = ((after username earlier).panel.newPassword,
        (after username earlier).panel.currentPassword) ∧
      (reset.awaits = .validateCurrentPassword → ∀ answer, .answered i answer ∉ middle) := by
  induction events using List.reverseRecOn generalizing reset with
  | nil => cases h
  | append_singleton events event ih =>
    have hmap : ((after username (events ++ [event])).resets.map Reset.passwords)[i]? =
        some reset.passwords := by rw [List.getElem?_map, h, Option.map_some]
    rw [after_append_singleton, step_passwords] at hmap
    rw [after_append_singleton] at h
    by_cases hi : i < (after username events).resets.length
    · rw [List.getElem?_append_left (by rwa [List.length_map]), List.getElem?_map,
        List.getElem?_eq_getElem hi, Option.map_some, Option.some.injEq] at hmap
      obtain ⟨earlier, middle, hevents, hlength, hdisabled, hpasswords, hunanswered⟩ :=
        ih (List.getElem?_eq_getElem hi)
      refine ⟨earlier, middle ++ [event], ?_, hlength, hdisabled, hmap ▸ hpasswords, ?_⟩
      · rw [hevents, List.append_assoc, List.cons_append]
      · intro hawaits answer hmem
        obtain ⟨hne, hsame⟩ := unanswered_of_step hi h hawaits
        rw [List.getElem?_eq_getElem hi, Option.some.injEq] at hsame
        rw [hsame] at hunanswered
        rcases List.mem_append.mp hmem with hmem | hmem
        · exact hunanswered hawaits answer hmem
        · exact hne answer (List.mem_singleton.mp hmem).symm
    · rw [Nat.not_lt] at hi
      rw [List.getElem?_append_right (by rwa [List.length_map]), List.length_map] at hmap
      obtain ⟨hzero, hevent, hdisabled, hpasswords⟩ := getElem?_called hmap
      refine ⟨events, [], by rw [hevent], ?_, hdisabled, hpasswords, fun _ _ => List.not_mem_nil⟩
      omega

/-- The password is changed when the login of the same call has been accepted. -/
theorem updates_of_step {newPassword currentPassword : String}
    (h : (step username event s).1 = some (.updateNewPassword newPassword currentPassword)) :
    ∃ i reset, event = .answered i (.ok ()) ∧ s.resets[i]? = some reset ∧
      reset.awaits = .validateCurrentPassword ∧ reset.passwords = (newPassword, currentPassword) := by
  cases event with
  | handleReset =>
    unfold step at h
    simp only at h
    split at h
    · cases h
    · cases h
  | answered i answer =>
    unfold step at h
    simp only at h
    split at h
    next reset hi =>
      unfold resume at h
      split at h
      next hawaits => cases h; exact ⟨i, reset, rfl, hi, hawaits, rfl⟩
      all_goals cases h
    · cases h
  | _ => cases h

/-! ## The passwords of a press -/

theorem entered_of_enabled (h : (after username events).panel.disabled = false) :
    Entered username (after username events).panel.newPassword events := by
  have hvalid := (enabled_iff.mp h).2.2
  constructor
  · rintro first value rest rfl hrest
    obtain ⟨hnew, hsaid⟩ := Prod.mk.inj (after_entries first (.setRepeatNewPassword value) hrest)
    have hflag : (value != (after username first).panel.newPassword) = false :=
      (Prod.mk.inj hsaid).2.symm.trans hvalid
    exact (bne_eq_false_iff_eq.mp hflag).trans hnew.symm
  · rintro first value rest rfl hrest
    obtain ⟨-, hsaid⟩ := Prod.mk.inj (after_entries first (.setNewPassword value) hrest)
    have hflag : ((after username first).panel.repeatNewPassword !=
        (after username first).panel.newPassword) = false :=
      (Prod.mk.inj hsaid).2.symm.trans hvalid
    exact bne_eq_false_iff_eq.mp hflag

theorem pressed_with (h : (after username events).panel.disabled = false) :
    PressedWith username (after username events).panel.newPassword
      (after username events).panel.currentPassword events := by
  obtain ⟨hcurrent, hnew, -⟩ := enabled_iff.mp h
  refine ⟨⟨rfl, rfl⟩, ⟨hnew, hcurrent⟩, entered_of_enabled h, ?_⟩
  unfold step
  simp only [h]
  rfl

/-- In whichever order the panel is edited, its button is pressed and the answers arrive or fail: a
password is changed only when the login that the same press sent has been accepted. The passwords are
those that the panel had at the press, and the new one was entered twice, if the second field was
edited last. -/
theorem password_changed {newPassword currentPassword : String}
    (h : (event, some (.updateNewPassword newPassword currentPassword)) ∈
      Machine.trace (step username) events {}) :
    ∃ earlier middle later,
      events = (earlier ++ .handleReset :: middle) ++ event :: later ∧
      PressedWith username newPassword currentPassword earlier ∧
      event = .answered (after username earlier).resets.length (.ok ()) ∧
      ∀ answer, .answered (after username earlier).resets.length answer ∉ middle := by
  obtain ⟨before, later, hevents, hsent⟩ := Machine.mem_trace_iff.mp h
  obtain ⟨i, reset, hevent, hi, hawaits, hpasswords⟩ := updates_of_step hsent.symm
  obtain ⟨earlier, middle, rfl, hlength, hdisabled, hpressed, hunanswered⟩ := pressed_of_reset hi
  refine ⟨earlier, middle, later, hevents, ?_, by rw [hlength, hevent], hlength ▸ hunanswered hawaits⟩
  obtain ⟨hnew, hcurrent⟩ := Prod.mk.inj (hpressed.symm.trans hpasswords)
  rw [← hnew, ← hcurrent]
  exact pressed_with hdisabled

/-- The button can be pressed although the new password was entered only once. -/
example :
    (after "ana" [.setCurrentPassword "old", .setNewPassword "new"]).panel.disabled = false := rfl

namespace Sample

/-- A press with a wrong password, then one with the right one. -/
def twoPresses : List Event :=
  [.setNewPassword "new", .setRepeatNewPassword "new", .setCurrentPassword "odl", .handleReset,
    .setCurrentPassword "old", .handleReset, .answered 0 (.error none), .answered 1 (.ok ())]

theorem second_press_changes :
    ∃ earlier middle later,
      twoPresses = (earlier ++ .handleReset :: middle) ++ .answered 1 (.ok ()) :: later ∧
      PressedWith "ana" "new" "old" earlier ∧
      Event.answered 1 (.ok ()) = .answered (after "ana" earlier).resets.length (.ok ()) ∧
      ∀ answer, .answered (after "ana" earlier).resets.length answer ∉ middle := by
  have hsent : (Event.answered 1 (.ok ()), some (.updateNewPassword "new" "old")) ∈
      Machine.trace (step "ana") twoPresses {} :=
    .tail _ (.tail _ (.tail _ (.tail _ (.tail _ (.tail _ (.tail _ (.head _)))))))
  exact password_changed hsent

end Sample

end PasswordResetPanel

end SecurityDashboards
