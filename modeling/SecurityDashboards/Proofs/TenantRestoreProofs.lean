import SecurityDashboards.TenantRestore

/-!
# Proofs: the tenant that a page restores
-/

namespace SecurityDashboards

namespace TenantRestore

variable (toLowerCase : String → String) (config : ClientConfig)

namespace Browser

@[simp] theorem setTab_same (b : Browser) (tab : ℕ) (f : Tab → Tab) :
    (b.setTab tab f).tabs tab = f (b.tabs tab) := if_pos rfl

theorem setTab_other (b : Browser) {tab other : ℕ} (f : Tab → Tab) (h : other ≠ tab) :
    (b.setTab tab f).tabs other = b.tabs other := if_neg h

@[simp] theorem setTab_savedTenant (b : Browser) (tab : ℕ) (f : Tab → Tab) :
    (b.setTab tab f).savedTenant = b.savedTenant := rfl

/-- A tab changes its own flag only, and no saved tenant. The flag is never set to `true`. -/
structure Keeps (tab : ℕ) (b b' : Browser) : Prop where
  others : ∀ other, other ≠ tab → (b'.tabs other).showTenantPopup = (b.tabs other).showTenantPopup
  flag : (b.tabs tab).showTenantPopup ≠ some true → (b'.tabs tab).showTenantPopup ≠ some true
  saved : b'.savedTenant = b.savedTenant

theorem Keeps.refl (tab : ℕ) (b : Browser) : Keeps tab b b := ⟨fun _ _ => rfl, id, rfl⟩

theorem Keeps.trans {tab : ℕ} {b b' b'' : Browser} (h : Keeps tab b b') (h' : Keeps tab b' b'') :
    Keeps tab b b'' where
  others other hother := (h'.others other hother).trans (h.others other hother)
  flag hflag := h'.flag (h.flag hflag)
  saved := h'.saved.trans h.saved

theorem keeps_setTab (b : Browser) (tab : ℕ) {f : Tab → Tab}
    (hf : (b.tabs tab).showTenantPopup ≠ some true →
      (f (b.tabs tab)).showTenantPopup ≠ some true) : Keeps tab b (b.setTab tab f) where
  others other hother := by rw [setTab_other b f hother]
  flag := by rw [setTab_same]; exact hf
  saved := rfl

theorem keeps_setShouldShowTenantPopup (b : Browser) (tab : ℕ) {value : Option Bool}
    (hvalue : value ≠ some true) : Keeps tab b (b.setShouldShowTenantPopup tab value) :=
  keeps_setTab b tab fun _ => hvalue

theorem keeps_interceptError (b : Browser) (tab : ℕ) (status : Option ℕ) :
    Keeps tab b (b.interceptError config tab status) := by
  unfold interceptError
  split
  · exact keeps_setShouldShowTenantPopup b tab (by simp)
  · exact Keeps.refl tab b

theorem interceptError_of_stays (b : Browser) (tab : ℕ) {status : Option ℕ}
    (h : ¬(config.autologout = true ∧ status = some 401)) :
    b.interceptError config tab status = b := by
  unfold interceptError
  exact if_neg (by simpa using h)

/-- An answer that does not log the user out changes nothing. -/
theorem receive_of_stays {α : Type} (b : Browser) (tab : ℕ) {answer : Answer α}
    (h : ¬(config.autologout = true ∧ answer = .error (some 401))) :
    b.receive config tab answer = b := by
  cases answer with
  | ok a => rfl
  | error status =>
    exact interceptError_of_stays config b tab fun heq => h ⟨heq.1, by rw [heq.2]⟩

theorem keeps_receive {α : Type} (b : Browser) (tab : ℕ) (answer : Answer α) :
    Keeps tab b (b.receive config tab answer) := by
  unfold receive
  cases answer with
  | ok a => exact Keeps.refl tab b
  | error status => exact keeps_interceptError config b tab status

theorem renderNavButton_of_ne (b : Browser) {tab : ℕ} (h : (b.tabs tab).showTenantPopup ≠ some true) :
    b.renderNavButton tab = (false, b) := by
  unfold renderNavButton
  rw [beq_eq_false_iff_ne.mpr h]
  rfl

theorem keeps_renderNavButton (b : Browser) (tab : ℕ) : Keeps tab b (b.renderNavButton tab).2 := by
  unfold renderNavButton
  split
  · exact keeps_setShouldShowTenantPopup b tab (by simp)
  · exact Keeps.refl tab b

end Browser

open SecurityDashboards.TenantRestore.Browser

theorem keeps_currAuthType (tab : ℕ) (page : PageLoad) (b : Browser) :
    Keeps tab b (currAuthType config tab page b).2 := by
  unfold currAuthType
  split
  · exact Keeps.refl tab b
  · exact Keeps.refl tab b
  · split
    · exact Keeps.refl tab b
    · exact keeps_interceptError config b tab _

/-- A tenant is restored only if it is the saved one, in a tab that has not restored one. -/
theorem restoreTenant_spec (tab : ℕ) (page : PageLoad) (tenant : Option String)
    (info : Option DashboardsInfo) (b : Browser) :
    Keeps tab b (restoreTenant config tab page tenant info b).2 ∧
      ∀ name, (restoreTenant config tab page tenant info b).1 = some name →
        (b.tabs tab).showTenantPopup ≠ some false ∧ b.savedTenant = some name ∧ tenant ≠ some name ∧
          tenantSpecifiedInUrl page.search = false := by
  simp only [restoreTenant]
  split
  · exact ⟨Keeps.refl tab b, fun _ h => nomatch h⟩
  · rename_i hcondition
    split
    · exact ⟨Keeps.refl tab b, fun _ h => nomatch h⟩
    · rename_i savedTenant hsaved
      split
      · exact ⟨Keeps.refl tab b, fun _ h => nomatch h⟩
      · rename_i hdifferent
        refine ⟨keeps_receive config b tab page.selectTenant, ?_⟩
        rintro name ⟨⟩
        simp only [Bool.or_eq_true, not_or, beq_iff_eq, Bool.not_eq_true] at hcondition
        refine ⟨hcondition.1.1.2, hsaved, ?_, hcondition.1.1.1⟩
        intro htenant
        exact hdifferent (by rw [htenant, BEq.refl])

theorem currAuthType_of_stays (tab : ℕ) {page : PageLoad} (b : Browser)
    (h : ¬(config.autologout = true ∧ config.AsksForType ∧ page.authtype = .error (some 401))) :
    (currAuthType config tab page b).2 = b := by
  unfold currAuthType
  split
  · rfl
  · rfl
  · rename_i types hnone hseveral
    split
    · rfl
    · rename_i status hstatus
      refine interceptError_of_stays config b tab fun heq => h ⟨heq.1, fun authType => ⟨?_, ?_⟩, ?_⟩
      · rw [hseveral]; exact Sum.inr_ne_inl
      · rw [hseveral]; exact fun hone => hnone authType (Sum.inr.inj hone)
      · rw [hstatus, heq.2]

/-- What a page load does. -/
structure Loads (config : ClientConfig) (tab : ℕ) (page : PageLoad) (b : Browser)
    (result : Output × Browser) : Prop where
  keeps : Keeps tab b result.2
  panel : result.1.panel = false
  selected : ∀ name, result.1.selected = some name →
    b.savedTenant = some name ∧ tenantSpecifiedInUrl page.search = false ∧
      (config.multitenancyEnabled = true → page.currentTenant ≠ .ok name) ∧
        (result.2.tabs tab).showTenantPopup = some false
  once : ¬page.LogsOut config → (b.tabs tab).showTenantPopup = some false →
    result.1.selected = none ∧ (result.2.tabs tab).showTenantPopup = some false

/-- Nothing but a failure is left if a page load stops early. -/
theorem Loads.stopped {tab : ℕ} {page : PageLoad} {b b' : Browser} (hkeeps : Keeps tab b b')
    (hsame : ¬page.LogsOut config → b' = b) : Loads config tab page b ({}, b') where
  keeps := hkeeps
  panel := rfl
  selected _ h := nomatch h
  once hstays hflag := by
    rw [hsame hstays]
    exact ⟨rfl, hflag⟩

theorem loads_setupForAccount (tab : ℕ) {page : PageLoad} (authType : String) (b : Browser)
    (haccount : page.accountInfo.toOption ≠ none) :
    Loads config tab page b (setupForAccount toLowerCase config tab page authType b) := by
  simp only [setupForAccount]
  generalize hb₁ : (if config.multitenancyEnabled = true then
    b.receive config tab page.currentTenant else b) = b₁
  generalize htenant : (if config.multitenancyEnabled = true then page.currentTenant.toOption
    else none) = tenant
  have hkeeps₁ : Keeps tab b b₁ := by
    rw [← hb₁]
    split
    · exact keeps_receive config b tab _
    · exact Keeps.refl tab b
  have hkeeps := hkeeps₁.trans (keeps_receive config b₁ tab page.dashboardsInfo)
  have hsame : ¬page.LogsOut config → b₁.receive config tab page.dashboardsInfo = b := by
    intro hstays
    rw [receive_of_stays config b₁ tab fun h =>
      hstays ⟨h.1, Or.inr (Or.inr ⟨haccount, Or.inr h.2⟩)⟩, ← hb₁]
    split
    · rename_i hmultitenancy
      exact receive_of_stays config b tab fun h =>
        hstays ⟨h.1, Or.inr (Or.inr ⟨haccount, Or.inl ⟨hmultitenancy, h.2⟩⟩)⟩
    · rfl
  generalize b₁.receive config tab page.dashboardsInfo = b₂ at hkeeps hsame
  cases ignoring401 page.dashboardsInfo with
  | none => exact Loads.stopped config hkeeps hsame
  | some info =>
    simp only
    obtain ⟨hrestore, hname⟩ := restoreTenant_spec config tab page tenant info b₂
    generalize restoreTenant config tab page tenant info b₂ = result at hrestore hname
    obtain ⟨selected, b₃⟩ := result
    let mount : Tab → Tab := fun t => { t with button := some (toLowerCase authType) }
    have hflag : (((b₃.setShouldShowTenantPopup tab (some false)).setTab tab mount).tabs
        tab).showTenantPopup = some false := by
      rw [setTab_same, setShouldShowTenantPopup, setTab_same]
    have hrender := @renderNavButton_of_ne
      ((b₃.setShouldShowTenantPopup tab (some false)).setTab tab mount) tab (by rw [hflag]; simp)
    simp only [mount] at hflag hrender
    rw [hrender]
    refine ⟨?_, ?_, ?_, ?_⟩
    · have hset : Keeps tab b₃ (b₃.setShouldShowTenantPopup tab (some false)) :=
        keeps_setShouldShowTenantPopup b₃ tab (by simp)
      exact (hkeeps.trans hrestore).trans (hset.trans (keeps_setTab (f := mount) _ tab id))
    · rfl
    · intro name hselected
      obtain ⟨-, hsaved, hcurrent, hurl⟩ := hname name hselected
      refine ⟨hkeeps.saved ▸ hsaved, hurl, fun hmultitenancy hok => hcurrent ?_, hflag⟩
      rw [← htenant, if_pos hmultitenancy, hok]
      rfl
    · intro hstays hfalse
      refine ⟨?_, hflag⟩
      cases hselected : selected with
      | none => rfl
      | some name =>
        obtain ⟨hnot, -⟩ := hname name hselected
        rw [hsame hstays] at hnot
        exact absurd hfalse hnot

theorem Loads.after {tab : ℕ} {page : PageLoad} {b b' : Browser} {result : Output × Browser}
    (h : Loads config tab page b' result) (hkeeps : Keeps tab b b')
    (hsame : ¬page.LogsOut config → b' = b) : Loads config tab page b result where
  keeps := hkeeps.trans h.keeps
  panel := h.panel
  selected name hselected := by
    rw [← hkeeps.saved]
    exact h.selected name hselected
  once hstays hflag := h.once hstays (by rw [hsame hstays]; exact hflag)

theorem loads_setupTopNavButton (tab : ℕ) (page : PageLoad) (b : Browser) :
    Loads config tab page b (setupTopNavButton toLowerCase config tab page b) := by
  simp only [setupTopNavButton]
  have hkeeps := (keeps_currAuthType config tab page b).trans
    (keeps_receive config _ tab page.accountInfo)
  have hsame : ¬page.LogsOut config →
      (currAuthType config tab page b).2.receive config tab page.accountInfo = b := by
    intro hstays
    rw [receive_of_stays config _ tab fun h => hstays ⟨h.1, Or.inr (Or.inl h.2)⟩,
      currAuthType_of_stays config tab b fun h => hstays ⟨h.1, Or.inl h.2⟩]
  generalize (currAuthType config tab page b).2.receive config tab page.accountInfo = b'
    at hkeeps hsame
  cases haccount : page.accountInfo with
  | ok account =>
    have hanswer : page.accountInfo.toOption ≠ none := by
      rw [haccount]
      exact Option.some_ne_none account
    exact (loads_setupForAccount toLowerCase config tab _ b' hanswer).after config hkeeps hsame
  | error status =>
    cases hignored : status == some 401 with
    | true =>
      simp only [ignoring401, hignored, if_true]
      exact Loads.stopped config hkeeps hsame
    | false =>
      simp only [ignoring401, hignored, Bool.false_eq_true, if_false]
      exact Loads.stopped config hkeeps hsame

/-! ## The account menu -/

theorem openMenu_eq_of_ne (tab : ℕ) {b : Browser} (h : (b.tabs tab).showTenantPopup ≠ some true) :
    openMenu tab b = ({}, if (b.tabs tab).button = some PROXY then
      b.setShouldShowTenantPopup tab none else b) := by
  unfold openMenu
  rw [renderNavButton_of_ne b h]
  cases (b.tabs tab).button with
  | none => rfl
  | some authType => simp

theorem keeps_openMenu (tab : ℕ) (b : Browser) : Keeps tab b (openMenu tab b).2 := by
  unfold openMenu
  cases (b.tabs tab).button with
  | none => exact Keeps.refl tab b
  | some authType =>
    have hrender := keeps_renderNavButton b tab
    dsimp only
    split
    · exact hrender.trans (keeps_setShouldShowTenantPopup _ tab (by simp))
    · exact hrender

/-! ## Runs -/

/-- The event leaves the saved tenant, or saves the one that it confirms. -/
theorem step_savedTenant (event : Event) (b : Browser) :
    (step toLowerCase config event b).2.savedTenant = event.confirmed.or b.savedTenant := by
  cases event with
  | load tab page =>
    simp only [step, Event.confirmed, Option.none_or]
    rw [(loads_setupTopNavButton toLowerCase config tab page _).keeps.saved, setTab_savedTenant]
  | openMenu tab =>
    simp only [step, Event.confirmed, Option.none_or]
    exact (keeps_openMenu tab b).saved
  | logout tab answer =>
    simp only [step, Event.confirmed, Option.none_or]
    cases answer with
    | ok a => rfl
    | error status => exact (keeps_interceptError config b tab status).saved
  | externalLogout tab => rfl
  | handleTenantConfirmation tab radio options answer =>
    simp only [step, Event.confirmed]
    cases confirmedTenant radio options with
    | none => rfl
    | some tenantName => exact (keeps_receive config _ tab answer).saved
  | error tab status => exact (keeps_interceptError config b tab status).saved
  | openTab tab copied => rfl

/-- The event leaves the flags of the other tabs. -/
theorem step_others (event : Event) (b : Browser) {other : ℕ} (h : other ≠ event.tab) :
    ((step toLowerCase config event b).2.tabs other).showTenantPopup =
      (b.tabs other).showTenantPopup := by
  cases event with
  | load tab page =>
    simp only [step, Event.tab] at h ⊢
    rw [(loads_setupTopNavButton toLowerCase config tab page _).keeps.others other h, setTab_other b _ h]
  | openMenu tab => exact (keeps_openMenu tab b).others other h
  | logout tab answer =>
    cases answer with
    | ok a =>
      simp only [step, logout, Event.tab] at h ⊢
      rw [setShouldShowTenantPopup, setTab_other b _ h]
    | error status => exact (keeps_interceptError config b tab status).others other h
  | externalLogout tab =>
    simp only [step, Event.tab] at h ⊢
    rw [setShouldShowTenantPopup, setTab_other b _ h]
  | handleTenantConfirmation tab radio options answer =>
    simp only [step]
    cases confirmedTenant radio options with
    | none => rfl
    | some tenantName => exact (keeps_receive config _ tab answer).others other h
  | error tab status => exact (keeps_interceptError config b tab status).others other h
  | openTab tab copied =>
    simp only [step, Event.tab] at h ⊢
    rw [setTab_other b _ h]

theorem exec_savedTenant (events : List Event) (b : Browser) :
    (Machine.exec (step toLowerCase config) events b).savedTenant =
      (lastConfirmed events).or b.savedTenant := by
  induction events generalizing b with
  | nil => rfl
  | cons event events ih =>
    rw [Machine.exec_cons, ih, step_savedTenant]
    unfold lastConfirmed
    cases hconfirmed : event.confirmed with
    | none => rw [List.filterMap_cons_none hconfirmed, Option.none_or]
    | some tenantName =>
      rw [List.filterMap_cons_some hconfirmed, List.getLast?_cons, Option.some_or]
      cases (events.filterMap Event.confirmed).getLast? <;> rfl

/-- No tab is to show the tenant panel. -/
def Quiet (b : Browser) : Prop := ∀ tab, (b.tabs tab).showTenantPopup ≠ some true

/-- No event sets the flag of a tab to `true`. -/
theorem quiet_step {b : Browser} (h : Quiet b) (event : Event) :
    Quiet (step toLowerCase config event b).2 := by
  intro tab
  by_cases htab : tab = event.tab
  · subst htab
    cases event with
    | load tab page =>
      refine (loads_setupTopNavButton toLowerCase config tab page _).keeps.flag ?_
      rw [setTab_same]
      exact h tab
    | openMenu tab => exact (keeps_openMenu tab b).flag (h tab)
    | logout tab answer =>
      cases answer with
      | ok a => exact (keeps_setShouldShowTenantPopup b tab (by simp)).flag (h tab)
      | error status => exact (keeps_interceptError config b tab status).flag (h tab)
    | externalLogout tab => exact (keeps_setShouldShowTenantPopup b tab (by simp)).flag (h tab)
    | handleTenantConfirmation tab radio options answer =>
      simp only [step]
      cases confirmedTenant radio options with
      | none => exact h tab
      | some tenantName => exact (keeps_receive config _ tab answer).flag (h tab)
    | error tab status => exact (keeps_interceptError config b tab status).flag (h tab)
    | openTab tab copied =>
      simp only [step, Event.tab, setTab_same]
      cases copied with
      | none => simp
      | some other => exact h other
  · rw [step_others toLowerCase config event b htab]
    exact h tab

/-- While no tab is to show the panel, no page does. -/
theorem panel_step {b : Browser} (h : Quiet b) (event : Event) :
    (step toLowerCase config event b).1.panel = false := by
  cases event with
  | load tab page => exact (loads_setupTopNavButton toLowerCase config tab page _).panel
  | openMenu tab =>
    simp only [step]
    rw [openMenu_eq_of_ne tab (h tab)]
  | logout | externalLogout | handleTenantConfirmation | error | openTab => rfl

/-- The tab has restored its tenant, or is not to. -/
def Settled (tab : ℕ) (b : Browser) : Prop := (b.tabs tab).showTenantPopup = some false

theorem settled_step {tab : ℕ} {event : Event} {b : Browser} (h : Settled tab b)
    (hresets : event.tab = tab → ¬event.Resets config b) :
    Settled tab (step toLowerCase config event b).2 := by
  unfold Settled at h ⊢
  by_cases htab : event.tab = tab
  · have hkeeps := hresets htab
    cases event with
    | load t page =>
      obtain rfl : t = tab := htab
      have hloads := loads_setupTopNavButton toLowerCase config t page
        (b.setTab t fun tab => { tab with button := none })
      refine (hloads.once hkeeps ?_).2
      rw [setTab_same]
      exact h
    | openMenu t =>
      obtain rfl : t = tab := htab
      have hnot : (b.tabs t).showTenantPopup ≠ some true := by rw [h]; simp
      have hbutton : (b.tabs t).button ≠ some PROXY := hkeeps
      simp only [step]
      rw [openMenu_eq_of_ne t hnot, if_neg hbutton]
      exact h
    | logout t answer =>
      cases answer with
      | ok a => exact absurd (Or.inl rfl) hkeeps
      | error status =>
        have hstays : ¬(config.autologout = true ∧ status = some 401) := fun heq =>
          hkeeps (Or.inr ⟨heq.1, by rw [heq.2]⟩)
        simp only [step, logout, interceptError_of_stays config b t hstays, h]
    | externalLogout t => exact absurd trivial hkeeps
    | handleTenantConfirmation t radio options answer =>
      simp only [step]
      cases hconfirmed : confirmedTenant radio options with
      | none => exact h
      | some tenantName =>
        have hstays : ¬(config.autologout = true ∧ answer = .error (some 401)) := fun heq =>
          hkeeps ⟨heq.1, by rw [hconfirmed]; exact Option.some_ne_none _, heq.2⟩
        simp only [handleTenantConfirmation, receive_of_stays config _ t hstays]
        exact h
    | error t status => simp only [step, interceptError_of_stays config b t hkeeps, h]
    | openTab t copied =>
      obtain rfl : t = tab := htab
      simp only [step, setTab_same]
      exact not_not.mp hkeeps
  · rw [step_others toLowerCase config event b fun heq => htab heq.symm]
    exact h

/-- Once a page load has restored a tenant, the tab restores none until its flag is reset, whatever the
server answers. -/
theorem restores_tenant_once (toLowerCase : String → String) (config : ClientConfig) (b : Browser)
    (tab : ℕ) {page later : PageLoad} {events : List Event}
    (hrestored : (step toLowerCase config (.load tab page) b).1.selected ≠ none)
    (hevents : Machine.Meets (step toLowerCase config)
      (fun event b => event.tab = tab → ¬event.Resets config b) (events ++ [.load tab later])
      (step toLowerCase config (.load tab page) b).2) :
    (step toLowerCase config (.load tab later) (Machine.exec (step toLowerCase config)
      (.load tab page :: events) b)).1.selected = none := by
  have hsettled : Settled tab (step toLowerCase config (.load tab page) b).2 := by
    obtain ⟨name, hname⟩ := Option.ne_none_iff_exists'.mp hrestored
    exact ((loads_setupTopNavButton toLowerCase config tab page _).selected name hname).2.2.2
  obtain ⟨hbefore, hlater, -⟩ := Machine.meets_append.mp hevents
  have hend := Machine.exec_of_meets (Settled tab)
    (fun event b hevent h => settled_step toLowerCase config h hevent) hbefore hsettled
  rw [Machine.exec_cons]
  refine ((loads_setupTopNavButton toLowerCase config tab later _).once (hlater rfl) ?_).1
  rw [setTab_same]
  exact hend

/-- A browser whose first tab restores the tenant that its user had confirmed. -/
def Sample.confirmedOnce : Browser := { Browser.fresh with savedTenant := some "analysts" }

/-- Such a page load, with the current tenant that the server answers. -/
def Sample.pageIn (tenant : String) : PageLoad where
  search := "?foo=bar"
  authtype := .ok BASIC
  accountInfo := .ok { user_name := "alice", roles := ["own_index"] }
  currentTenant := .ok tenant
  dashboardsInfo := .ok { multitenancy_enabled := true, default_tenant := some "" }
  selectTenant := .ok ()

def Sample.oneType : ClientConfig :=
  { authType := .inl BASIC, multitenancyEnabled := true, autologout := true }

/-- Between the page loads the menu is opened, and a request fails. -/
theorem Sample.analysts_restored_once :
    (step id Sample.oneType (.load 0 (Sample.pageIn "")) (Machine.exec (step id Sample.oneType)
      [.load 0 (Sample.pageIn ""), .openMenu 0, .error 0 (some 500), .openTab 1 (some 0)]
        Sample.confirmedOnce)).1.selected = none := by
  have hstays : ¬(Sample.pageIn "").LogsOut Sample.oneType := by
    rintro ⟨-, ⟨-, h⟩ | h | ⟨-, ⟨-, h⟩ | h⟩⟩ <;> cases h
  have hbutton : ((step id Sample.oneType (.load 0 (Sample.pageIn "")) Sample.confirmedOnce).2.tabs
      0).button ≠ some PROXY := by decide
  refine restores_tenant_once id Sample.oneType Sample.confirmedOnce 0 (by decide) ⟨fun _ => hbutton, ?_,
    ?_, fun _ => hstays, trivial⟩
  · simp [Event.Resets]
  · simp [Event.tab]

end TenantRestore

end SecurityDashboards
