import SecurityDashboards.Common
import SecurityDashboards.Lib.JsString
import SecurityDashboards.Lib.Machine

/-!
# The tenant that a page restores

`setupTopNavButton` of `apps/account/account-app.tsx` and what it shares with the tenant panel, the
logout buttons and `interceptError`: the flag `show_popup` in the `sessionStorage` of a tab, and the
saved tenant in the `localStorage` of the browser.
-/

namespace SecurityDashboards

namespace TenantRestore

/-- An answer, or the status code of the error. -/
abbrev Answer (α : Type) := Except (Option ℕ) α

/-- `ClientConfigType`, as far as it is read here. -/
structure ClientConfig where
  /-- `auth.type`, a list if it is an array. -/
  authType : String ⊕ List String
  multitenancyEnabled : Bool
  autologout : Bool

/-- What a tab keeps in its `sessionStorage`, and its account button. -/
structure Tab where
  showTenantPopup : Option Bool := none
  /-- `currAuthType` of the button. -/
  button : Option String := none

structure Browser where
  tabs : ℕ → Tab
  savedTenant : Option String

structure AccountInfo where
  user_name : String
  roles : List String

structure DashboardsInfo where
  multitenancy_enabled : Bool
  default_tenant : Option String

/-- A page load: the query of its URL, and the answers it gets. -/
structure PageLoad where
  search : String
  authtype : Answer String
  accountInfo : Answer AccountInfo
  /-- The text of the answer, in which HTML entities stand for some characters of the name. -/
  currentTenant : Answer String
  dashboardsInfo : Answer DashboardsInfo
  selectTenant : Answer Unit

/-- The radio buttons of the tenant panel. -/
inductive Radio where
  | globalTenant
  | privateTenant
  | customTenant
deriving DecidableEq

inductive Event where
  | load (tab : ℕ) (page : PageLoad)
  /-- The account menu is rendered. -/
  | openMenu (tab : ℕ)
  | logout (tab : ℕ) (answer : Answer Unit)
  | externalLogout (tab : ℕ)
  /-- The confirmation in the tenant panel. -/
  | handleTenantConfirmation (tab : ℕ) (radio : Option Radio) (options : List String)
      (answer : Answer Unit)
  /-- Another request of the page fails. -/
  | error (tab : ℕ) (status : Option ℕ)
  /-- A new tab, perhaps a copy. -/
  | openTab (tab : ℕ) (copied : Option ℕ)

/-- What a page does on its own: the tenant it asks for, and whether the panel is shown. -/
structure Output where
  selected : Option String := none
  panel : Bool := false
deriving DecidableEq

section Events

variable (toLowerCase : String → String) (config : ClientConfig)

def Browser.setTab (b : Browser) (tab : ℕ) (f : Tab → Tab) : Browser :=
  { b with tabs := fun other => if other = tab then f (b.tabs tab) else b.tabs other }

/-- `setShouldShowTenantPopup` -/
def Browser.setShouldShowTenantPopup (b : Browser) (tab : ℕ) (value : Option Bool) : Browser :=
  b.setTab tab fun t => { t with showTenantPopup := value }

/-- `interceptError` for a request that ends with this status. -/
def Browser.interceptError (b : Browser) (tab : ℕ) (status : Option ℕ) : Browser :=
  if config.autologout && status == some 401 then b.setShouldShowTenantPopup tab none else b

/-- The browser after an answer. -/
def Browser.receive {α : Type} (b : Browser) (tab : ℕ) (answer : Answer α) : Browser :=
  match answer with
  | .ok _ => b
  | .error status => b.interceptError config tab status

def tenantSpecifiedInUrl (search : String) : Bool :=
  Js.includes search "security_tenant" || Js.includes search "securitytenant"

/-- A render of `AccountNavButton`: whether it shows the panel. -/
def Browser.renderNavButton (b : Browser) (tab : ℕ) : Bool × Browser :=
  if (b.tabs tab).showTenantPopup == some true then
    (true, b.setShouldShowTenantPopup tab (some false))
  else (false, b)

/-- `currAuthType`; with several types, or none, the server is asked. -/
def currAuthType (tab : ℕ) (page : PageLoad) (b : Browser) : String × Browser :=
  match config.authType with
  | .inl authType => (authType, b)
  | .inr [authType] => (authType, b)
  | .inr _ =>
    match page.authtype with
    | .ok authType => (authType, b)
    | .error status => (BASIC, b.interceptError config tab status)

/-- The answer of a request that ignores a 401; `none` if it throws. -/
def ignoring401 {α : Type} : Answer α → Option (Option α)
  | .ok a => some (some a)
  | .error status => if status == some 401 then some none else none

/-- The part of `setupTopNavButton` that restores the tenant. `tenant` is the current one. -/
def restoreTenant (tab : ℕ) (page : PageLoad) (tenant : Option String) (info : Option DashboardsInfo)
    (b : Browser) : Option String × Browser :=
  let multitenancyEnabled := (info.any fun i => i.multitenancy_enabled) && config.multitenancyEnabled
  let defaultTenantSet := !((info.bind fun i => i.default_tenant) == some "")
  if tenantSpecifiedInUrl page.search || (b.tabs tab).showTenantPopup == some false ||
      !multitenancyEnabled || defaultTenantSet then (none, b)
  else
    match b.savedTenant with
    | none => (none, b)
    | some savedTenant =>
      if some savedTenant == tenant then (none, b)
      else (some savedTenant, b.receive config tab page.selectTenant)

/-- `setupTopNavButton` for a user who is known. -/
def setupForAccount (tab : ℕ) (page : PageLoad) (authType : String) (b : Browser) :
    Output × Browser :=
  let b := if config.multitenancyEnabled then b.receive config tab page.currentTenant else b
  let tenant := if config.multitenancyEnabled then page.currentTenant.toOption else none
  let b := b.receive config tab page.dashboardsInfo
  match ignoring401 page.dashboardsInfo with
  | none => ({}, b)
  | some info =>
    let (selected, b) := restoreTenant config tab page tenant info b
    let b := b.setShouldShowTenantPopup tab (some false)
    let (panel, b) := Browser.renderNavButton
      (b.setTab tab fun t => { t with button := some (toLowerCase authType) }) tab
    ({ selected, panel }, b)

/-- `setupTopNavButton`. An error in a request that is not caught ends it. -/
def setupTopNavButton (tab : ℕ) (page : PageLoad) (b : Browser) : Output × Browser :=
  let (authType, b) := currAuthType config tab page b
  let b := b.receive config tab page.accountInfo
  match ignoring401 page.accountInfo with
  | some (some _) => setupForAccount toLowerCase config tab page authType b
  | _ => ({}, b)

/-- The tenant that the panel asks for; `none` if it asks for none. -/
def confirmedTenant (radio : Option Radio) (options : List String) : Option String :=
  match radio with
  | none => none
  | some .globalTenant => some GLOBAL_TENANT_SYMBOL
  | some .privateTenant => some PRIVATE_TENANT_SYMBOL
  | some .customTenant => options.head?

/-- `logout` -/
def logout (tab : ℕ) (answer : Answer Unit) (b : Browser) : Browser :=
  match answer with
  | .ok _ => b.setShouldShowTenantPopup tab none
  | .error status => b.interceptError config tab status

def handleTenantConfirmation (tab : ℕ) (tenantName : Option String) (answer : Answer Unit)
    (b : Browser) : Browser :=
  match tenantName with
  | none => b
  | some tenantName => Browser.receive config { b with savedTenant := some tenantName } tab answer

/-- The button is rendered with its menu, and a `LogoutButton` in it. -/
def openMenu (tab : ℕ) (b : Browser) : Output × Browser :=
  match (b.tabs tab).button with
  | none => ({}, b)
  | some authType =>
    let (panel, b) := b.renderNavButton tab
    ({ panel }, if authType == PROXY then b.setShouldShowTenantPopup tab none else b)

def step (event : Event) (b : Browser) : Output × Browser :=
  match event with
  | .load tab page =>
    setupTopNavButton toLowerCase config tab page (b.setTab tab fun t => { t with button := none })
  | .openMenu tab => openMenu tab b
  | .logout tab answer => ({}, logout config tab answer b)
  | .externalLogout tab => ({}, b.setShouldShowTenantPopup tab none)
  | .handleTenantConfirmation tab radio options answer =>
    ({}, handleTenantConfirmation config tab (confirmedTenant radio options) answer b)
  | .error tab status => ({}, b.interceptError config tab status)
  | .openTab tab copied =>
    ({}, b.setTab tab fun _ =>
      { showTenantPopup := copied.bind fun other => (b.tabs other).showTenantPopup })

/-- The server is asked for the type that the user has logged in with. -/
def ClientConfig.AsksForType : Prop := ∀ authType, config.authType ≠ .inl authType ∧
  config.authType ≠ .inr [authType]

/-- A 401 logs the user out before the page load restores a tenant. -/
structure PageLoad.LogsOut (page : PageLoad) : Prop where
  autologout : config.autologout = true
  unauthorized : (config.AsksForType ∧ page.authtype = .error (some 401)) ∨
    page.accountInfo = .error (some 401) ∨
    (page.accountInfo.toOption ≠ none ∧
      ((config.multitenancyEnabled = true ∧ page.currentTenant = .error (some 401)) ∨
        page.dashboardsInfo = .error (some 401)))

/-- The tab that the event happens in. -/
def Event.tab : Event → ℕ
  | .load tab _ | .openMenu tab | .logout tab _ | .externalLogout tab
  | .handleTenantConfirmation tab _ _ _ | .error tab _ | .openTab tab _ => tab

/-- The event takes back that its tab has restored a tenant: a logout, a 401 with `autologout`, a new
`sessionStorage` without the flag, or the menu of a user that a proxy has logged in. -/
def Event.Resets (b : Browser) : Event → Prop
  | .load _ page => page.LogsOut config
  | .openMenu tab => (b.tabs tab).button = some PROXY
  | .externalLogout _ => True
  | .openTab _ copied => (copied.bind fun other => (b.tabs other).showTenantPopup) ≠ some false
  | .logout _ answer => answer = .ok () ∨ (config.autologout = true ∧ answer = .error (some 401))
  | .handleTenantConfirmation _ radio options answer =>
    config.autologout = true ∧ confirmedTenant radio options ≠ none ∧ answer = .error (some 401)
  | .error _ status => config.autologout = true ∧ status = some 401

/-- The tenant that the event confirms. -/
def Event.confirmed : Event → Option String
  | .handleTenantConfirmation _ radio options _ => confirmedTenant radio options
  | _ => none

/-- The tenant that was confirmed last. -/
def lastConfirmed (events : List Event) : Option String :=
  (events.filterMap Event.confirmed).getLast?

end Events

/-- A browser in which nothing was kept. -/
def Browser.fresh : Browser := { tabs := fun _ => {}, savedTenant := none }

end TenantRestore

end SecurityDashboards
