import SecurityDashboards.Lib.Machine
import SecurityDashboards.Lib.WhatwgSearchParams

/-!
# The data source of the pages

`utils/datasource-utils.ts`, the data source menu of `top-nav-menu.tsx`, and the applications that
the plugin registers, with their default paths (`public/plugin.ts`), with data sources enabled. The
data source that a page works on is state of its application, a parameter of the URL, and a part of
the default paths.
-/

namespace SecurityDashboards

namespace DataSources

open UrlEncoding Whatwg

/-- JSON values and their texts. -/
structure JsonApi where
  Value : Type
  /-- The object without properties. -/
  empty : Value
  /-- The object `LocalCluster`. -/
  LocalCluster : Value
  /-- `none` is a `SyntaxError`. -/
  parse : String → Option Value
  stringify : Value → String

structure JsonApi.Documented (json : JsonApi) : Prop where
  parse_stringify : ∀ value, json.parse (json.stringify value) = some value
  parse_braces : json.parse "\x7b\x7d" = some json.empty
  parse_undefined : json.parse "undefined" = none
  parse_nothing : json.parse "" = none

/-! ## Applications -/

def PLUGIN_NAME : String := "security-dashboards-plugin"

/-- The applications of the plugin with a data source menu. -/
inductive App where
  | plugin
  | getStarted
  | auth
  | roles
  | users
  | permissions
  | tenants
  | auditLog
  | pluginResourceAccessManagement
  | resourceAccessManagement
deriving DecidableEq

namespace App

def id : App → String
  | plugin => PLUGIN_NAME
  | getStarted => PLUGIN_NAME ++ "_getstarted"
  | auth => PLUGIN_NAME ++ "_auth"
  | roles => PLUGIN_NAME ++ "_roles"
  | users => PLUGIN_NAME ++ "_users"
  | permissions => PLUGIN_NAME ++ "_permissions"
  | tenants => PLUGIN_NAME ++ "_tenants"
  | auditLog => PLUGIN_NAME ++ "_auditlog"
  | pluginResourceAccessManagement => PLUGIN_NAME ++ "_resource_access_management"
  | resourceAccessManagement => "resource_access_management"

/-- The application is registered with `updater$`, the `appStateUpdater`. -/
def updater (app : App) : Bool := app != plugin

/-- The application starts with the list of tenants. -/
def startsWithTenants (app : App) : Bool := app == tenants

end App

/-- What `setup` finds. -/
structure Setup where
  navGroupEnabled : Bool
  /-- `config.multitenancy.enabled` -/
  multitenancyEnabled : Bool
  resourceSharingEnabled : Bool
  apiPermission : Bool
  isReadonly : Bool
  basePath : List (List Char)
  isSegment : ∀ segment ∈ basePath, IsSegment segment

namespace Setup

def registers (setup : Setup) : App → Bool
  | .plugin => true
  | .tenants => setup.navGroupEnabled && setup.multitenancyEnabled
  | .pluginResourceAccessManagement => setup.navGroupEnabled && setup.resourceSharingEnabled
  | .resourceAccessManagement => setup.resourceSharingEnabled
  | _ => setup.navGroupEnabled

/-- The application is registered and accessible. -/
def opens (setup : Setup) (app : App) : Bool :=
  setup.registers app && (setup.apiPermission || !setup.isReadonly)

/-- The path of the application. -/
def path (setup : Setup) (app : App) : List (List Char) :=
  setup.basePath ++ ["app".toList, app.id.toList]

end Setup

def DATASOURCEURLKEY : String := "dataSource"

section Urls

variable (json : JsonApi)

def getDataSourceFromUrl (location : Location) : json.Value :=
  let dataSourceParam :=
    match location.searchParams.get DATASOURCEURLKEY with
    | none => "\x7b\x7d"
    | some param => if param = "" then "\x7b\x7d" else param
  match json.parse dataSourceParam with
  | some dataSource => dataSource
  | none => json.empty

/-- No data source (`undefined`) is written as a text like any other value. -/
def getDataSourceEnabledUrl (location : Location) (dataSource : Option json.Value) : Location :=
  location.withSearchParams (location.searchParams.set DATASOURCEURLKEY
    (match dataSource with
    | none => "undefined"
    | some dataSource => json.stringify dataSource))

/-- The default path of the applications. -/
def updateDefaultRouteOfSecurityApplications (location : Location) : String :=
  let url := getDataSourceEnabledUrl json location (some (getDataSourceFromUrl json location))
  "?" ++ String.ofList (formSerialize url.searchParams)

end Urls

/-! ## A tab -/

/-- A mounted application. -/
structure Screen (json : JsonApi) where
  app : App
  /-- The state `dataSource`, which may be `undefined`. -/
  dataSource : Option json.Value
  /-- The router shows the list of tenants. -/
  tenantList : Bool

/-- The data source that the page works on. -/
def Screen.pageDataSource {json : JsonApi} (screen : Screen json) : Option json.Value :=
  if screen.tenantList then some json.LocalCluster else screen.dataSource

/-- A page of Dashboards in a tab. -/
structure Tab (json : JsonApi) where
  location : Location
  screen : Option (Screen json)
  /-- The default path of the applications with an updater. -/
  defaultPath : String

inductive Event (json : JsonApi) where
  /-- The page is loaded, and the application of the URL is mounted. -/
  | load (location : Location) (app : Option App) (tenantList : Bool)
  /-- The application is chosen in the navigation. -/
  | openApp (app : App)
  /-- Another application is opened. -/
  | leave (location : Location)
  /-- A link to another page of the application, which may be the list of tenants. -/
  | hash (fragment : List Char) (tenantList : Bool)
  /-- The menu hands out the selected data sources, each of them an object. -/
  | pick (dataSources : List json.Value)
  /-- Dashboards asks for the default paths again. -/
  | updateApps

namespace Tab

variable {json : JsonApi} (setup : Setup)

def load (location : Location) (app : Option App) (tenantList : Bool) : Tab json where
  location
  screen := (app.filter setup.opens).map fun app =>
    { app, dataSource := some (getDataSourceFromUrl json location), tenantList }
  defaultPath := updateDefaultRouteOfSecurityApplications json location

/-- The application is on the screen. -/
def shows (tab : Tab json) (app : App) : Bool := tab.screen.map Screen.app == some app

/-- The navigation offers what was registered. An application that is on the screen already is not
mounted again. -/
def openApp (tab : Tab json) (app : App) : Tab json :=
  if setup.opens app then
    let defaultPath := if app.updater then tab.defaultPath else ""
    let location := tab.location.resolve (pathText (setup.path app) ++ defaultPath.toList)
    { tab with
      location
      screen :=
        if tab.shows app then tab.screen
        else some
          { app
            dataSource := some (getDataSourceFromUrl json location)
            tenantList := app.startsWithTenants } }
  else tab

/-- `wrapSetDataSourceWithUpdateUrl`, which gets the first data source of the menu. The list of tenants
does not set the state. -/
def pick (tab : Tab json) (screen : Screen json) (dataSource : Option json.Value) : Tab json :=
  let location := getDataSourceEnabledUrl json tab.location dataSource
  { location
    screen := some (if screen.tenantList then screen else { screen with dataSource })
    defaultPath :=
      if dataSource.isSome then updateDefaultRouteOfSecurityApplications json location
      else tab.defaultPath }

def step (tab : Tab json) : Event json → Tab json
  | .load location app tenantList => load setup location app tenantList
  | .openApp app => tab.openApp setup app
  | .leave location => { tab with location, screen := none }
  | .hash fragment tenantList =>
    { tab with
      location := tab.location.resolve ('#' :: fragment)
      screen := tab.screen.map fun screen => { screen with tenantList } }
  | .pick dataSources =>
    match tab.screen with
    | none => tab
    | some screen => tab.pick screen dataSources.head?
  | .updateApps =>
    { tab with defaultPath := updateDefaultRouteOfSecurityApplications json tab.location }

end Tab

/-! ## What was chosen -/

/-- The choices of the user. -/
structure Choice (json : JsonApi) where
  /-- For the application on the screen. A choice of nothing counts only there. -/
  current : Option json.Value
  /-- The last data source that was chosen. -/
  last : json.Value

namespace Choice

variable {json : JsonApi} (setup : Setup)

def ofUrl (location : Location) : Choice json where
  current := some (getDataSourceFromUrl json location)
  last := getDataSourceFromUrl json location

/-- The data source with which an application is meant to start. The one without an updater starts with
none. -/
def start (choice : Choice json) (app : App) : json.Value :=
  if app.updater then choice.last else json.empty

/-- A data source is chosen by the URL of a page load and in the menu. -/
def next (tab : Tab json) (choice : Choice json) : Event json → Choice json
  | .load location _ _ => ofUrl location
  | .openApp app =>
    if setup.opens app && !tab.shows app then { choice with current := some (choice.start app) }
    else choice
  | .pick dataSources =>
    match tab.screen, dataSources.head? with
    | none, _ => choice
    | some _, none => { choice with current := none }
    | some _, some dataSource => { current := some dataSource, last := dataSource }
  | _ => choice

end Choice

variable {json : JsonApi}

/-- The application on the screen works on the data source. -/
def Tab.WorksOn (tab : Tab json) (value : json.Value) : Prop :=
  ∃ screen, tab.screen = some screen ∧ screen.dataSource = some value

/-- The menu is not used on the list of tenants. Dashboards asks for default paths, or opens the
application that is on the screen by one, only while it works on the data source chosen last. -/
def Event.Keeps (setup : Setup) (tab : Tab json) (choice : Choice json) : Event json → Prop
  | .openApp app =>
    setup.opens app = true → tab.shows app = true →
      app.updater = true ∧ tab.WorksOn choice.last
  | .pick _ => ∀ screen, tab.screen = some screen → screen.tenantList = false
  | .updateApps => tab.WorksOn choice.last
  | _ => True

/-- One event, with the choices. -/
def next (setup : Setup) (event : Event json) (state : Tab json × Choice json) :
    Unit × (Tab json × Choice json) :=
  ((), (state.1.step setup event, state.2.next setup state.1 event))

/-- A tab in which a page was loaded, and what its URL chose. -/
def first (setup : Setup) (location : Location) (app : Option App) (tenantList : Bool) :
    Tab json × Choice json :=
  (.load setup location app tenantList, .ofUrl location)

end DataSources

end SecurityDashboards
