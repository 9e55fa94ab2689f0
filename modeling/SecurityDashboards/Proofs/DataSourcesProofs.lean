import SecurityDashboards.DataSources
import SecurityDashboards.Proofs.WhatwgLocationProofs

/-!
# Proofs: the data source of the pages
-/

namespace SecurityDashboards

namespace DataSources

open UrlEncoding Whatwg

variable {json : JsonApi}

/-! ## URLs -/

/-- The data source that a parameter stands for. -/
theorem getDataSourceFromUrl_of_get (hdoc : json.Documented) {location : Location}
    {value : json.Value}
    (h : location.searchParams.get DATASOURCEURLKEY = some (json.stringify value)) :
    getDataSourceFromUrl json location = value := by
  have hne : json.stringify value ≠ "" := by
    intro hempty
    have hself := hdoc.parse_stringify value
    rw [hempty, hdoc.parse_nothing] at hself
    cases hself
  simp only [getDataSourceFromUrl, h, if_neg hne, hdoc.parse_stringify]

theorem searchParams_enabledUrl (location : Location) (value : json.Value) :
    (getDataSourceEnabledUrl json location (some value)).searchParams =
      location.searchParams.set DATASOURCEURLKEY (json.stringify value) :=
  Location.searchParams_withSearchParams _ _

theorem getDataSourceFromUrl_enabledUrl (hdoc : json.Documented) (location : Location)
    (value : json.Value) :
    getDataSourceFromUrl json (getDataSourceEnabledUrl json location (some value)) = value := by
  refine getDataSourceFromUrl_of_get hdoc ?_
  rw [searchParams_enabledUrl, SearchParams.get_set_self]

theorem getDataSourceFromUrl_congr {location other : Location} (h : location.query = other.query) :
    getDataSourceFromUrl json location = getDataSourceFromUrl json other := by
  rw [getDataSourceFromUrl, getDataSourceFromUrl, Location.searchParams, Location.searchParams, h]

theorem getDataSourceFromUrl_of_absent (hdoc : json.Documented) {location : Location}
    (h : location.searchParams.get DATASOURCEURLKEY = none) :
    getDataSourceFromUrl json location = json.empty := by
  simp only [getDataSourceFromUrl, h, hdoc.parse_braces]

/-- No data source is written to the URL as a text that is no JSON. -/
theorem getDataSourceFromUrl_undefined (hdoc : json.Documented) (location : Location) :
    getDataSourceFromUrl json (getDataSourceEnabledUrl json location none) = json.empty := by
  have hget : (getDataSourceEnabledUrl json location none).searchParams.get DATASOURCEURLKEY =
      some "undefined" := by
    rw [getDataSourceEnabledUrl, Location.searchParams_withSearchParams, SearchParams.get_set_self]
  have hne : ("undefined" : String) ≠ "" := by decide
  simp only [getDataSourceFromUrl, hget, if_neg hne, hdoc.parse_undefined]

/-! ## Default paths -/

/-- The path names the data source. -/
def Names (defaultPath : String) (value : json.Value) : Prop :=
  ∃ params : SearchParams, defaultPath = "?" ++ String.ofList (formSerialize params) ∧
    params.get DATASOURCEURLKEY = some (json.stringify value)

theorem names_updated (location : Location) :
    Names (updateDefaultRouteOfSecurityApplications json location)
      (getDataSourceFromUrl json location) := by
  refine ⟨_, rfl, ?_⟩
  rw [searchParams_enabledUrl, SearchParams.get_set_self]

theorem isSegment_path (setup : Setup) (app : App) : ∀ segment ∈ setup.path app, IsSegment segment := by
  intro segment hsegment
  rcases List.mem_append.mp hsegment with hbase | hown
  · exact setup.isSegment segment hbase
  · rcases List.mem_cons.mp hown with rfl | hid
    · exact ⟨by decide, by decide, by decide, by decide⟩
    · rw [List.mem_singleton.mp hid]
      cases app <;> exact ⟨by decide, by decide, by decide, by decide⟩

theorem path_ne_nil (setup : Setup) (app : App) : setup.path app ≠ [] :=
  List.append_ne_nil_of_right_ne_nil _ (List.cons_ne_nil _ _)

/-- An application with a default path finds its data source in its URL. -/
theorem getDataSourceFromUrl_named (hdoc : json.Documented) (setup : Setup) (page : Location)
    (app : App) {defaultPath : String} {value : json.Value} (h : Names defaultPath value) :
    getDataSourceFromUrl json (page.resolve (pathText (setup.path app) ++ defaultPath.toList)) =
      value := by
  obtain ⟨params, rfl, hget⟩ := h
  refine getDataSourceFromUrl_of_get hdoc ?_
  have hquery : ∀ c ∈ formSerialize params, inQuerySet c = false := inQuerySet_of_formSerialize
  have hhash : '#' ∉ formSerialize params := by
    intro hmem
    have hplain := hquery '#' hmem
    revert hplain
    decide
  have hend : Location.IsHash [] := Or.inl rfl
  have hresolved := (Location.resolve_query page (path_ne_nil setup app) (isSegment_path setup app)
    hhash hend).2
  rw [List.append_nil, percentEncode_of_plain hquery] at hresolved
  have htext : ("?" ++ String.ofList (formSerialize params)).toList =
      '?' :: formSerialize params := by
    simp
  rw [htext, Location.searchParams, hresolved, Option.map_some, Option.getD_some,
    formParse_formSerialize]
  exact hget

/-- Without a default path there is no data source in the URL. -/
theorem getDataSourceFromUrl_bare (hdoc : json.Documented) (setup : Setup) (page : Location)
    (app : App) :
    getDataSourceFromUrl json (page.resolve (pathText (setup.path app) ++ "".toList)) =
      json.empty := by
  have hend : Location.IsHash "".toList := Or.inl rfl
  have hresolved := (Location.resolve_path page (path_ne_nil setup app) (isSegment_path setup app)
    hend).2
  refine getDataSourceFromUrl_of_absent hdoc ?_
  rw [Location.searchParams, hresolved]
  rfl

/-- The data source in the URL of an application that is opened. -/
theorem getDataSourceFromUrl_opened (hdoc : json.Documented) (setup : Setup) (page : Location)
    (app : App) {defaultPath : String} {choice : Choice json} (h : Names defaultPath choice.last) :
    getDataSourceFromUrl json (page.resolve (pathText (setup.path app) ++
      (if app.updater then defaultPath else "").toList)) = choice.start app := by
  rw [Choice.start]
  split_ifs
  · exact getDataSourceFromUrl_named hdoc setup page app h
  · exact getDataSourceFromUrl_bare hdoc setup page app

/-! ## Runs -/

section Runs

/-- The default paths name the data source that was chosen last, and the application on the screen has
the current choice in its state and in the URL. -/
structure Agrees (tab : Tab json) (choice : Choice json) : Prop where
  defaultPath : Names tab.defaultPath choice.last
  screen : ∀ screen, tab.screen = some screen →
    screen.dataSource = choice.current ∧
      getDataSourceFromUrl json tab.location = choice.current.getD json.empty

variable {setup : Setup} {tab : Tab json} {choice : Choice json}

theorem agrees_load (location : Location) (app : Option App) (tenantList : Bool) :
    @Agrees json (.load setup location app tenantList) (.ofUrl location) := by
  refine ⟨names_updated location, fun screen hscreen => ?_⟩
  obtain ⟨shown, -, rfl⟩ := Option.map_eq_some_iff.mp hscreen
  exact ⟨rfl, rfl⟩

theorem query_hash (page : Location) (fragment : List Char) :
    (page.resolve ('#' :: fragment)).query = page.query := by
  have hcut : cut '#' ('#' :: fragment) = ([], some fragment) :=
    @cut_append '#' [] List.not_mem_nil fragment
  have hquestion : cut '?' ([] : List Char) = ([], none) := rfl
  simp [Location.resolve, hcut, hquestion]

/-- While the application works on the data source chosen last, this one is the current choice. -/
theorem Agrees.current_of_worksOn (h : Agrees tab choice) (hworks : tab.WorksOn choice.last) :
    choice.current = some choice.last := by
  obtain ⟨screen, hscreen, hlast⟩ := hworks
  rw [← (h.screen screen hscreen).1]
  exact hlast

/-- An application that is mounted starts with the data source of its URL. -/
theorem screen_openApp {app : App} (hopens : setup.opens app = true) (hshows : tab.shows app = false) :
    (tab.openApp setup app).screen = some
      { app
        dataSource := some (getDataSourceFromUrl json (tab.openApp setup app).location)
        tenantList := app.startsWithTenants } := by
  simp only [Tab.openApp, if_pos hopens, hshows, Bool.false_eq_true, if_false]

theorem location_openApp {app : App} (hopens : setup.opens app = true) :
    (tab.openApp setup app).location = tab.location.resolve (pathText (setup.path app) ++
      (if app.updater then tab.defaultPath else "").toList) := by
  simp only [Tab.openApp, if_pos hopens]

theorem defaultPath_openApp (app : App) :
    (tab.openApp setup app).defaultPath = tab.defaultPath := by
  rw [Tab.openApp]
  split_ifs <;> rfl

/-- An application that is opened finds the data source that it is meant to start with. -/
theorem Agrees.url_openApp (hdoc : json.Documented) (h : Agrees tab choice) {app : App}
    (hopens : setup.opens app = true) :
    getDataSourceFromUrl json (tab.openApp setup app).location = choice.start app := by
  rw [location_openApp hopens]
  exact getDataSourceFromUrl_opened hdoc setup tab.location app h.defaultPath

theorem Agrees.openApp (hdoc : json.Documented) (h : Agrees tab choice) {app : App}
    (hkeeps : Event.Keeps setup tab choice (.openApp app)) :
    Agrees (tab.openApp setup app) (choice.next setup tab (.openApp app)) := by
  rw [Choice.next]
  by_cases hopens : setup.opens app = true
  · have hurl := h.url_openApp hdoc hopens
    cases hshows : tab.shows app with
    | false =>
      rw [if_pos (by rw [hopens]; rfl)]
      refine ⟨(defaultPath_openApp app).symm ▸ h.defaultPath, fun screen hscreen => ?_⟩
      rw [screen_openApp hopens hshows] at hscreen
      cases hscreen
      exact ⟨congrArg some hurl, hurl⟩
    | true =>
      -- Only the URL changes, and it names what the application works on.
      obtain ⟨hupdater, hworks⟩ := hkeeps hopens hshows
      have hcurrent := h.current_of_worksOn hworks
      rw [if_neg (by simp)]
      refine ⟨(defaultPath_openApp app).symm ▸ h.defaultPath, fun screen hscreen => ?_⟩
      simp only [Tab.openApp, if_pos hopens, if_pos hshows] at hscreen
      refine ⟨(h.screen screen hscreen).1, ?_⟩
      rw [hurl, hcurrent, Choice.start, if_pos hupdater, Option.getD_some]
  · rw [Tab.openApp, if_neg hopens, if_neg (by simp [hopens])]
    exact h

theorem Agrees.pick (hdoc : json.Documented) (h : Agrees tab choice) {dataSources : List json.Value}
    (hkeeps : Event.Keeps setup tab choice (.pick dataSources)) :
    Agrees (tab.step setup (.pick dataSources)) (choice.next setup tab (.pick dataSources)) := by
  simp only [Tab.step, Choice.next]
  cases hscreen : tab.screen with
  | none => exact h
  | some screen =>
    have hlist : screen.tenantList = false := hkeeps screen hscreen
    cases dataSources with
    | nil =>
      have hurl := getDataSourceFromUrl_undefined hdoc tab.location
      refine ⟨h.defaultPath, fun picked hpicked => ?_⟩
      simp only [Tab.pick, List.head?_nil, hlist, Bool.false_eq_true, if_false] at hpicked
      cases hpicked
      exact ⟨rfl, hurl⟩
    | cons dataSource rest =>
      have hurl := getDataSourceFromUrl_enabledUrl hdoc tab.location dataSource
      have hnames := @names_updated json (getDataSourceEnabledUrl json tab.location (some dataSource))
      rw [hurl] at hnames
      refine ⟨hnames, fun picked hpicked => ?_⟩
      simp only [Tab.pick, List.head?_cons, hlist, Bool.false_eq_true, if_false] at hpicked
      cases hpicked
      exact ⟨rfl, hurl⟩

theorem Agrees.step (hdoc : json.Documented) (h : Agrees tab choice) {event : Event json}
    (hkeeps : event.Keeps setup tab choice) :
    Agrees (tab.step setup event) (choice.next setup tab event) := by
  cases event with
  | load location app tenantList => exact agrees_load location app tenantList
  | openApp app => exact h.openApp hdoc hkeeps
  | leave location => exact ⟨h.defaultPath, fun _ hscreen => by cases hscreen⟩
  | hash fragment tenantList =>
    refine ⟨h.defaultPath, fun screen hscreen => ?_⟩
    obtain ⟨before, hbefore, rfl⟩ := Option.map_eq_some_iff.mp hscreen
    obtain ⟨hcurrent, hurl⟩ := h.screen before hbefore
    exact ⟨hcurrent, (getDataSourceFromUrl_congr (query_hash tab.location fragment)).trans hurl⟩
  | pick dataSources => exact h.pick hdoc hkeeps
  | updateApps =>
    have hcurrent := h.current_of_worksOn hkeeps
    obtain ⟨screen, hscreen, -⟩ := hkeeps
    have hurl := (h.screen screen hscreen).2
    rw [hcurrent, Option.getD_some] at hurl
    have hnames := @names_updated json tab.location
    rw [hurl] at hnames
    exact ⟨hnames, h.screen⟩

/-- Over any run that keeps to the condition, the page works on the data source that was chosen last, and
its URL says so; and every application that is opened starts with it, if it has an updater. -/
theorem Tab.pages_use_chosen (hdoc : json.Documented) (setup : Setup) (location : Location)
    (app : Option App) (tenantList : Bool) (events : List (Event json))
    (hkeeps : Machine.Meets (next setup) (fun event state => event.Keeps setup state.1 state.2) events
      (first setup location app tenantList)) {tab : Tab json} {choice : Choice json}
    (hrun : Machine.exec (next setup) events (first setup location app tenantList) = (tab, choice)) :
    (∀ screen, tab.screen = some screen →
        screen.pageDataSource =
            (if screen.tenantList then some json.LocalCluster else choice.current) ∧
          getDataSourceFromUrl json tab.location = choice.current.getD json.empty) ∧
      ∀ opened, setup.opens opened = true → tab.shows opened = false →
        ∃ screen, (tab.openApp setup opened).screen = some screen ∧ screen.app = opened ∧
          screen.pageDataSource =
            some (if opened = .tenants then json.LocalCluster else choice.start opened) ∧
          getDataSourceFromUrl json (tab.openApp setup opened).location = choice.start opened := by
  have hagrees := Machine.exec_of_meets
    (fun state : Tab json × Choice json => Agrees state.1 state.2)
    (fun event state hevent h => h.step hdoc hevent) hkeeps (agrees_load location app tenantList)
  rw [hrun] at hagrees
  refine ⟨fun screen hscreen => ?_, fun opened hopens hshows => ?_⟩
  · obtain ⟨hcurrent, hurl⟩ := hagrees.screen screen hscreen
    exact ⟨by rw [Screen.pageDataSource, hcurrent], hurl⟩
  · have hurl := hagrees.url_openApp hdoc hopens
    refine ⟨_, screen_openApp hopens hshows, rfl, ?_, hurl⟩
    rw [Screen.pageDataSource, hurl, App.startsWithTenants]
    by_cases htenants : opened = .tenants
    · simp [htenants]
    · simp [htenants]

end Runs

namespace Sample

inductive Source where
  | nothing
  | localCluster
  | east
  | west
deriving DecidableEq

def Source.text : Source → String
  | nothing => "\x7b\x7d"
  | localCluster => "\x7b\x22label\x22:\x22Local cluster\x22,\x22id\x22:\x22\x22\x7d"
  | east => "\x7b\x22id\x22:\x22east\x22\x7d"
  | west => "\x7b\x22id\x22:\x22west\x22\x7d"

def sources : JsonApi where
  Value := Source
  empty := .nothing
  LocalCluster := .localCluster
  parse text := [Source.nothing, .localCluster, .east, .west].find? (·.text = text)
  stringify := Source.text

theorem sources_documented : sources.Documented where
  parse_stringify value := by cases value <;> rfl
  parse_braces := rfl
  parse_undefined := rfl
  parse_nothing := rfl

def setup : Setup where
  navGroupEnabled := true
  multitenancyEnabled := true
  resourceSharingEnabled := false
  apiPermission := true
  isReadonly := false
  basePath := []
  isSegment := by simp

def rolesPage : Location :=
  Location.root.resolve "/app/security-dashboards-plugin_roles?space=a#/roles".toList

/-- On the roles page data sources are picked, at last none; the users are opened from another
application. -/
def picks : List (Event sources) :=
  [.pick [Source.west], .hash "/roles/view/admin".toList false, .pick [Source.east], .pick [],
    .leave Location.root]

theorem picks_keep : Machine.Meets (next setup)
    (fun event state => event.Keeps setup state.1 state.2) picks
    (first setup rolesPage (some .roles) false) := by
  refine ⟨?_, trivial, ?_, ?_, trivial, trivial⟩
  all_goals
    intro screen hscreen
    cases Option.some.inj hscreen
    rfl

theorem users_of_east :
    ∃ screen, ((Machine.exec (next setup) picks
        (first setup rolesPage (some .roles) false)).1.openApp setup .users).screen = some screen ∧
      screen.app = .users ∧ screen.pageDataSource = some Source.east := by
  obtain ⟨-, hopened⟩ := Tab.pages_use_chosen sources_documented setup rolesPage (some .roles) false
    picks picks_keep rfl
  obtain ⟨screen, hscreen, happ, hsource, -⟩ := hopened .users rfl rfl
  exact ⟨screen, hscreen, happ, hsource⟩

end Sample

end DataSources

end SecurityDashboards
