import Mathlib.Data.List.Pairwise
import SecurityDashboards.PluginSetup
import SecurityDashboards.Proofs.AttemptsProofs
import SecurityDashboards.Proofs.SignInOptionsProofs

/-!
# Proofs: setting up the plugin

When the plugin can be set up, and that the cookies of its types are apart then: whatever is sent in
a split cookie was declared, and a type never touches the split cookies of another one.
-/

namespace SecurityDashboards

variable {core : CoreSetup} {server : Server} {cookie : CookieOptions}
  {declared declared' : core.http.State}

/-! ## The types -/

/-- The type can be constructed and connected. -/
def AuthType.Connects (core : CoreSetup) (authType : AuthType) : Prop :=
  authType = .openId → core.openIdConstructor = .ok () ∧ core.openIdMetadata = .ok ()

/-- Creating a type declares its split cookies, after what may fail before. -/
theorem create_ok_iff (authType : AuthType) :
    authType.create core server cookie declared = .ok declared' ↔
      authType.Connects core ∧
        core.http.registerAll declared (authType.cookieNames server)
          (extraCookieSettings server cookie) = .ok declared' := by
  have hconnects : authType ≠ .openId → authType.Connects core := fun h heq => absurd heq h
  cases authType with
  | basic => exact (and_iff_right (hconnects (by decide))).symm
  | proxy => exact (and_iff_right (hconnects (by decide))).symm
  | jwt => exact (and_iff_right (hconnects (by decide))).symm
  | saml => exact (and_iff_right (hconnects (by decide))).symm
  | openId =>
    simp only [AuthType.Connects, AuthType.create, OpenIdAuthentication.init,
      OpenIdAuthentication.connect, OpenIdAuthentication.createExtraStorage,
      SecurityDashboards.createExtraStorage, AuthType.cookieNames, AuthType.extraStorage,
      true_implies]
    cases core.openIdConstructor with
    | error e => exact iff_of_false (fun h => nomatch h) fun h => nomatch h.1.1
    | ok u =>
      cases core.openIdMetadata with
      | error e => exact iff_of_false (fun h => nomatch h) fun h => nomatch h.1.2
      | ok u' =>
        simp only [and_self, true_and]
        cases core.http.registerAll declared
            (OpenIdAuthentication.getExtraAuthStorageOptions server).cookieNames
            (extraCookieSettings server cookie) with
        | error e => exact iff_of_false (fun h => nomatch h) fun h => nomatch h
        | ok t => exact Iff.rfl

/-- A list with an element that is added to its end, unless it is there. -/
def addAbsent (types : List AuthType) (authType : AuthType) : List AuthType :=
  if authType ∈ types then types else types ++ [authType]

theorem foldl_addAbsent (types : List AuthType) : types.foldl addAbsent [] = types.eraseDups := by
  induction types using List.reverseRecOn with
  | nil => rfl
  | append_singleton types authType ih =>
    rw [List.foldl_append, ih, List.eraseDups_append, List.foldl_cons, List.foldl_nil]
    simp only [addAbsent, List.mem_eraseDups]
    by_cases hmem : authType ∈ types
    · simp [List.removeAll, hmem]
    · simp [List.removeAll, hmem, List.eraseDups_cons]

/-- A round of the loop over the configured types. -/
theorem addHandler_ok_iff {handlers handlers' : List AuthType × core.http.State} {text : String} :
    MultipleAuthentication.addHandler core server cookie handlers text = .ok handlers' ↔
      ∃ authType, handlerFor server.runtime text = .ok authType ∧ authType.Connects core ∧
        core.http.registerAll handlers.2 (authType.cookieNames server)
          (extraCookieSettings server cookie) = .ok handlers'.2 ∧
        handlers'.1 = addAbsent handlers.1 authType := by
  unfold MultipleAuthentication.addHandler handlerFor
  cases AuthType.ofKey (server.runtime.toLowerCase text) with
  | none => exact iff_of_false (fun h => nomatch h) fun ⟨_, h, _⟩ => nomatch h
  | some authType =>
    simp only [Except.ok.injEq, exists_eq_left']
    rw [Except.bind_eq_ok_iff]
    constructor
    · rintro ⟨declared, hcreate, h⟩
      cases h
      obtain ⟨hconnects, hregister⟩ := (create_ok_iff authType).mp hcreate
      exact ⟨hconnects, hregister, rfl⟩
    · rintro ⟨hconnects, hregister, hhandlers⟩
      exact ⟨handlers'.2, (create_ok_iff authType).mpr ⟨hconnects, hregister⟩,
        congrArg Except.ok (Prod.ext hhandlers.symm rfl)⟩

/-- The loop declares the split cookies of one type after the other. -/
theorem foldlM_addHandler_ok_iff {handlers handlers' : List AuthType × core.http.State}
    {texts : List String} :
    texts.foldlM (MultipleAuthentication.addHandler core server cookie) handlers = .ok handlers' ↔
      ∃ types, texts.mapM (handlerFor server.runtime) = .ok types ∧
        (∀ authType ∈ types, authType.Connects core) ∧
        core.http.registerAll handlers.2 (types.flatMap (AuthType.cookieNames server))
          (extraCookieSettings server cookie) = .ok handlers'.2 ∧
        handlers'.1 = types.foldl addAbsent handlers.1 := by
  induction texts generalizing handlers with
  | nil =>
    constructor
    · intro h
      cases h
      exact ⟨[], rfl, List.forall_mem_nil _, rfl, rfl⟩
    · rintro ⟨types, htypes, -, hregister, hhandlers⟩
      cases htypes
      have hdeclared : handlers.2 = handlers'.2 := Except.ok.inj hregister
      exact congrArg Except.ok (Prod.ext hhandlers.symm hdeclared)
  | cons text texts ih =>
    rw [List.foldlM_cons, List.mapM_cons, Except.bind_eq_ok_iff]
    constructor
    · rintro ⟨middle, hfirst, h⟩
      obtain ⟨types, htypes, hconnects, hregister, hhandlers⟩ := ih.mp h
      obtain ⟨authType, hkey, hconnects', hregister', hmiddle⟩ := addHandler_ok_iff.mp hfirst
      refine ⟨authType :: types, ?_, List.forall_mem_cons.mpr ⟨hconnects', hconnects⟩, ?_, ?_⟩
      · rw [hkey, htypes]
        rfl
      · rw [List.flatMap_cons, Registry.registerAll_append, hregister']
        exact hregister
      · rw [hhandlers, hmiddle, List.foldl_cons]
    · rintro ⟨types, htypes, hconnects, hregister, hhandlers⟩
      obtain ⟨authType, hkey, htypes⟩ := Except.bind_eq_ok_iff.mp htypes
      obtain ⟨rest, hrest, htypes⟩ := Except.bind_eq_ok_iff.mp htypes
      cases htypes
      obtain ⟨hconnects', hconnects⟩ := List.forall_mem_cons.mp hconnects
      rw [List.flatMap_cons, Registry.registerAll_append] at hregister
      obtain ⟨middle, hregister', hregister⟩ := Except.bind_eq_ok_iff.mp hregister
      refine ⟨(addAbsent handlers.1 authType, middle), ?_, ?_⟩
      · exact addHandler_ok_iff.mpr ⟨authType, hkey, hconnects', hregister', rfl⟩
      · exact ih.mpr ⟨rest, hrest, hconnects, hregister, hhandlers⟩

/-- The types that are created for a configuration are those that it names. -/
theorem configuredTypes_eq_of_mapM {runtime : Runtime} {config : SecurityPluginConfig}
    {types : List AuthType} (h : config.auth.type.mapM (handlerFor runtime) = .ok types) :
    configuredTypes runtime config = types := by
  unfold configuredTypes
  generalize config.auth.type = texts at h
  induction texts generalizing types with
  | nil => cases h; rfl
  | cons text texts ih =>
    rw [List.mapM_cons] at h
    obtain ⟨authType, hkey, h⟩ := Except.bind_eq_ok_iff.mp h
    obtain ⟨rest, hrest, h⟩ := Except.bind_eq_ok_iff.mp h
    cases h
    have hof := handlerFor_eq_ok_iff.mp hkey
    have hne : runtime.toLowerCase text ≠ "" := hof ▸ key_ne_empty authType
    rw [List.filterMap_cons, if_neg hne, AuthType.ofKey_eq_some_iff.mpr hof, ih hrest]

theorem configuredTypes_single {runtime : Runtime} {config : SecurityPluginConfig} {text : String}
    (h : config.auth.type = [text]) :
    configuredTypes runtime config =
      (if runtime.toLowerCase text = "" then some .basic
        else AuthType.ofKey (runtime.toLowerCase text)).toList := by
  unfold configuredTypes
  rw [h, List.filterMap_cons, List.filterMap_nil]
  split
  · rename_i hnone
    rw [hnone]
    rfl
  · rename_i hsome
    rw [hsome]
    rfl

/-- A configuration with one type. -/
theorem getAuthenticationHandler_one {runtime : Runtime} {config : SecurityPluginConfig}
    {text : String} (h : config.auth.type = [text]) :
    getAuthenticationHandler runtime config =
      match (if runtime.toLowerCase text = "" then some AuthType.basic
          else AuthType.ofKey (runtime.toLowerCase text)) with
      | some authType => .ok (.single authType)
      | none => .error (.error ("Unsupported authentication type: " ++ text)) := by
  unfold getAuthenticationHandler
  rewrite [h]
  rfl

/-- A configuration with none or several types, if that is enabled. -/
theorem getAuthenticationHandler_several {runtime : Runtime} {config : SecurityPluginConfig}
    (h : ∀ text, config.auth.type ≠ [text]) (henabled : config.auth.multiple_auth_enabled = true) :
    getAuthenticationHandler runtime config =
      (MultipleAuthentication.init runtime config.auth.type).map .multiple := by
  unfold getAuthenticationHandler
  split
  · rename_i text htype
    exact absurd htype (h text)
  · exact if_pos henabled

/-- A configuration with none or several types gets the handlers of `init`, and their split cookies
are declared. -/
theorem initHandlers_ok_iff {authHandlers : List AuthType} :
    MultipleAuthentication.initHandlers core server cookie server.config.auth.type declared =
        .ok (authHandlers, declared') ↔
      MultipleAuthentication.init server.runtime server.config.auth.type = .ok authHandlers ∧
        (∀ authType ∈ configuredTypes server.runtime server.config, authType.Connects core) ∧
        core.http.registerAll declared (splitCookieNames server)
          (extraCookieSettings server cookie) = .ok declared' := by
  have hinit : MultipleAuthentication.init server.runtime server.config.auth.type =
      server.config.auth.type.mapM (handlerFor server.runtime) >>= fun types =>
        pure types.eraseDups := rfl
  unfold MultipleAuthentication.initHandlers splitCookieNames
  rw [foldlM_addHandler_ok_iff, hinit, Except.bind_eq_ok_iff]
  constructor
  · rintro ⟨types, htypes, hconnects, hregister, hhandlers⟩
    rw [configuredTypes_eq_of_mapM htypes]
    have heq : types.eraseDups = authHandlers := (hhandlers.trans (foldl_addAbsent types)).symm
    exact ⟨⟨types, htypes, congrArg Except.ok heq⟩, hconnects, hregister⟩
  · rintro ⟨⟨types, htypes, hhandlers⟩, hconnects, hregister⟩
    cases hhandlers
    rw [configuredTypes_eq_of_mapM htypes] at hconnects hregister
    exact ⟨types, htypes, hconnects, hregister, (foldl_addAbsent types).symm⟩

/-- The authentication of the server is the one that the configuration names, and its split cookies
are declared. -/
theorem createAuthentication_ok_iff {scheme : Scheme} :
    createAuthentication core server cookie declared = .ok (scheme, declared') ↔
      getAuthenticationHandler server.runtime server.config = .ok scheme ∧
        (∀ authType ∈ configuredTypes server.runtime server.config, authType.Connects core) ∧
        core.http.registerAll declared (splitCookieNames server)
          (extraCookieSettings server cookie) = .ok declared' := by
  unfold createAuthentication
  split
  · rename_i text htype
    unfold splitCookieNames
    rw [configuredTypes_single htype, getAuthenticationHandler_one htype]
    dsimp only
    cases (if server.runtime.toLowerCase text = "" then some AuthType.basic
      else AuthType.ofKey (server.runtime.toLowerCase text)) with
    | none => exact iff_of_false (fun h => by cases h) fun h => by cases h.1
    | some authType =>
      simp only [Option.toList_some, List.forall_mem_singleton, List.flatMap_cons, List.flatMap_nil,
        List.append_nil, ← create_ok_iff authType, Except.ok.injEq]
      cases authType.create core server cookie declared with
      | error e => exact iff_of_false (fun h => by cases h) fun h => by cases h.2
      | ok t =>
        constructor
        · intro h
          cases h
          exact ⟨rfl, rfl⟩
        · rintro ⟨rfl, h⟩
          cases h
          rfl
  · rename_i hmany
    by_cases henabled : server.config.auth.multiple_auth_enabled = true
    · rw [if_pos henabled, getAuthenticationHandler_several (fun text h => hmany text h) henabled,
        Except.bind_eq_ok_iff]
      constructor
      · rintro ⟨handlers, hhandlers, h⟩
        cases h
        obtain ⟨hinit, hrest⟩ := initHandlers_ok_iff.mp hhandlers
        exact ⟨congrArg (Except.map Scheme.multiple) hinit, hrest⟩
      · rintro ⟨hscheme, hrest⟩
        cases hinit : MultipleAuthentication.init server.runtime server.config.auth.type with
        | error e => rw [hinit] at hscheme; cases hscheme
        | ok authHandlers =>
          rw [hinit] at hscheme
          cases hscheme
          exact ⟨(authHandlers, declared'), initHandlers_ok_iff.mpr ⟨hinit, hrest⟩, rfl⟩
    · rw [if_neg henabled]
      refine iff_of_false (fun h => by cases h) fun h => ?_
      rcases starts_iff.mp ⟨scheme, h.1⟩ with ⟨text, htype, -⟩ | ⟨-, hon, -⟩
      · exact hmany text htype
      · exact henabled hon

/-! ## The set-up -/

section Setup

variable {config : SecurityPluginConfig} {scheme : Scheme}

/-- The session cookie is declared first, then the split cookies. -/
theorem setup_ok_iff :
    SecurityPlugin.setup core config cookie declared = .ok (scheme, declared') ↔
      getAuthenticationHandler core.runtime config = .ok scheme ∧
        (∀ authType ∈ configuredTypes core.runtime config, authType.Connects core) ∧
        ∃ between, core.http.createCookieSessionStorageFactory declared
            (getSecurityCookieOptions (SecurityPlugin.server core config) cookie) = .ok between ∧
          core.http.registerAll between (splitCookieNames (SecurityPlugin.server core config))
            (extraCookieSettings (SecurityPlugin.server core config) cookie) = .ok declared' := by
  unfold SecurityPlugin.setup
  rw [Except.bind_eq_ok_iff]
  constructor
  · rintro ⟨between, hbetween, h⟩
    obtain ⟨hscheme, hconnects, hregister⟩ := createAuthentication_ok_iff.mp h
    exact ⟨hscheme, hconnects, between, hbetween, hregister⟩
  · rintro ⟨hscheme, hconnects, between, hbetween, hregister⟩
    exact ⟨between, hbetween, createAuthentication_ok_iff.mpr ⟨hscheme, hconnects, hregister⟩⟩

/-- The plugin can be set up exactly if there is an authentication for the configuration, its types
can be connected, and no cookie is declared twice. -/
theorem setup_isOk_iff :
    (∃ started, SecurityPlugin.setup core config cookie declared = .ok started) ↔
      (∃ scheme, getAuthenticationHandler core.runtime config = .ok scheme) ∧
        (∀ authType ∈ configuredTypes core.runtime config, authType.Connects core) ∧
        (∃ between, core.http.createCookieSessionStorageFactory declared
          (getSecurityCookieOptions (SecurityPlugin.server core config) cookie) = .ok between) ∧
        (cookie.name :: splitCookieNames (SecurityPlugin.server core config)).Nodup ∧
        ∀ name ∈ splitCookieNames (SecurityPlugin.server core config),
          core.http.lookup declared name = none := by
  have hfree : ∀ between, core.http.createCookieSessionStorageFactory declared
      (getSecurityCookieOptions (SecurityPlugin.server core config) cookie) = .ok between →
      ((∃ declared', core.http.registerAll between
        (splitCookieNames (SecurityPlugin.server core config))
        (extraCookieSettings (SecurityPlugin.server core config) cookie) = .ok declared') ↔
      (cookie.name :: splitCookieNames (SecurityPlugin.server core config)).Nodup ∧
        ∀ name ∈ splitCookieNames (SecurityPlugin.server core config),
          core.http.lookup declared name = none) := by
    intro between hbetween
    obtain ⟨-, session, -, -, hsession⟩ := core.http.declares_session _ _ _ hbetween
    have hlookup : core.http.lookup between =
        Function.update (core.http.lookup declared) cookie.name (some session) := hsession
    have hsame : ∀ name, name ≠ cookie.name →
        core.http.lookup between name = core.http.lookup declared name := by
      intro name hname
      rw [hlookup]
      exact Function.update_of_ne hname _ _
    rw [Registry.registerAll_isOk_iff, List.nodup_cons]
    constructor
    · rintro ⟨hnodup, hnew⟩
      have hname : cookie.name ∉ splitCookieNames (SecurityPlugin.server core config) := by
        intro hmem
        have htaken := hnew _ hmem
        rw [hlookup, Function.update_self] at htaken
        cases htaken
      refine ⟨⟨hname, hnodup⟩, fun name hmem => ?_⟩
      rw [← hsame name fun heq => hname (heq ▸ hmem)]
      exact hnew name hmem
    · rintro ⟨⟨hname, hnodup⟩, hnew⟩
      refine ⟨hnodup, fun name hmem => ?_⟩
      rw [hsame name fun heq => hname (heq ▸ hmem)]
      exact hnew name hmem
  constructor
  · rintro ⟨⟨scheme, declared'⟩, h⟩
    obtain ⟨hscheme, hconnects, between, hbetween, hregister⟩ := setup_ok_iff.mp h
    exact ⟨⟨scheme, hscheme⟩, hconnects, ⟨between, hbetween⟩,
      (hfree between hbetween).mp ⟨declared', hregister⟩⟩
  · rintro ⟨⟨scheme, hscheme⟩, hconnects, ⟨between, hbetween⟩, hnames⟩
    obtain ⟨declared', hregister⟩ := (hfree between hbetween).mpr hnames
    exact ⟨(scheme, declared'),
      setup_ok_iff.mpr ⟨hscheme, hconnects, between, hbetween, hregister⟩⟩

/-- What the set-up declares. -/
theorem declared_of_setup
    (h : SecurityPlugin.setup core config cookie declared = .ok (scheme, declared')) :
    ∃ session, core.http.lookup declared' cookie.name = some session ∧
      session.isSecure = isCookieSecure (SecurityPlugin.server core config) ∧
      session.password = cookie.password ∧
      ∀ name ∈ splitCookieNames (SecurityPlugin.server core config), name ≠ cookie.name ∧
        core.http.lookup declared' name =
          some (extraCookieSettings (SecurityPlugin.server core config) cookie) := by
  have hnodup := (setup_isOk_iff.mp ⟨_, h⟩).2.2.2.1
  obtain ⟨-, -, between, hbetween, hregister⟩ := setup_ok_iff.mp h
  obtain ⟨-, session, hsecure, hpassword, hlookup⟩ := core.http.declares_session _ _ _ hbetween
  have hname := (List.nodup_cons.mp hnodup).1
  refine ⟨session, ?_, hsecure, hpassword, fun name hmem => ⟨fun heq => hname (heq ▸ hmem), ?_⟩⟩
  · rw [Registry.lookup_registerAll hregister, if_neg hname, hlookup]
    exact Function.update_self _ _ _
  · rw [Registry.lookup_registerAll hregister, if_pos hmem]

theorem mem_configuredTypes {authType : AuthType}
    (hscheme : getAuthenticationHandler core.runtime config = .ok scheme)
    (h : authType ∈ scheme.types) : authType ∈ configuredTypes core.runtime config := by
  rcases (mem_types_iff hscheme authType).mp h with ⟨text, hmem, hkey⟩ | ⟨text, htype, hempty, rfl⟩
  · refine List.mem_filterMap.mpr ⟨text, hmem, ?_⟩
    rw [if_neg (hkey ▸ key_ne_empty authType), AuthType.ofKey_eq_some_iff.mpr hkey]
  · refine List.mem_filterMap.mpr ⟨text, ?_, if_pos hempty⟩
    rw [htype]
    exact List.mem_singleton_self text

/-- No two types of a server that was set up have a split cookie in common. -/
theorem cookieNames_disjoint {authType authType' : AuthType}
    (h : SecurityPlugin.setup core config cookie declared = .ok (scheme, declared'))
    (hmem : authType ∈ scheme.types) (hmem' : authType' ∈ scheme.types)
    (hne : authType ≠ authType') :
    (authType.cookieNames (SecurityPlugin.server core config)).Disjoint
      (authType'.cookieNames (SecurityPlugin.server core config)) := by
  have hnodup := (List.nodup_cons.mp (setup_isOk_iff.mp ⟨_, h⟩).2.2.2.1).2
  have hscheme := (setup_ok_iff.mp h).1
  have hpairwise := (List.nodup_flatMap.mp hnodup).2
  have : Std.Symm (Function.onFun List.Disjoint
      (AuthType.cookieNames (SecurityPlugin.server core config))) := ⟨fun _ _ h => List.disjoint_symm h⟩
  exact hpairwise.forall (mem_configuredTypes hscheme hmem) (mem_configuredTypes hscheme hmem') hne

/-- Of the configurations that the schema accepts, the plugin is set up with those that name no type
without an implementation, and with several types only if that is enabled and none of them is empty;
if the IdP of the OpenID type answers; and if no two cookies have the same name. So a type with split
cookies is named only once. -/
theorem accepted_options_set_up_iff (hlower : KeepsText core.runtime) {options : AuthOptions}
    (htype : config.auth.type = options.types)
    (hvalid : validateAuthOptions core.runtime options = .ok ()) :
    (∃ started, SecurityPlugin.setup core config cookie declared = .ok started) ↔
      ((∀ text ∈ options.types, core.runtime.toLowerCase text ∉ ["kerberos", "proxycache"]) ∧
        (options.types.length = 1 ∨
          config.auth.multiple_auth_enabled = true ∧ "" ∉ options.types)) ∧
      (∀ authType ∈ configuredTypes core.runtime config, authType.Connects core) ∧
      (∃ between, core.http.createCookieSessionStorageFactory declared
        (getSecurityCookieOptions (SecurityPlugin.server core config) cookie) = .ok between) ∧
      (cookie.name :: splitCookieNames (SecurityPlugin.server core config)).Nodup ∧
      ∀ name ∈ splitCookieNames (SecurityPlugin.server core config),
        core.http.lookup declared name = none := by
  rw [setup_isOk_iff, accepted_options_start_iff hlower htype hvalid]

end Setup

/-! ## A sample -/

namespace Sample

/-- The settings of a session cookie. -/
def sessionState (options : SessionStorageCookieOptions) : ServerStateCookieOptions where
  isSecure := options.isSecure
  isSameSite := options.sameSite
  password := options.encryptionKey
  domain := none
  path := "/"
  clearInvalid := false
  isHttpOnly := true
  ignoreErrors := true
  encoding := "iron"

theorem lookup_declare (declared : List (String × ServerStateCookieOptions)) (name : String)
    (options : ServerStateCookieOptions) :
    (fun other => ((name, options) :: declared).lookup other) =
      Function.update (fun other => declared.lookup other) name (some options) := by
  funext other
  by_cases hother : other = name
  · subst hother
    rw [List.lookup_cons_self, Function.update_self]
  · rw [Function.update_of_ne hother, List.lookup_cons, beq_eq_false_iff_ne.mpr hother]

/-- An HTTP server that lists the cookies that are declared, the latest first. -/
def http : HttpServer where
  State := List (String × ServerStateCookieOptions)
  lookup declared name := declared.lookup name
  register declared name options :=
    if (declared.lookup name).isSome then .error (.error ("State already defined: " ++ name))
    else .ok ((name, options) :: declared)
  register_taken declared name options h := ⟨_, if_pos h⟩
  register_free declared name options h :=
    ⟨(name, options) :: declared, if_neg (by rw [h]; decide), lookup_declare declared name options⟩
  createCookieSessionStorageFactory declared options :=
    if (declared.lookup options.name).isSome then
      .error (.error ("State already defined: " ++ options.name))
    else .ok ((options.name, sessionState options) :: declared)
  declares_session declared options declared' h := by
    split at h
    · cases h
    · rename_i hfree
      cases h
      exact ⟨Option.not_isSome_iff_eq_none.mp hfree, sessionState options, rfl, rfl,
        lookup_declare declared options.name (sessionState options)⟩

/-- A server that is reached by TLS. -/
def tlsCore : CoreSetup where
  http := http
  runtime := runtime
  platform := platform
  serverInfo := { protocol := "https" }

def threeTypesServer : Server := SecurityPlugin.server tlsCore threeTypesConfig

/-- The cookies of the server with three types. -/
def threeTypesDeclared : tlsCore.http.State :=
  (splitCookieNames threeTypesServer).reverse.map
      (fun name => (name, extraCookieSettings threeTypesServer {})) ++
    [("security_authentication", sessionState (getSecurityCookieOptions threeTypesServer {}))]

theorem three_types_set_up :
    SecurityPlugin.setup tlsCore threeTypesConfig {} [] =
      .ok (threeTypesScheme, threeTypesDeclared) :=
  rfl

/-- The eleventh split cookie of the JWT type has the name of the first one of the SAML type. -/
def clashingConfig : SecurityPluginConfig :=
  { threeTypesConfig with
    jwt := some { extra_storage := ⟨"extra", 11⟩ }
    saml := { extra_storage := ⟨"extra1", 1⟩ } }

theorem three_types_set_up_unless_clashing :
    (∃ started, SecurityPlugin.setup tlsCore threeTypesConfig {} [] = .ok started) ∧
      ¬∃ started, SecurityPlugin.setup tlsCore clashingConfig {} [] = .ok started := by
  have hvalid : validateAuthOptions tlsCore.runtime (.array threeTypes) = .ok () := rfl
  constructor
  · refine (accepted_options_set_up_iff keepsText rfl hvalid).mpr ⟨⟨by decide, Or.inr ⟨rfl, by decide⟩⟩,
      fun _ _ _ => ⟨rfl, rfl⟩, ⟨_, rfl⟩, by decide, fun _ _ => rfl⟩
  · intro h
    have hnames := ((accepted_options_set_up_iff keepsText rfl hvalid).mp h).2.2.2.1
    exact absurd hnames (by decide)

end Sample

end SecurityDashboards
