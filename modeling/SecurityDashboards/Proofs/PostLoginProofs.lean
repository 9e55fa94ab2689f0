import SecurityDashboards.PostLogin
import SecurityDashboards.Proofs.AuthHandlerProofs
import SecurityDashboards.Proofs.LoginFlowProofs
import SecurityDashboards.Proofs.SessionWritesProofs

/-!
# Proofs: where logins lead is validated, but for two routes

Every route checks its `nextUrl` or passes on one that another route has checked, except the
anonymous login and the pages that append the hash.
-/

namespace SecurityDashboards

open Whatwg UrlEncoding

/-! ## Paths of URLs -/

theorem isSegment_of_name {segment : List Char}
    (h : ∀ c ∈ segment, isNextUrlChar c = true ∧ c ≠ '/') : IsSegment segment := by
  have hlt : ∀ {c : Char}, isNextUrlChar c = true → c.toNat < 128 := by
    intro c hc
    simp only [isNextUrlChar, Bool.or_eq_true, decide_eq_true_eq] at hc
    rcases hc with ((hc | rfl) | rfl) | rfl
    · exact isAlphanum_lt hc
    all_goals decide
  have hplain : ∀ {c : Char}, isNextUrlChar c = true → c ≠ '/' →
      inPathSet c = false ∧ isSlash c = false := by
    intro c hc hslash
    exact ascii_forall (P := fun c => isNextUrlChar c = true → c ≠ '/' →
      inPathSet c = false ∧ isSlash c = false) (by decide) (hlt hc) hc hslash
  have hdot : afterDot segment = none := by
    unfold afterDot
    split
    · exact absurd (h '.' List.mem_cons_self).1 (by decide)
    · exact absurd (h '%' List.mem_cons_self).1 (by decide)
    · exact absurd (h '%' List.mem_cons_self).1 (by decide)
    · rfl
  refine ⟨?_, ?_, fun c hc => (hplain (h c hc).1 (h c hc).2).1,
    fun c hc => (hplain (h c hc).1 (h c hc).2).2⟩
  · rw [isSingleDot, hdot]
    rfl
  · rw [isDoubleDot, hdot]
    rfl

theorem pathText_eq_intercalate {path : List (List Char)} (hne : path ≠ []) :
    pathText path = '/' :: ['/'].intercalate path := by
  induction path with
  | nil => exact absurd rfl hne
  | cons first rest ih =>
    cases rest with
    | nil => simp [pathText]
    | cons second rest =>
      have hrest := ih (List.cons_ne_nil _ _)
      rw [pathText] at hrest
      rw [pathText, List.flatMap_cons, hrest, List.intercalate_cons_cons]
      simp

/-- What follows the base path in an accepted path. -/
theorem urlPath_of_nextPath {rest : String} (h : NextPath rest) : UrlPath rest := by
  rcases h with rfl | rfl | h
  · exact ⟨[], by simp, rfl⟩
  · exact ⟨[[]], by simpa using isSegment_nil, rfl⟩
  · have hchars := isNextUrlChar_of_nextPath (Or.inr (Or.inr h))
    obtain ⟨d, l, hs, -⟩ := isNextUrlPath_iff.mp h
    refine ⟨(d :: l).splitOn '/', fun segment hsegment => ?_, ?_⟩
    · refine isSegment_of_name fun c hc => ?_
      obtain ⟨hmem, hno⟩ := Js.of_mem_splitOnP segment hsegment c hc
      refine ⟨hchars c ?_, by simpa using hno⟩
      rw [hs]
      exact List.mem_cons_of_mem _ hmem
    · have hne : (d :: l).splitOn '/' ≠ [] := List.splitOnP_ne_nil _ _
      rw [pathText_eq_intercalate hne, List.intercalate_splitOn, ← hs, String.ofList_toList]

namespace UrlPath

variable {basePath rest : String}

theorem append (hbase : UrlPath basePath) (hrest : UrlPath rest) : UrlPath (basePath ++ rest) := by
  obtain ⟨base, hbase, rfl⟩ := hbase
  obtain ⟨path, hpath, rfl⟩ := hrest
  refine ⟨base ++ path, fun segment hs => ?_, ?_⟩
  · rcases List.mem_append.mp hs with hs | hs
    · exact hbase segment hs
    · exact hpath segment hs
  · rw [pathText, pathText, pathText, List.flatMap_append, String.ofList_append]

theorem noPathEnd (h : UrlPath basePath) : NoPathEnd basePath := by
  obtain ⟨base, hbase, rfl⟩ := h
  intro c hc
  rw [String.toList_ofList] at hc
  have hplain := mem_pathText hbase c hc
  refine ⟨?_, ?_⟩
  · rintro rfl
    revert hplain
    decide
  · rintro rfl
    revert hplain
    decide

/-- On the root of a server, such a path with a query or a hash leads to itself. -/
theorem pathname_resolve (h : UrlPath basePath) {tail : String} (htail : EndsPath tail) :
    (Location.root.resolve (clean (basePath ++ tail).toList)).pathname =
      if basePath = "" then "/" else basePath := by
  obtain ⟨path, hpath, rfl⟩ := h
  have hprintable := Location.printable_pathText hpath
  obtain ⟨tail', hclean, hend⟩ : ∃ tail', clean (String.ofList (pathText path) ++ tail).toList =
      pathText path ++ tail' ∧ ∀ c rest, tail' = c :: rest → c = '?' ∨ c = '#' := by
    rw [String.toList_append, String.toList_ofList]
    cases htl : tail.toList with
    | nil =>
      refine ⟨[], ?_, by simp⟩
      rw [List.append_nil, clean_of_plain hprintable]
    | cons c l =>
      have hc := htail c l htl
      obtain ⟨tail', htail'⟩ := Location.clean_append hprintable (plain_of_end hc).1 l
      refine ⟨c :: tail', htail', fun d rest hd => ?_⟩
      injection hd with hd
      rwa [← hd]
  have hresolve := Location.root.resolve_path_of_tail hpath hend
  rw [hclean, Location.pathname, hresolve]
  cases path with
  | nil => rfl
  | cons first rest =>
    have hne : String.ofList (pathText (first :: rest)) ≠ "" := by
      intro hempty
      have hchars := congrArg String.toList hempty
      rw [String.toList_ofList] at hchars
      cases hchars
    rw [if_neg (List.cons_ne_nil _ _), if_neg hne]

end UrlPath

/-! ## What follows a path -/

theorem endsPath_empty : EndsPath "" := fun c rest h => by cases h

theorem endsPath_nextUrl (value : String) : EndsPath ("?nextUrl=" ++ value) := by
  intro c rest h
  rw [String.toList_append] at h
  injection h with hc
  exact Or.inl hc.symm

theorem EndsPath.append {tail tail' : String} (h : EndsPath tail) (h' : EndsPath tail') :
    EndsPath (tail ++ tail') := by
  intro c rest hc
  rw [String.toList_append] at hc
  cases htl : tail.toList with
  | nil =>
    rw [htl, List.nil_append] at hc
    exact h' c rest hc
  | cons d l =>
    rw [htl, List.cons_append] at hc
    injection hc with hd
    rw [← hd]
    exact h d l htl

theorem endsPath_search (location : Location) : EndsPath location.search := by
  unfold Location.search
  split
  · exact endsPath_empty
  · exact endsPath_empty
  · intro c rest h
    rw [String.toList_ofList] at h
    injection h with hc
    exact Or.inl hc.symm

theorem endsPath_hash (location : Location) : EndsPath location.hash := by
  intro c rest h
  rcases isHash_hash location with hnil | ⟨text, htext⟩
  · rw [hnil] at h
    cases h
  · rw [htext] at h
    injection h with hc
    exact Or.inr hc.symm

theorem endsPath_searchWithTenant (location : Location) (savedTenant : Option String) :
    EndsPath (searchWithTenant location savedTenant) := by
  unfold searchWithTenant
  dsimp only
  split
  · split_ifs
    · exact endsPath_search location
    · intro c rest h
      rw [String.toList_ofList] at h
      injection h with hc
      exact Or.inl hc.symm
  · exact endsPath_search location

/-! ## What a checked query carries -/

theorem param_eq_head? (url : Url) (name : String) :
    url.param name = ((url.searchParams.filter (·.1 = name)).map Prod.snd).head? := by
  rw [Url.param]
  induction url.searchParams with
  | nil => rfl
  | cons param params ih =>
    obtain ⟨key, value⟩ := param
    by_cases hkey : key = name
    · rw [List.lookup_cons, List.filter_cons_of_pos (by simpa using hkey), hkey]
      simp
    · have hno : (name == key) = false := by simpa using fun h : name = key => hkey h.symm
      rw [List.lookup_cons, List.filter_cons_of_neg (by simpa using hkey), hno, ih]

section Checked

variable {setup : RouteSetup} {schema : QuerySchema} {url : Url}
  (hfield : ("nextUrl", nextUrlSchema setup.server) ∈ schema.fields)
  (haccepts : schema.accepts url = true)

include hfield haccepts

theorem checked_query : url.query "nextUrl" = .undefined ∨
    ∃ nextUrl, url.query "nextUrl" = .str nextUrl ∧ IsValidNextUrl setup (some nextUrl) := by
  rw [QuerySchema.accepts, Bool.and_eq_true, List.all_eq_true] at haccepts
  have hnext := haccepts.1 _ hfield
  cases hquery : url.query "nextUrl" with
  | undefined => exact Or.inl rfl
  | str nextUrl =>
    rw [hquery, nextUrlSchema_accepts_iff] at hnext
    exact Or.inr ⟨nextUrl, rfl, hnext⟩
  | array values =>
    rw [hquery] at hnext
    cases hnext

/-- A checked `nextUrl` is valid where the server reads it. -/
theorem checked_queryString : IsValidNextUrl setup (url.queryString "nextUrl") := by
  rcases checked_query hfield haccepts with hquery | ⟨nextUrl, hquery, hvalid⟩
  · rw [queryString_of_undefined hquery]
    rfl
  · rwa [queryString_of_query hquery]

/-- A checked `nextUrl` is valid where a page reads it. -/
theorem checked_param : IsValidNextUrl setup (url.param "nextUrl") := by
  rw [param_eq_head?]
  rcases checked_query hfield haccepts with hquery | ⟨nextUrl, hquery, hvalid⟩
  · unfold Url.query at hquery
    split at hquery
    · rename_i hnil
      rw [hnil]
      rfl
    · cases hquery
    · cases hquery
  · unfold Url.query at hquery
    split at hquery
    · cases hquery
    · rename_i s hs
      injection hquery with hs'
      rw [hs, hs']
      exact hvalid
    · cases hquery

end Checked

/-! ## The pages -/

theorem truthyString_iff {s : Option String} :
    truthyString s = true ↔ ∃ text, s = some text ∧ text ≠ "" := by
  cases s with
  | none => simp [truthyString]
  | some text => simp [truthyString]

theorem usableNextUrl_some {page : Location} {nextUrl : String}
    (h : usableNextUrl page = some nextUrl) : nextUrlOf page = some nextUrl ∧ nextUrl ≠ "" := by
  obtain ⟨hsome, husable⟩ := Option.filter_eq_some_iff.mp h
  simp only [Bool.and_eq_true, bne_iff_ne] at husable
  exact ⟨hsome, husable.1⟩

/-- A path that the parser leaves is the same behind the base path in every location with it. -/
theorem path_of_pathname {page : Location} {base path : List (List Char)}
    (hbase : ∀ segment ∈ base ++ path, IsSegment segment)
    (h : page.pathname = String.ofList (pathText base) ++ String.ofList (pathText path)) :
    page.path = base ++ path := by
  have htext : pathText page.path = pathText (base ++ path) := by
    have hchars := congrArg String.toList h
    rw [Location.pathname, String.toList_append, String.toList_ofList, String.toList_ofList,
      String.toList_ofList] at hchars
    rw [hchars, pathText, pathText, pathText, List.flatMap_append]
  have hsplit := splitOnP_pathText page.isSegment isSegment_nil
  rw [htext, splitOnP_pathText hbase isSegment_nil] at hsplit
  injection hsplit with _ hpath
  exact hpath.symm

namespace IdpType

/-- The segments before the name of a route. -/
def directory : IdpType → List (List Char)
  | openId => ["auth".toList, "openid".toList]
  | saml => ["auth".toList, "saml".toList]

variable (idpType : IdpType)

theorem isSegment_directory : ∀ segment ∈ idpType.directory, IsSegment segment := by
  intro segment hs
  refine isSegment_of_name ?_
  cases idpType with
  | openId => revert segment; decide
  | saml => revert segment; decide

theorem capturePath_eq : idpType.capturePath =
    String.ofList (pathText (idpType.directory ++ ["captureUrlFragment".toList])) := by
  cases idpType <;> decide

theorem nextPath_login :
    NextPath (String.ofList (pathText (idpType.directory ++ ["login".toList]))) := by
  cases idpType <;> exact Or.inr (Or.inr (by decide))

end IdpType

section Pages

variable {setup : RouteSetup} (hbase : UrlPath setup.server.serverBasePath)

include hbase

theorem valid_behind_base {path tail : String} (hpath : NextPath path) (htail : EndsPath tail) :
    IsValidNextUrl setup (some (setup.server.serverBasePath ++ path ++ tail)) :=
  accepted_of_nextPath hbase.noPathEnd hpath htail

/-- The page that a valid `nextUrl` leads to has a valid path. -/
theorem pathname_of_valid {nextUrl : String} (hne : nextUrl ≠ "")
    (hvalid : IsValidNextUrl setup (some nextUrl)) (page : Location) :
    ∃ rest, (Location.root.resolve (clean (nextUrl ++ page.hash).toList)).pathname =
      setup.server.serverBasePath ++ rest ∧ NextPath rest := by
  obtain ⟨rest, hpath, hnext⟩ := (validateNextUrl_eq_none_iff hne).mp hvalid
  rw [Option.getD_some] at hpath
  obtain ⟨tail, htail, hend⟩ := urlPath_tail nextUrl
  have hsplit : nextUrl ++ page.hash =
      setup.server.serverBasePath ++ rest ++ (String.ofList tail ++ page.hash) := by
    rw [← String.append_assoc, ← hpath, ← String.ofList_toList (s := urlPath nextUrl),
      ← String.ofList_append, ← htail, String.ofList_toList]
  have hends : EndsPath (String.ofList tail ++ page.hash) := by
    refine EndsPath.append (fun c l h => ?_) (endsPath_hash page)
    rw [String.toList_ofList] at h
    exact hend c l h
  have hpathname := (hbase.append (urlPath_of_nextPath hnext)).pathname_resolve hends
  rw [hsplit, hpathname]
  by_cases hempty : setup.server.serverBasePath ++ rest = ""
  · obtain ⟨hbaseEmpty, -⟩ := String.append_eq_empty_iff.mp hempty
    rw [if_pos hempty, hbaseEmpty]
    exact ⟨"/", rfl, Or.inr (Or.inl rfl)⟩
  · rw [if_neg hempty]
    exact ⟨rest, rfl, hnext⟩

theorem passwordLogin_valid (page : Location) (savedTenant : Option String) (nav : Navigation) :
    AllValid setup (passwordLogin setup page savedTenant nav).1 := by
  intro departure hmem
  rw [passwordLogin] at hmem
  split_ifs at hmem with haccepts husable
  · obtain ⟨nextUrl, hnext⟩ := Option.isSome_iff_exists.mp husable
    obtain ⟨hparam, hne⟩ := usableNextUrl_some hnext
    have hvalid := checked_param List.mem_cons_self haccepts
    rw [nextUrlOf] at hparam
    rw [hparam] at hvalid
    obtain ⟨rest, hpathname, hrest⟩ := pathname_of_valid hbase hne hvalid page
    rw [List.mem_singleton.mp hmem, getNextPath, hnext, Option.getD_some]
    dsimp only
    rw [hpathname, String.append_assoc]
    exact valid_behind_base hbase hrest
      ((endsPath_searchWithTenant _ savedTenant).append (endsPath_hash _))
  · cases hmem
  · cases hmem

theorem loginButton_valid (idpType : IdpType) (page : Location) (nav : Navigation) :
    AllValid setup (loginButton setup idpType page nav).1 := by
  intro departure hmem
  rw [loginButton] at hmem
  split_ifs at hmem with haccepts husable
  · obtain ⟨nextUrl, hnext⟩ := Option.isSome_iff_exists.mp husable
    have hpath : NextPath idpType.capturePath := by
      cases idpType <;> exact Or.inr (Or.inr (by decide))
    rw [List.mem_singleton.mp hmem, extractNextUrlFromWindowLocation, hnext]
    exact valid_behind_base hbase hpath ((endsPath_nextUrl _).append (endsPath_hash page))
  · cases hmem
  · cases hmem

/-- The script of the capture page goes to the login route of its type. -/
theorem pathname_of_capture {idpType : IdpType} {page location : Location}
    (hpage : page.pathname = setup.server.serverBasePath ++ idpType.capturePath) {nextUrl : String}
    (hne : nextUrl ≠ "") (hnext : nextUrlOf page = some nextUrl) {stored : Option String}
    (hlocate : page.locate (captureUrlFragmentScript page stored).2 = some location) :
    ∃ path, location.pathname = setup.server.serverBasePath ++ path ∧ NextPath path := by
  obtain ⟨base, hsegments, hbaseEq⟩ := hbase
  have hall : ∀ segment ∈ base ++ (idpType.directory ++ ["captureUrlFragment".toList]),
      IsSegment segment := by
    intro segment hs
    rcases List.mem_append.mp hs with hs | hs
    · exact hsegments segment hs
    · rcases List.mem_append.mp hs with hs | hs
      · exact idpType.isSegment_directory segment hs
      · rw [List.mem_singleton.mp hs]
        exact isSegment_capture
  rw [hbaseEq, idpType.capturePath_eq] at hpage
  have hpath := path_of_pathname hall hpage
  obtain ⟨located, hlocated, hlogin, -⟩ := page.locate_of_name isSegment_login (by decide)
    (isQueryText_capture page nextUrl) (by decide) (captureScript_url hne hnext stored)
  rw [hlocated] at hlocate
  injection hlocate with hlocate
  refine ⟨String.ofList (pathText (idpType.directory ++ ["login".toList])), ?_,
    idpType.nextPath_login⟩
  rw [← hlocate, Location.pathname, hlogin, hpath, ← List.append_assoc, List.dropLast_concat,
    hbaseEq, ← String.ofList_append, List.append_assoc, pathText, pathText, pathText,
    List.flatMap_append]

theorem captureUrlFragment_valid (idpType : IdpType) (page : Location) (nav : Navigation) :
    AllValid setup (captureUrlFragment setup idpType page nav).1 := by
  intro departure hmem
  rw [captureUrlFragment] at hmem
  split_ifs at hmem with hshows htruthy
  · simp only [Option.mem_toList, Option.map_eq_some_iff] at hmem
    obtain ⟨location, hlocate, rfl⟩ := hmem
    obtain ⟨nextUrl, hnext, hne⟩ := truthyString_iff.mp htruthy
    obtain ⟨path, hpathname, hpath⟩ := pathname_of_capture hbase hshows.1 hne hnext hlocate
    have htext : String.ofList location.text =
        setup.server.serverBasePath ++ path ++ location.search := by
      rw [Location.text, String.ofList_append, String.ofList_toList, String.ofList_toList,
        hpathname]
    rw [htext]
    exact valid_behind_base hbase hpath (endsPath_search location)
  · cases hmem
  · cases hmem

end Pages

/-! ## Pending logins -/

/-- No session with a pending login is written. -/
def World.NoLogin (w : World) : Prop := ∀ cookie, w.session = some (some cookie) → cookie.NoLogin

/-- A handler that writes no pending login leaves none behind. -/
theorem noLogin_of_writes {α : Type} {x : Proc World JsError α}
    (h : Writes SecuritySessionCookie.NoLogin x) : (x.exec {}).2.NoLogin :=
  fun _ hcookie => h.run_empty hcookie

theorem callback_noLogin {setup : RouteSetup} {request : Request} :
    ((OpenIdAuthRoutes.callback setup request).exec {}).2.NoLogin :=
  noLogin_of_writes (Writes.callback.mono fun _ h => h.1)

theorem acs_noLogin {setup : RouteSetup} {request : Request} (samlResponse : String) :
    ((SamlAuthRoutes.acs setup request samlResponse).exec {}).2.NoLogin :=
  noLogin_of_writes (Writes.acs samlResponse fun body _ =>
    Writes.startSession body fun _ _ _ _ _ => ⟨rfl, rfl⟩)

/-! ## The anonymous login -/

section Anonymous

variable {setup : RouteSetup} {request : Request}

/-- The backend's answer says nothing about multitenancy, so no tenant is looked for. -/
theorem withTenantOfUser_of_authenticated {user : User} {w w' : World}
    (h : (authenticateWithHeaders setup request .empty).exec w = (.ok user, w'))
    (cookie : SecuritySessionCookie) : withTenantOfUser setup request user cookie = .ok cookie := by
  unfold authenticateWithHeaders at h
  obtain ⟨authInfo, _, -, h⟩ := Proc.exec_bind_ok h
  rw [Proc.exec_pure] at h
  injection h with h
  injection h with h
  rw [← h]
  rfl

variable (setup request)

theorem anonymousLogin_disabled (h : setup.server.config.auth.anonymous_auth_enabled = false) :
    (BasicAuthRoutes.anonymousLogin setup request).exec {} =
      (.ok (.backToLogin (setup.server.serverBasePath ++ LOGIN_PAGE_URI)), {}) := by
  rw [BasicAuthRoutes.anonymousLogin, if_neg (by simp [h])]
  rfl

/-- The session of an anonymous login. -/
def anonymousCookie (user : User) : SecuritySessionCookie where
  username := user.username
  authType := some BASIC
  isAnonymousAuth := true
  expiryTime := some (request.now + setup.server.config.session.ttl)

variable {setup request}

theorem anonymousLogin_failed (henabled : setup.server.config.auth.anonymous_auth_enabled = true)
    {e : JsError} {w : World}
    (h : (authenticateWithHeaders setup request .empty).exec {} = (.error e, w)) :
    (BasicAuthRoutes.anonymousLogin setup request).exec {} = (.ok (.backToLogin
      (BasicAuthRoutes.anonymousFailureLocation setup (request.url.param "nextUrl"))), w) := by
  have hattempt : (Proc.attempt (authenticateWithHeaders setup request .empty)).exec {} =
      ((.ok (.error e), w) : Except JsError (Except JsError User) × World) := by
    rw [Proc.exec_attempt, h]
  rw [BasicAuthRoutes.anonymousLogin, if_pos henabled]
  exact (Proc.exec_bind_of_ok hattempt).trans rfl

theorem anonymousLogin_authenticated
    (henabled : setup.server.config.auth.anonymous_auth_enabled = true) {user : User} {w : World}
    (h : (authenticateWithHeaders setup request .empty).exec {} = (.ok user, w)) :
    (BasicAuthRoutes.anonymousLogin setup request).exec {} = (.ok (.redirected
      (BasicAuthRoutes.anonymousRedirectUrl setup (request.url.param "nextUrl"))),
      { w with session := some (some (anonymousCookie setup request user)) }) := by
  have hattempt : (Proc.attempt (authenticateWithHeaders setup request .empty)).exec {} =
      ((.ok (.ok user), w) : Except JsError (Except JsError User) × World) := by
    rw [Proc.exec_attempt, h]
  have htenant := withTenantOfUser_of_authenticated h (anonymousCookie setup request user)
  rw [anonymousCookie] at htenant
  rw [BasicAuthRoutes.anonymousLogin, if_pos henabled]
  refine (Proc.exec_bind_of_ok hattempt).trans ?_
  dsimp only
  rw [htenant]
  rfl

/-- The anonymous login starts no other login. -/
theorem anonymousLogin_noLogin :
    ((BasicAuthRoutes.anonymousLogin setup request).exec {}).2.NoLogin :=
  noLogin_of_writes (Writes.anonymousLogin.mono fun _ h => h.1)

end Anonymous

/-! ## The browser between two steps -/

/-- The pending logins of the browser lead to valid locations. -/
structure PendingValid (setup : RouteSetup) (nav : Navigation) : Prop where
  oidc : ∀ oidc, nav.session.bind (·.oidc) = some oidc → truthyString nav.started = true →
    oidc.nextUrl = nav.started ∧ IsValidNextUrl setup nav.started
  saml : ∀ saml, nav.session.bind (·.saml) = some saml → IsValidNextUrl setup saml.nextUrl

section Steps

variable {setup : RouteSetup} {nav : Navigation}

theorem pendingValid_of_none (h : nav.session = none) : PendingValid setup nav := by
  refine ⟨fun oidc hoidc => ?_, fun saml hsaml => ?_⟩
  · rw [h] at hoidc
    cases hoidc
  · rw [h] at hsaml
    cases hsaml

theorem PendingValid.after (h : PendingValid setup nav) {w : World} (hw : w.NoLogin) :
    PendingValid setup (nav.after w) := by
  cases hsession : w.session with
  | none =>
    have hsame : nav.after w = nav := by
      rw [Navigation.after, hsession]
    rwa [hsame]
  | some written =>
    have hafter : (nav.after w).session = written.map SecuritySessionCookie.stored := by
      rw [Navigation.after, hsession]
    cases written with
    | none => exact pendingValid_of_none hafter
    | some cookie =>
      obtain ⟨hoidc, hsaml⟩ := hw cookie hsession
      refine ⟨fun oidc hpending => ?_, fun saml hpending => ?_⟩
      · rw [hafter, Option.map_some, Option.bind_some] at hpending
        exact absurd (hpending.symm.trans hoidc) (by simp)
      · rw [hafter, Option.map_some, Option.bind_some] at hpending
        exact absurd (hpending.symm.trans hsaml) (by simp)

theorem PendingValid.ask (h : PendingValid setup nav) {schema : QuerySchema}
    {handler : Request → Proc World JsError RouteResponse} {request : Request}
    (hw : ((handler (nav.request request)).exec {}).2.NoLogin) :
    PendingValid setup (nav.ask schema handler request).2 := by
  rw [Navigation.ask]
  split_ifs
  · exact h.after hw
  · exact h

/-- An answer comes from the handler. -/
theorem exec_of_ask {schema : QuerySchema} {handler : Request → Proc World JsError RouteResponse}
    {request : Request} {response : RouteResponse}
    (h : (nav.ask schema handler request).1 = some response) :
    ∃ w, (handler (nav.request request)).exec {} = (.ok response, w) := by
  rw [Navigation.ask] at h
  split_ifs at h
  cases hexec : (handler (nav.request request)).exec {} with
  | mk r w =>
    rw [hexec] at h
    cases r with
    | ok response' =>
      injection h with h
      exact ⟨w, by rw [h]⟩
    | error e => cases h

/-- What the server reads off the session was in the browser's cookie. -/
theorem bind_session_of_request {request : Request} {cookie : Option SecuritySessionCookie}
    (h : (nav.request request).session = .ok cookie) {α : Type}
    {part : SecuritySessionCookie → Option α} {a : α} (ha : cookie.bind part = some a) :
    nav.session.bind part = some a := by
  rw [Request.session] at h
  cases herror : (nav.request request).storageError with
  | some message =>
    rw [herror] at h
    cases h
  | none =>
    rw [herror] at h
    injection h with h
    obtain ⟨session, hsession, hpart⟩ := Option.bind_eq_some_iff.mp ha
    rw [← h] at hsession
    have hstored : nav.session = some session := (Option.filter_eq_some_iff.mp hsession).1
    rw [hstored, Option.bind_some, hpart]

/-! ## What a step keeps -/

theorem openIdLogin_keeps (h : PendingValid setup nav) (nonce : String) (request : Request) :
    PendingValid setup (openIdLogin setup nonce request nav).2 := by
  rw [openIdLogin]
  by_cases hcode : truthyString (request.url.queryString "code") = true
  · dsimp only
    rw [if_pos hcode]
    have hlogin : OpenIdAuthRoutes.login setup nonce (nav.request request) =
        OpenIdAuthRoutes.callback setup (nav.request request) := if_pos hcode
    refine h.ask ?_
    rw [hlogin]
    exact callback_noLogin
  · dsimp only
    rw [if_neg hcode]
    obtain ⟨response, hstart⟩ := OpenIdAuthRoutes.startLogin_exec setup nonce
      (nav.request request)
    have hlogin : OpenIdAuthRoutes.login setup nonce (nav.request request) =
        OpenIdAuthRoutes.startLogin setup nonce (nav.request request) := if_neg hcode
    rw [← hlogin] at hstart
    rw [Navigation.ask]
    split_ifs with haccepts
    · rw [hstart]
      have hvalid : IsValidNextUrl setup (request.url.queryString "nextUrl") :=
        checked_queryString (List.mem_cons_of_mem _ List.mem_cons_self) haccepts
      refine ⟨fun oidc hoidc hstarted => ?_, fun saml hsaml => ?_⟩
      · have hsame : OpenIdAuthRoutes.startedOidc setup nonce (nav.request request) = oidc := by
          injection hoidc
        obtain ⟨nextUrl, hnext, hne⟩ := truthyString_iff.mp hstarted
        have hkept : OpenIdAuthRoutes.getNextUrl setup (nav.request request) = nextUrl := by
          have hquery : (nav.request request).url.queryString "nextUrl" = some nextUrl := hnext
          have hsome : (some nextUrl).filter (· != "") = some nextUrl := by simp [hne]
          rw [OpenIdAuthRoutes.getNextUrl, hquery, hsome]
        refine ⟨?_, hvalid⟩
        rw [← hsame, OpenIdAuthRoutes.startedOidc, hkept]
        exact hnext.symm
      · cases hsaml
    · exact h

theorem samlLogin_keeps (h : PendingValid setup nav) (isAuthenticated : Bool) (request : Request) :
    PendingValid setup (samlLogin setup isAuthenticated request nav).2 := by
  rw [samlLogin, Navigation.ask]
  split_ifs with haccepts
  · have hvalid : IsValidNextUrl setup (request.url.queryString "nextUrl") :=
      checked_queryString List.mem_cons_self haccepts
    have hnone : PendingValid setup (nav.after {}) := h.after fun cookie hcookie => by cases hcookie
    cases isAuthenticated with
    | true => exact hnone
    | false =>
      cases hheader : getSamlHeader (setup.samlChallenge (nav.request request)) with
      | error e =>
        have hexec : (SamlAuthRoutes.login setup false (nav.request request)).exec {} =
            (.ok .internalError, {}) := by
          rw [SamlAuthRoutes.login, if_neg Bool.false_ne_true, hheader]
          rfl
        rw [hexec]
        exact hnone
      | ok header =>
        rw [SamlAuthRoutes.login_exec hheader]
        refine ⟨fun oidc hoidc => ?_, fun saml hsaml => ?_⟩
        · cases hoidc
        · injection hsaml with hsame
          rw [← hsame]
          exact hvalid
  · exact h

theorem PendingValid.withSession (h : PendingValid setup nav)
    (session : Option SecuritySessionCookie) (keepsPending : Bool) :
    PendingValid setup (nav.withSession session keepsPending) := by
  cases session with
  | none => exact pendingValid_of_none rfl
  | some cookie =>
    cases keepsPending with
    | true => exact ⟨h.oidc, h.saml⟩
    | false => exact ⟨fun oidc hoidc => (by cases hoidc), fun saml hsaml => (by cases hsaml)⟩

/-- Whatever the browser does, its pending logins lead to valid locations. -/
theorem loginStep_keeps (step : LoginStep) (nav : Navigation) (h : PendingValid setup nav) :
    PendingValid setup (loginStep setup step nav).2 := by
  have hcleared : ∀ nav : Navigation, nav.session = none → PendingValid setup nav :=
    fun _ => pendingValid_of_none
  cases step with
  | passwordLogin page savedTenant =>
    rw [loginStep, passwordLogin]
    split_ifs
    · exact hcleared _ rfl
    · exact hcleared _ rfl
    · exact h
  | loginButton idpType page =>
    rw [loginStep, loginButton]
    split_ifs
    · exact hcleared _ rfl
    · exact hcleared _ rfl
    · exact h
  | anonymousLogin request =>
    have hask : PendingValid setup
        (nav.ask uncheckedQuery (BasicAuthRoutes.anonymousLogin setup) request).2 :=
      h.ask anonymousLogin_noLogin
    exact hask
  | openIdLogin nonce request => exact openIdLogin_keeps h nonce request
  | samlLogin isAuthenticated request => exact samlLogin_keeps h isAuthenticated request
  | samlAcs request samlResponse =>
    have hask : PendingValid setup (nav.ask uncheckedQuery
        (fun request => SamlAuthRoutes.acs setup request samlResponse) request).2 :=
      h.ask (acs_noLogin samlResponse)
    exact hask
  | captureUrlFragment idpType page =>
    have hpage : (nav.on idpType.capturePage page).session = none := by
      cases idpType <;> rfl
    rw [loginStep, captureUrlFragment]
    split_ifs
    · exact hcleared _ hpage
    · exact hcleared _ hpage
    · exact h
  | redirectUrlFragment idpType page =>
    have hpage : nav.on idpType.appendPage page = nav := by
      cases idpType <;> rfl
    rw [loginStep, redirectUrlFragment, hpage]
    split_ifs
    · exact ⟨h.oidc, h.saml⟩
    · exact h
  | other session keepsPending => exact h.withSession session keepsPending

/-! ## Where a step leads -/

theorem departureOf_of_truthy {nextUrl : Option String} (h : truthyString nextUrl = true)
    (location : String) :
    departureOf nextUrl (some (.redirected location)) = [{ url := location }] ∧
      departureOf nextUrl (some (.backToLogin location)) = [{ url := location }] :=
  ⟨if_pos h, if_pos h⟩

theorem departureOf_of_not_truthy {nextUrl : Option String} (h : truthyString nextUrl = false)
    (response : Option RouteResponse) : departureOf nextUrl response = [] := by
  unfold departureOf
  rw [h]
  split <;> rfl

/-- Only a redirect leads anywhere. -/
theorem mem_departureOf {nextUrl : Option String} {response : Option RouteResponse}
    {departure : Departure} (h : departure ∈ departureOf nextUrl response) :
    truthyString nextUrl = true ∧ (response = some (.redirected departure.url) ∨
      response = some (.backToLogin departure.url)) := by
  unfold departureOf at h
  split at h
  · split_ifs at h with htruthy
    · rw [List.mem_singleton.mp h]
      exact ⟨htruthy, Or.inl rfl⟩
    · cases h
  · split_ifs at h with htruthy
    · rw [List.mem_singleton.mp h]
      exact ⟨htruthy, Or.inr rfl⟩
    · cases h
  · cases h

theorem allValid_nil : AllValid setup [] := fun _ h => by cases h

theorem allValid_singleton {departure : Departure} :
    AllValid setup [departure] ↔ IsValidNextUrl setup (some departure.url) := by
  rw [AllValid, List.forall_mem_singleton]

/-- The completed login leads to the `nextUrl` it was started with. -/
theorem callback_redirects {request : Request} {location : String} {w : World}
    (h : (OpenIdAuthRoutes.callback setup request).exec {} = (.ok (.redirected location), w)) :
    ∃ oidc, OpenIdAuthRoutes.pendingLogin request = some oidc ∧
      location = OpenIdAuthRoutes.nextLocation setup oidc := by
  unfold OpenIdAuthRoutes.callback at h
  cases hpending : OpenIdAuthRoutes.pendingLogin request with
  | none =>
    rw [hpending] at h
    cases h
  | some oidc =>
    rw [hpending] at h
    obtain ⟨r, w', hattempt, h⟩ := Proc.exec_bind_ok h
    rw [Proc.exec_attempt] at hattempt
    injection hattempt with hr hw
    injection hr with hr
    cases hlogin : (OpenIdAuthRoutes.completeLogin setup request oidc).exec {} with
    | mk outcome w'' =>
      rw [hlogin] at hr
      cases outcome with
      | ok response =>
        rw [← hr] at h
        injection h with h
        injection h with h
        rw [OpenIdAuthRoutes.completeLogin_redirects hlogin] at h
        injection h with h
        exact ⟨oidc, rfl, h.symm⟩
      | error e =>
        rw [← hr] at h
        dsimp only at h
        split_ifs at h
        · cases h
        · cases h

theorem pendingLogin_some {request : Request} {oidc : OidcLogin}
    (h : OpenIdAuthRoutes.pendingLogin (nav.request request) = some oidc) :
    nav.session.bind (·.oidc) = some oidc := by
  unfold OpenIdAuthRoutes.pendingLogin at h
  cases hsession : (nav.request request).session with
  | error e =>
    rw [hsession] at h
    cases h
  | ok cookie =>
    rw [hsession] at h
    exact bind_session_of_request hsession (Option.filter_eq_some_iff.mp h).1

/-- The answer to the IdP leads to the `nextUrl` of the pending login. -/
theorem acs_redirects {request : Request} {samlResponse : String} {response : RouteResponse}
    {w : World}
    (h : (SamlAuthRoutes.acs setup (nav.request request) samlResponse).exec {} = (.ok response, w)) :
    (∃ saml, nav.session.bind (·.saml) = some saml ∧
        response = .redirected (SamlAuthRoutes.nextLocation setup saml)) ∨
      (∃ body, response = .badRequest body) ∨ response = .internalError := by
  unfold SamlAuthRoutes.acs at h
  cases hsession : (nav.request request).session with
  | error e =>
    rw [hsession] at h
    injection h with h
    injection h with h
    exact Or.inr (Or.inl ⟨_, h.symm⟩)
  | ok cookie =>
    rw [hsession] at h
    dsimp only at h
    cases hpending : (cookie.bind (·.saml)).filter fun saml => truthyString saml.requestId with
    | none =>
      rw [hpending] at h
      injection h with h
      injection h with h
      exact Or.inr (Or.inl ⟨_, h.symm⟩)
    | some saml =>
      rw [hpending] at h
      obtain ⟨r, w', -, h⟩ := Proc.exec_bind_ok h
      cases r with
      | ok done =>
        injection h with h
        injection h with h
        exact Or.inl ⟨saml, bind_session_of_request hsession (Option.filter_eq_some_iff.mp hpending).1,
          h.symm⟩
      | error e =>
        injection h with h
        injection h with h
        exact Or.inr (Or.inr h.symm)

section Base

variable (hbase : UrlPath setup.server.serverBasePath)

include hbase

theorem oidc_nextLocation_valid {oidc : OidcLogin} {nextUrl : String}
    (hnext : oidc.nextUrl = some nextUrl) (hvalid : IsValidNextUrl setup (some nextUrl)) :
    IsValidNextUrl setup (some (OpenIdAuthRoutes.nextLocation setup oidc)) := by
  rw [OpenIdAuthRoutes.nextLocation, hnext, Option.getD_some]
  split_ifs
  · have hsplit : "/auth/openid/redirectUrlFragment?nextUrl=" =
        "/auth/openid/redirectUrlFragment" ++ "?nextUrl=" := by decide
    rw [hsplit, ← String.append_assoc, String.append_assoc]
    exact valid_behind_base hbase (Or.inr (Or.inr (by decide))) (endsPath_nextUrl _)
  · exact hvalid

theorem saml_nextLocation_valid {saml : SamlLogin} (htruthy : truthyString saml.nextUrl = true)
    (hvalid : IsValidNextUrl setup saml.nextUrl) :
    IsValidNextUrl setup (some (SamlAuthRoutes.nextLocation setup saml)) := by
  obtain ⟨nextUrl, hnext, hne⟩ := truthyString_iff.mp htruthy
  have hsome : (some nextUrl).filter (· != "") = some nextUrl := by simp [hne]
  rw [hnext] at hvalid
  rw [SamlAuthRoutes.nextLocation, hnext, hsome, Option.getD_some]
  split_ifs
  · have hsplit : "/auth/saml/redirectUrlFragment?nextUrl=" =
        "/auth/saml/redirectUrlFragment" ++ "?nextUrl=" := by decide
    rw [hsplit, ← String.append_assoc, String.append_assoc]
    exact valid_behind_base hbase (Or.inr (Or.inr (by decide))) (endsPath_nextUrl _)
  · exact hvalid

theorem openIdLogin_valid (h : PendingValid setup nav) (nonce : String) (request : Request) :
    AllValid setup (openIdLogin setup nonce request nav).1 := by
  rw [openIdLogin]
  by_cases hcode : truthyString (request.url.queryString "code") = true
  · dsimp only
    rw [if_pos hcode]
    dsimp only
    split
    · rename_i location hresponse
      intro departure hmem
      obtain ⟨htruthy, hlocation⟩ := mem_departureOf hmem
      have hurl : departure.url = location := by
        rcases hlocation with hlocation | hlocation
        · rw [hresponse] at hlocation
          injection hlocation with hlocation
          injection hlocation with hlocation
          exact hlocation.symm
        · rw [hresponse] at hlocation
          injection hlocation with hlocation
          cases hlocation
      obtain ⟨w, hexec⟩ := exec_of_ask hresponse
      have hlogin : OpenIdAuthRoutes.login setup nonce (nav.request request) =
          OpenIdAuthRoutes.callback setup (nav.request request) := if_pos hcode
      rw [hlogin] at hexec
      obtain ⟨oidc, hpending, hnextLocation⟩ := callback_redirects hexec
      obtain ⟨hnext, hvalid⟩ := h.oidc oidc (pendingLogin_some hpending) htruthy
      obtain ⟨nextUrl, hstarted, -⟩ := truthyString_iff.mp htruthy
      rw [hurl, hnextLocation]
      exact oidc_nextLocation_valid hbase (hnext.trans hstarted) (hstarted ▸ hvalid)
    · exact allValid_nil
  · dsimp only
    rw [if_neg hcode]
    exact allValid_nil

theorem samlAcs_valid (h : PendingValid setup nav) (request : Request) (samlResponse : String) :
    AllValid setup (samlAcs setup request samlResponse nav).1 := by
  intro departure hmem
  obtain ⟨htruthy, hlocation⟩ := mem_departureOf hmem
  obtain ⟨response, hresponse, hurl⟩ : ∃ response, (nav.ask uncheckedQuery
      (fun request => SamlAuthRoutes.acs setup request samlResponse) request).1 = some response ∧
      (response = .redirected departure.url ∨ response = .backToLogin departure.url) := by
    rcases hlocation with hlocation | hlocation
    · exact ⟨_, hlocation, Or.inl rfl⟩
    · exact ⟨_, hlocation, Or.inr rfl⟩
  obtain ⟨w, hexec⟩ := exec_of_ask hresponse
  rcases acs_redirects hexec with ⟨saml, hsaml, hredirect⟩ | ⟨body, hbody⟩ | herror
  · rw [hsaml, Option.bind_some] at htruthy
    have hsame : departure.url = SamlAuthRoutes.nextLocation setup saml := by
      rcases hurl with hurl | hurl
      · rw [hurl] at hredirect
        injection hredirect
      · rw [hurl] at hredirect
        cases hredirect
    rw [hsame]
    exact saml_nextLocation_valid hbase htruthy (h.saml saml hsaml)
  · rcases hurl with hurl | hurl
    · rw [hurl] at hbody
      cases hbody
    · rw [hurl] at hbody
      cases hbody
  · rcases hurl with hurl | hurl
    · rw [hurl] at herror
      cases herror
    · rw [hurl] at herror
      cases herror

/-- The anonymous login is safe where it fails, and only as safe as its `nextUrl` where it
succeeds. -/
theorem anonymousLogin_valid_iff (request : Request) (nav : Navigation) :
    AllValid setup (anonymousLogin setup request nav).1 ↔
      GetsValidNextUrl setup (.anonymousLogin request) nav := by
  have hstep : (anonymousLogin setup request nav).1 = departureOf (request.url.param "nextUrl")
      ((BasicAuthRoutes.anonymousLogin setup (nav.request request)).exec {}).1.toOption := rfl
  have hparam : (nav.request request).url = request.url := rfl
  rw [hstep, GetsValidNextUrl]
  by_cases htruthy : truthyString (request.url.param "nextUrl") = true
  · obtain ⟨nextUrl, hnext, hne⟩ := truthyString_iff.mp htruthy
    have hsome : (some nextUrl).filter (· != "") = some nextUrl := by simp [hne]
    by_cases henabled : setup.server.config.auth.anonymous_auth_enabled = true
    · cases hauth : (authenticateWithHeaders setup (nav.request request) .empty).exec {} with
      | mk r w =>
        cases r with
        | ok user =>
          rw [anonymousLogin_authenticated henabled hauth, hparam]
          dsimp only [Except.toOption]
          rw [(departureOf_of_truthy htruthy _).1, allValid_singleton, hnext,
            BasicAuthRoutes.anonymousRedirectUrl, hsome]
          exact ⟨fun h _ _ => h, fun h => h henabled rfl⟩
        | error e =>
          rw [anonymousLogin_failed henabled hauth, hparam]
          dsimp only [Except.toOption]
          rw [(departureOf_of_truthy htruthy _).2, allValid_singleton, hnext,
            BasicAuthRoutes.anonymousFailureLocation, hsome]
          refine ⟨fun _ _ h => (by cases h), fun _ => ?_⟩
          exact valid_behind_base hbase (Or.inr (Or.inr (by decide))) (endsPath_nextUrl _)
    · rw [Bool.not_eq_true] at henabled
      rw [anonymousLogin_disabled setup (nav.request request) henabled]
      dsimp only [Except.toOption]
      rw [(departureOf_of_truthy htruthy _).2, allValid_singleton, henabled]
      refine ⟨fun _ h => (by cases h), fun _ => ?_⟩
      have hpath : setup.server.serverBasePath ++ LOGIN_PAGE_URI =
          setup.server.serverBasePath ++ LOGIN_PAGE_URI ++ "" := String.append_empty.symm
      rw [hpath]
      exact valid_behind_base hbase (Or.inr (Or.inr (by decide))) endsPath_empty
  · rw [Bool.not_eq_true] at htruthy
    rw [departureOf_of_not_truthy htruthy]
    refine ⟨fun _ _ _ => ?_, fun _ => allValid_nil⟩
    cases hnext : request.url.param "nextUrl" with
    | none => rfl
    | some nextUrl =>
      rw [hnext] at htruthy
      have hempty : nextUrl = "" := by simpa [truthyString] using htruthy
      rw [hempty]
      rfl

omit hbase in
theorem redirectUrlFragment_valid_iff (idpType : IdpType) (page : Location) (nav : Navigation) :
    AllValid setup (redirectUrlFragment setup idpType page nav).1 ↔
      GetsValidNextUrl setup (.redirectUrlFragment idpType page) nav := by
  rw [redirectUrlFragment, GetsValidNextUrl]
  by_cases hshows : Shows setup idpType.appendPath (idpType.appendSchema) page
  · rw [if_pos hshows]
    cases hnext : nextUrlOf page with
    | none => exact ⟨fun _ _ => rfl, fun _ => allValid_nil⟩
    | some nextUrl =>
      dsimp only
      rw [allValid_singleton]
      exact ⟨fun h _ => h, fun h => h hshows⟩
  · rw [if_neg hshows]
    exact ⟨fun _ h => absurd h hshows, fun _ => allValid_nil⟩

/-- A step leads to valid locations exactly if the two routes that do not validate get valid ones. -/
theorem loginStep_valid_iff (step : LoginStep) (nav : Navigation) (h : PendingValid setup nav) :
    AllValid setup (loginStep setup step nav).1 ↔ GetsValidNextUrl setup step nav := by
  cases step with
  | passwordLogin page savedTenant =>
    exact iff_of_true (passwordLogin_valid hbase page savedTenant nav) trivial
  | loginButton idpType page => exact iff_of_true (loginButton_valid hbase idpType page nav) trivial
  | anonymousLogin request => exact anonymousLogin_valid_iff hbase request nav
  | openIdLogin nonce request => exact iff_of_true (openIdLogin_valid hbase h nonce request) trivial
  | samlLogin isAuthenticated request => exact iff_of_true allValid_nil trivial
  | samlAcs request samlResponse =>
    exact iff_of_true (samlAcs_valid hbase h request samlResponse) trivial
  | captureUrlFragment idpType page =>
    exact iff_of_true (captureUrlFragment_valid hbase idpType page nav) trivial
  | redirectUrlFragment idpType page => exact redirectUrlFragment_valid_iff idpType page nav
  | other session keepsPending => exact iff_of_true allValid_nil trivial

end Base

end Steps

/-- In every run of a browser, each location that derives from a `nextUrl` is one that the validator
lets through, exactly if the two routes that do not validate only get valid ones. -/
theorem departures_valid_iff (setup : RouteSetup) (hbase : UrlPath setup.server.serverBasePath)
    (steps : List LoginStep) (stored : IdpType → Option String) :
    (∀ output ∈ Machine.trace (loginStep setup) steps { stored }, AllValid setup output.2) ↔
      Machine.Meets (loginStep setup) (GetsValidNextUrl setup) steps { stored } :=
  Machine.trace_iff_meets (P := fun _ departures => AllValid setup departures)
    (PendingValid setup) loginStep_keeps (loginStep_valid_iff hbase) steps
    (pendingValid_of_none rfl)

namespace Sample

/-- A login with OpenID, and a visit of the page that appends the hash. -/
def loginRun : List LoginStep :=
  [.openIdLogin "state-1" (requestAt (pageAt "/auth/openid/login?nextUrl=/app/home%23/view")),
    .openIdLogin "state-2" (requestAt oidcBack),
    .redirectUrlFragment .openId (pageAt "/auth/openid/redirectUrlFragment?nextUrl=/app/home")]

/-- The login leads to its `nextUrl`, which is valid, and so is the one of the page. -/
theorem loginRun_valid :
    (Machine.trace (loginStep loginSetup) loginRun {}).map Prod.snd =
      [[], [{ url := "/app/home#/view" }], [{ url := "/app/home", appended := "null" }]] ∧
    ∀ output ∈ Machine.trace (loginStep loginSetup) loginRun {}, AllValid loginSetup output.2 := by
  have hbase : UrlPath loginSetup.server.serverBasePath := ⟨[], by simp, rfl⟩
  refine ⟨by decide, (departures_valid_iff loginSetup hbase loginRun fun _ => none).mpr ?_⟩
  refine ⟨trivial, trivial, fun _ => ?_, trivial⟩
  change validateNextUrl _ _ = none
  decide

/-- A server with anonymous logins. -/
def anonymousSetup : RouteSetup := setup (server { auth := { anonymous_auth_enabled := true } })

/-- Two links that anyone may send around. -/
def baitRun : List LoginStep :=
  [.anonymousLogin (requestAt (pageAt "/auth/anonymous?nextUrl=https://evil.example")),
    .redirectUrlFragment .openId
      (pageAt "/auth/openid/redirectUrlFragment?nextUrl=https://evil.example")]

/-- Both lead to another server. -/
theorem bait_followed :
    (Machine.trace (loginStep anonymousSetup) baitRun {}).map Prod.snd =
      [[{ url := "https://evil.example" }],
        [{ url := "https://evil.example", appended := "null" }]] ∧
    validateNextUrl (some "https://evil.example") (some anonymousSetup.server.serverBasePath) =
      some INVALID_NEXT_URL_PARAMETER_MESSAGE := by
  decide

end Sample

end SecurityDashboards
