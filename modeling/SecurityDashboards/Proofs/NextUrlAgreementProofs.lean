import SecurityDashboards.AuthRoutes.Basic
import SecurityDashboards.Proofs.LoginFlowProofs

/-!
# Proofs: which redirects to a login are accepted

The `nextUrl` that a redirect carries for a page is accepted by the route that receives it if the
validator knows the page's path, and not otherwise.
-/

namespace SecurityDashboards

open Whatwg UrlEncoding

/-! ## What is received -/

/-- The receiving route finds the decoded value, and nothing else. -/
theorem searchParams_ofQuery {value : String} (h : ∀ c ∈ value.toList, IsValueChar c) :
    (Url.ofQuery ("nextUrl=" ++ value)).searchParams =
      [("nextUrl", String.ofList (formDecode value.toList))] := by
  have hno : '#' ∉ ("nextUrl=" ++ value).toList := by
    rw [String.toList_append, List.mem_append, not_or]
    exact ⟨by decide, fun hmem => (h '#' hmem).2.1 rfl⟩
  have hsplit : ("nextUrl=" ++ value).toList = "nextUrl".toList ++ '=' :: value.toList := by
    rw [String.toList_append]
    rfl
  rw [Url.ofQuery, cut_of_not_mem hno, hsplit]
  dsimp only
  rw [formParse_param (by decide) (by decide) (by decide) fun hmem => (h '&' hmem).2.2 rfl]
  rfl

theorem encodesUriQuery_encodeURIComponent : EncodesUriQuery Js.encodeURIComponent where
  decodes := Js.formDecode_encodeURIComponent
  isValueChar := isValueChar_encodeURIComponent

/-! ## Encoders and the grammar -/

/-- An encoder that spares the characters of the grammar, and makes no others into such, decides
nothing. -/
theorem nextPath_flatMap_iff {encode : Char → List Char} {l : List Char}
    (hspares : ∀ c, isNextUrlChar c = true → encode c = [c])
    (hmarks : ∀ c, isNextUrlChar c = false → ∃ d ∈ encode c, isNextUrlChar d = false) :
    NextPath (String.ofList (l.flatMap encode)) ↔ NextPath (String.ofList l) := by
  by_cases hall : ∀ c ∈ l, isNextUrlChar c = true
  · have hsame : l.flatMap encode = l := by
      induction l with
      | nil => rfl
      | cons c l ih =>
        rw [List.flatMap_cons, hspares c (hall c List.mem_cons_self),
          ih fun d hd => hall d (List.mem_cons_of_mem _ hd)]
        rfl
    rw [hsame]
  · push Not at hall
    obtain ⟨c, hc, hchar⟩ := hall
    rw [ne_eq, Bool.not_eq_true] at hchar
    obtain ⟨d, hd, hmark⟩ := hmarks c hchar
    constructor
    · intro hnext
      have h := isNextUrlChar_of_nextPath hnext d (by
        rw [String.toList_ofList]
        exact List.mem_flatMap.mpr ⟨c, hc, hd⟩)
      rw [hmark] at h
      cases h
    · intro hnext
      have h := isNextUrlChar_of_nextPath hnext c (by rwa [String.toList_ofList])
      rw [hchar] at h
      cases h

theorem isAutoEscaped_of_isNextUrlChar {c : Char} (h : isNextUrlChar c = true) :
    Js.isAutoEscaped c = false := by
  have hlt : c.toNat < 128 := by
    simp only [isNextUrlChar, Bool.or_eq_true, decide_eq_true_eq] at h
    rcases h with ((h | rfl) | rfl) | rfl
    · exact isAlphanum_lt h
    all_goals decide
  exact ascii_forall (P := fun c => isNextUrlChar c = true → Js.isAutoEscaped c = false)
    (by decide) hlt h

theorem nextPath_percentEncode_iff (l : List Char) :
    NextPath (String.ofList (percentEncode Js.isAutoEscaped l)) ↔ NextPath (String.ofList l) := by
  refine nextPath_flatMap_iff (fun c hc => ?_) fun c hc => ?_
  · rw [isAutoEscaped_of_isNextUrlChar hc]
    rfl
  · by_cases hescaped : Js.isAutoEscaped c = true
    · refine ⟨'%', ?_, by decide⟩
      rw [if_pos hescaped, utf8_eq]
      split_ifs <;> simp [percentByte]
    · refine ⟨c, ?_, hc⟩
      rw [if_neg hescaped]
      exact List.mem_singleton.mpr rfl

theorem nextPath_map_plusToSpace_iff (l : List Char) :
    NextPath (String.ofList (l.map plusToSpace)) ↔ NextPath (String.ofList l) := by
  have hmap : l.map plusToSpace = l.flatMap fun c => [plusToSpace c] :=
    (List.flatMap_pure_eq_map plusToSpace l).symm
  rw [hmap]
  refine nextPath_flatMap_iff (fun c hc => ?_) fun c hc => ⟨_, List.mem_singleton.mpr rfl, ?_⟩
  · have hplus : c ≠ '+' := by
      rintro rfl
      revert hc
      decide
    rw [plusToSpace, if_neg hplus]
  · unfold plusToSpace
    split_ifs
    · decide
    · exact hc

/-! ## Pages -/

theorem search_cases (location : Location) :
    location.search = "" ∨ ∃ rest, location.search.toList = '?' :: rest := by
  unfold Location.search
  split
  · exact Or.inl rfl
  · exact Or.inl rfl
  · exact Or.inr ⟨_, String.toList_ofList⟩

theorem pathname_cases (location : Location) :
    ∃ rest, location.pathname.toList = '/' :: rest ∧
      ∀ c ∈ location.pathname.toList, inPathSet c = false := by
  obtain ⟨first, path, hpath⟩ := List.exists_cons_of_ne_nil location.path_ne_nil
  have hplain := mem_pathText location.isSegment
  rw [Location.pathname, String.toList_ofList]
  refine ⟨first ++ pathText path, ?_, hplain⟩
  rw [hpath]
  rfl

theorem nextPath_pathname_iff (location : Location) :
    NextPath location.pathname ↔
      location.pathname = "/" ∨ isNextUrlPath location.pathname = true := by
  rw [NextPath, or_iff_right (pathname_ne_empty location)]

theorem noPathEnd_of_not_mem {l : List Char} (hquery : '?' ∉ l) (hhash : '#' ∉ l) :
    NoPathEnd (String.ofList l) := by
  intro c hc
  rw [String.toList_ofList] at hc
  refine ⟨?_, ?_⟩
  · rintro rfl
    exact hquery hc
  · rintro rfl
    exact hhash hc

theorem not_mem_pathname {location : Location} {c : Char} (hset : inPathSet c = true) :
    c ∉ location.pathname.toList := by
  obtain ⟨-, -, hplain⟩ := pathname_cases location
  intro hmem
  rw [hplain c hmem] at hset
  cases hset

/-- The legacy parser escapes the path and the query of a page. -/
theorem legacyPath_ofLocation (location : Location) :
    legacyPath (Url.ofLocation location) =
      String.ofList (percentEncode Js.isAutoEscaped location.pathname.toList) ++
        String.ofList (percentEncode Js.isAutoEscaped location.search.toList) := by
  rw [legacyPath, String.toList_append, percentEncode_append, String.ofList_append]
  rfl

theorem toList_legacyPath {location : Location} {rest : List Char}
    (hrest : location.pathname.toList = '/' :: rest) :
    (legacyPath (Url.ofLocation location)).toList =
      '/' :: percentEncode Js.isAutoEscaped (rest ++ location.search.toList) := by
  rw [legacyPath_ofLocation, String.toList_append, String.toList_ofList, String.toList_ofList,
    ← percentEncode_append, hrest]
  rfl

theorem legacyPath_ne_empty (location : Location) : legacyPath (Url.ofLocation location) ≠ "" := by
  obtain ⟨rest, hrest, -⟩ := pathname_cases location
  have hchars := toList_legacyPath hrest
  intro hempty
  rw [hempty] at hchars
  cases hchars

/-- Nothing but the root is written as the root. -/
theorem legacyPath_eq_root_iff (location : Location) :
    legacyPath (Url.ofLocation location) = "/" ↔ location.pathname ++ location.search = "/" := by
  obtain ⟨rest, hrest, -⟩ := pathname_cases location
  rw [← String.toList_inj, ← String.toList_inj, toList_legacyPath hrest, String.toList_append,
    hrest, List.cons_append]
  constructor
  · intro h
    injection h with _ hnil
    by_contra hrest'
    exact percentEncode_ne_nil (fun h => hrest' (congrArg ('/' :: ·) h)) hnil
  · intro h
    injection h with _ hnil
    rw [hnil]
    rfl

/-- A pathname is never written as an empty text. -/
theorem writtenPathname_ne_empty (location : Location) {write : List Char → List Char}
    (hwrite : ∀ rest, ∃ rest', write ('/' :: rest) = '/' :: rest') :
    String.ofList (write location.pathname.toList) ≠ "" := by
  obtain ⟨rest, hrest, -⟩ := pathname_cases location
  obtain ⟨rest', hrest'⟩ := hwrite rest
  intro hempty
  have h := congrArg String.toList hempty
  rw [String.toList_ofList, hrest, hrest'] at h
  cases h

/-- A search ends a path, also when it is written in another way. -/
theorem writtenSearch_endsPath (location : Location) {write : List Char → List Char}
    (hnil : write [] = [])
    (hwrite : ∀ query, ∃ query', write ('?' :: query) = '?' :: query') :
    EndsPath (String.ofList (write location.search.toList)) := by
  intro c tail hc
  rw [String.toList_ofList] at hc
  rcases search_cases location with hempty | ⟨query, hquery⟩
  · rw [hempty, String.toList_empty, hnil] at hc
    cases hc
  · obtain ⟨query', hquery'⟩ := hwrite query
    rw [hquery, hquery'] at hc
    injection hc with hhead
    exact Or.inl hhead.symm

theorem escapedPathname_noPathEnd (location : Location) :
    NoPathEnd (String.ofList (percentEncode Js.isAutoEscaped location.pathname.toList)) := by
  refine noPathEnd_of_not_mem ?_ ?_
  · exact not_mem_percentEncode_of_hex (by decide) (by decide) (not_mem_pathname (by decide))
  · exact not_mem_percentEncode_of_hex (by decide) (by decide) (not_mem_pathname (by decide))

theorem escapedPathname_ne_empty (location : Location) :
    String.ofList (percentEncode Js.isAutoEscaped location.pathname.toList) ≠ "" :=
  writtenPathname_ne_empty location fun _ => ⟨_, rfl⟩

theorem escapedSearch_endsPath (location : Location) :
    EndsPath (String.ofList (percentEncode Js.isAutoEscaped location.search.toList)) :=
  writtenSearch_endsPath location rfl fun _ => ⟨_, rfl⟩

/-- A plus sign that is read as a space ends no path. -/
theorem spacedPathname_noPathEnd (location : Location) :
    NoPathEnd (String.ofList (location.pathname.toList.map plusToSpace)) := by
  have hnotEnd : ∀ {c : Char}, c = '?' ∨ c = '#' → c ∉ location.pathname.toList.map plusToSpace := by
    intro c hc hmem
    obtain ⟨d, hd, rfl⟩ := List.mem_map.mp hmem
    rcases (plusToSpace_end d).mp hc with rfl | rfl
    · exact not_mem_pathname (by decide) hd
    · exact not_mem_pathname (by decide) hd
  exact noPathEnd_of_not_mem (hnotEnd (Or.inl rfl)) (hnotEnd (Or.inr rfl))

theorem spacedPathname_ne_empty (location : Location) :
    String.ofList (location.pathname.toList.map plusToSpace) ≠ "" :=
  writtenPathname_ne_empty location fun _ => ⟨_, rfl⟩

theorem spacedSearch_endsPath (location : Location) :
    EndsPath (String.ofList (location.search.toList.map plusToSpace)) :=
  writtenSearch_endsPath location rfl fun _ => ⟨_, rfl⟩

/-! ## Redirects of the basic type -/

section Agreement

variable {setup : RouteSetup} {request : Request} {location : Location}

/-- The route that receives this URL accepts it. -/
theorem accepts_ofQuery_iff (schema : QuerySchema)
    (hschema : schema = { fields := [("nextUrl", nextUrlSchema setup.server)] }) {value : String}
    (hvalue : ∀ c ∈ value.toList, IsValueChar c) :
    schema.accepts (Url.ofQuery ("nextUrl=" ++ value)) = true ↔
      validateNextUrl (some (String.ofList (formDecode value.toList)))
        (some setup.server.serverBasePath) = none := by
  rw [hschema, accepts_nextUrl _ (searchParams_ofQuery hvalue), nextUrlSchema_accepts_iff]

/-- The login page accepts the redirect of a page, if there is something to accept, for its path. -/
theorem composed_accepted_iff (schema : QuerySchema)
    (hschema : schema = { fields := [("nextUrl", nextUrlSchema setup.server)] })
    (hredirect : ∀ request basePath nextUrl,
      setup.server.platform.getRedirectUrl request basePath nextUrl = basePath ++ nextUrl)
    (hencode : EncodesUriQuery setup.server.platform.encodeUriQuery)
    (hparse : setup.server.platform.parsedPath request.url = some (legacyPath request.url))
    (hurl : request.url = Url.ofLocation location) :
    schema.accepts (Url.ofQuery (composeNextUrlQueryParam setup.server request)) = true ↔
      location.pathname ++ location.search = "/" ∨
        NoPathEnd setup.server.serverBasePath ∧
          (location.pathname = "/" ∨ isNextUrlPath location.pathname = true) := by
  rw [composeNextUrlQueryParam, hparse, hurl]
  dsimp only
  by_cases hslash : legacyPath (Url.ofLocation location) = "/"
  · have haccepts : schema.accepts (Url.ofQuery "") = true := by
      rw [hschema]
      rfl
    rw [if_neg fun h => h.2 hslash, haccepts]
    exact iff_of_true rfl (Or.inl ((legacyPath_eq_root_iff location).mp hslash))
  · have hroot : ¬ location.pathname ++ location.search = "/" := fun h =>
      hslash ((legacyPath_eq_root_iff location).mpr h)
    rw [if_pos ⟨legacyPath_ne_empty location, hslash⟩,
      accepts_ofQuery_iff schema hschema (hencode.isValueChar _), hencode.decodes,
      String.ofList_toList, hredirect, legacyPath_ofLocation, ← String.append_assoc,
      accepted_behind_base_iff (escapedPathname_ne_empty location)
        (escapedPathname_noPathEnd location) (escapedSearch_endsPath location),
      nextPath_percentEncode_iff, String.ofList_toList, nextPath_pathname_iff,
      or_iff_right hroot]

/-! ## Redirects of the OpenID and the SAML type -/

theorem generatedPath_of_page (hredirect : ∀ request basePath nextUrl,
      setup.server.platform.getRedirectUrl request basePath nextUrl = basePath ++ nextUrl)
    (hurl : request.url = Url.ofLocation location) (fallbackPath : String) :
    generatedPath setup.server fallbackPath request =
      setup.server.serverBasePath ++ location.pathname ++ location.search := by
  rw [generatedPath, hurl, Url.ofLocation]
  dsimp only
  rw [if_neg (pathname_ne_empty location), hredirect]

/-- The SAML type's capture page accepts the redirect of a page for its path. -/
theorem samlGenerated_accepted_iff (schema : QuerySchema)
    (hschema : schema = { fields := [("nextUrl", nextUrlSchema setup.server)] })
    (hredirect : ∀ request basePath nextUrl,
      setup.server.platform.getRedirectUrl request basePath nextUrl = basePath ++ nextUrl)
    (hurl : request.url = Url.ofLocation location) :
    schema.accepts (Url.ofQuery ("nextUrl=" ++
        SamlAuthentication.generateNextUrl setup.server request)) = true ↔
      NoPathEnd setup.server.serverBasePath ∧
        (location.pathname = "/" ∨ isNextUrlPath location.pathname = true) := by
  have hreceived : formDecode (Js.querystringEscape (setup.server.serverBasePath ++
      location.pathname ++ location.search)).toList = (setup.server.serverBasePath ++
        location.pathname ++ location.search).toList := Js.formDecode_encodeURIComponent _
  have hpathEnd : NoPathEnd (String.ofList location.pathname.toList) :=
    noPathEnd_of_not_mem (not_mem_pathname (by decide)) (not_mem_pathname (by decide))
  have hsearchEnd : EndsPath (String.ofList (id location.search.toList)) :=
    writtenSearch_endsPath location rfl fun query => ⟨query, rfl⟩
  rw [String.ofList_toList] at hpathEnd
  rw [id, String.ofList_toList] at hsearchEnd
  rw [SamlAuthentication.generateNextUrl, generatedPath_of_page hredirect hurl,
    accepts_ofQuery_iff schema hschema (readBack_querystringEscape.isValueChar _), hreceived,
    String.ofList_toList, accepted_behind_base_iff (pathname_ne_empty location) hpathEnd hsearchEnd,
    nextPath_pathname_iff]

/-- What the OpenID type's capture page receives, if `escape` brings the base path through. -/
theorem escaped_received (hbase : ComesThroughEscape setup.server.serverBasePath)
    (location : Location) :
    String.ofList (formDecode (Js.escape (setup.server.serverBasePath ++ location.pathname ++
      location.search)).toList) = setup.server.serverBasePath ++
        String.ofList (location.pathname.toList.map plusToSpace) ++
          String.ofList (location.search.toList.map plusToSpace) := by
  have hascii : ∀ c ∈ (setup.server.serverBasePath ++ location.pathname ++
      location.search).toList, c.toNat < 128 := by
    intro c hc
    rw [String.append_assoc, String.toList_append, String.toList_append] at hc
    rcases List.mem_append.mp hc with hc | hc
    · exact (hbase c hc).1
    · exact text_ascii location c hc
  rw [Js.formDecode_escape hascii, String.toList_append, String.toList_append, List.map_append,
    List.map_append, map_plusToSpace_of_not_mem fun h => (hbase '+' h).2 rfl,
    String.ofList_append, String.ofList_append, String.ofList_toList]

/-- A base path that `escape` does not bring through is not found again. -/
theorem comesThrough_of_accepted (location : Location)
    (h : validateNextUrl (some (String.ofList (formDecode (Js.escape (setup.server.serverBasePath ++
      location.pathname ++ location.search)).toList))) (some setup.server.serverBasePath) = none) :
    ComesThroughEscape setup.server.serverBasePath := by
  have hsplit : setup.server.serverBasePath ++ location.pathname ++ location.search =
      String.ofList (setup.server.serverBasePath.toList ++ location.text) := by
    rw [String.ofList_append, String.ofList_toList, Location.text, String.ofList_append,
      String.ofList_toList, String.ofList_toList, String.append_assoc]
  have hne : setup.server.serverBasePath ++ location.pathname ++ location.search ≠ "" := by
    intro hempty
    have hchars := congrArg String.toList hempty
    rw [String.toList_append, String.toList_append] at hchars
    have hpathname := (List.append_eq_nil_iff.mp (List.append_eq_nil_iff.mp hchars).1).2
    exact pathname_ne_empty location (String.toList_inj.mp hpathname)
  rw [hsplit] at h hne
  -- An empty URL would pass, but something is always read back.
  have hread : String.ofList (formDecode (Js.escape (String.ofList
      (setup.server.serverBasePath.toList ++ location.text))).toList) ≠ "" := by
    intro hempty
    have hchars := congrArg String.toList hempty
    rw [String.toList_ofList] at hchars
    exact formDecode_ne_nil (Js.escape_ne_nil hne) hchars
  obtain ⟨rest, hrest, -⟩ := (validateNextUrl_eq_none_iff hread).mp h
  have hchars := congrArg String.toList hrest
  rw [urlPath, String.toList_ofList, String.toList_ofList, String.toList_append] at hchars
  exact Js.plain_of_prefix_escape (text_ascii location)
    ((List.prefix_append _ _).trans (hchars ▸ List.takeWhile_prefix _))

/-- The OpenID type's capture page accepts the redirect of a page for its path, if `escape` brings the
base path through. -/
theorem openIdGenerated_accepted_iff (schema : QuerySchema)
    (hschema : schema = { fields := [("nextUrl", nextUrlSchema setup.server)] })
    (hredirect : ∀ request basePath nextUrl,
      setup.server.platform.getRedirectUrl request basePath nextUrl = basePath ++ nextUrl)
    (hurl : request.url = Url.ofLocation location) :
    schema.accepts (Url.ofQuery ("nextUrl=" ++
        OpenIdAuthentication.generateNextUrl setup.server request)) = true ↔
      (ComesThroughEscape setup.server.serverBasePath ∧ NoPathEnd setup.server.serverBasePath) ∧
        (location.pathname = "/" ∨ isNextUrlPath location.pathname = true) := by
  rw [OpenIdAuthentication.generateNextUrl, generatedPath_of_page hredirect hurl,
    accepts_ofQuery_iff schema hschema (isValueChar_escape _), and_assoc]
  by_cases hbase : ComesThroughEscape setup.server.serverBasePath
  · rw [and_iff_right hbase, escaped_received hbase, accepted_behind_base_iff
      (spacedPathname_ne_empty location) (spacedPathname_noPathEnd location)
      (spacedSearch_endsPath location), nextPath_map_plusToSpace_iff, String.ofList_toList,
      nextPath_pathname_iff]
  · exact iff_of_false (fun h => hbase (comesThrough_of_accepted location h)) fun h => hbase h.1

end Agreement

/-- A redirect to a login carries a `nextUrl` that the receiving route accepts, if it carries one,
exactly for the pages whose path the validator knows. The base path must not end the path of a URL
itself, and in the OpenID type it must come through the legacy `escape`. -/
theorem nextUrl_accepted_iff (setup : RouteSetup) (request : Request) (location : Location)
    (hredirect : ∀ request basePath nextUrl,
      setup.server.platform.getRedirectUrl request basePath nextUrl = basePath ++ nextUrl)
    (hencode : EncodesUriQuery setup.server.platform.encodeUriQuery)
    (hparse : ∀ location : Location, setup.server.platform.parsedPath (Url.ofLocation location) =
      some (legacyPath (Url.ofLocation location)))
    (hurl : request.url = Url.ofLocation location) :
    ((BasicAuthRoutes.loginPageSchema setup).accepts
        (Url.ofQuery (composeNextUrlQueryParam setup.server request)) = true ↔
      location.pathname ++ location.search = "/" ∨ NoPathEnd setup.server.serverBasePath ∧
        (location.pathname = "/" ∨ isNextUrlPath location.pathname = true)) ∧
    ((OpenIdAuthRoutes.captureUrlFragmentSchema setup).accepts (Url.ofQuery ("nextUrl=" ++
        OpenIdAuthentication.generateNextUrl setup.server request)) = true ↔
      (ComesThroughEscape setup.server.serverBasePath ∧ NoPathEnd setup.server.serverBasePath) ∧
        (location.pathname = "/" ∨ isNextUrlPath location.pathname = true)) ∧
    ((SamlAuthRoutes.captureUrlFragmentSchema setup).accepts (Url.ofQuery ("nextUrl=" ++
        SamlAuthentication.generateNextUrl setup.server request)) = true ↔
      NoPathEnd setup.server.serverBasePath ∧
        (location.pathname = "/" ∨ isNextUrlPath location.pathname = true)) := by
  have hparsed : setup.server.platform.parsedPath request.url = some (legacyPath request.url) := by
    rw [hurl]
    exact hparse location
  refine ⟨composed_accepted_iff _ rfl hredirect hencode hparsed hurl, ?_, ?_⟩
  · exact openIdGenerated_accepted_iff _ rfl hredirect hurl
  · exact samlGenerated_accepted_iff _ rfl hredirect hurl

namespace Sample

/-- The routes of a server behind a base path. -/
def setupBehind (basePath : String) : RouteSetup :=
  setup { server {} with serverBasePath := basePath }

/-- The queries of the redirects to the login page and to the capture pages. -/
def composedFor (basePath url : String) : Url :=
  Url.ofQuery (composeNextUrlQueryParam (setupBehind basePath).server (requestAt (pageAt url)))

def openIdGeneratedFor (basePath url : String) : Url :=
  Url.ofQuery ("nextUrl=" ++
    OpenIdAuthentication.generateNextUrl (setupBehind basePath).server (requestAt (pageAt url)))

def samlGeneratedFor (basePath url : String) : Url :=
  Url.ofQuery ("nextUrl=" ++
    SamlAuthentication.generateNextUrl (setupBehind basePath).server (requestAt (pageAt url)))

/-- A page with a dot in its path is rejected by every route, a base path with a question mark by the
login page and by the SAML type, and one that `escape` does not bring through by the OpenID type. -/
theorem dotted_rejected :
    isPageRequest (requestAt (pageAt "/app/my.page")) = true ∧
    (BasicAuthRoutes.loginPageSchema (setupBehind "")).accepts (composedFor "" "/app/my.page") =
      false ∧
    (OpenIdAuthRoutes.captureUrlFragmentSchema (setupBehind "")).accepts
      (openIdGeneratedFor "" "/app/my.page") = false ∧
    (SamlAuthRoutes.captureUrlFragmentSchema (setupBehind "")).accepts
      (samlGeneratedFor "" "/app/my.page") = false ∧
    (BasicAuthRoutes.loginPageSchema (setupBehind "/a?b")).accepts (composedFor "/a?b" "/app/home") =
      false ∧
    (SamlAuthRoutes.captureUrlFragmentSchema (setupBehind "/a?b")).accepts
      (samlGeneratedFor "/a?b" "/app/home") = false ∧
    (OpenIdAuthRoutes.captureUrlFragmentSchema (setupBehind "/a+b")).accepts
      (openIdGeneratedFor "/a+b" "/app/home") = false := by
  decide

/-- An application page behind a base path is accepted by every route. -/
theorem home_accepted :
    (BasicAuthRoutes.loginPageSchema (setupBehind "/wazuh")).accepts
      (composedFor "/wazuh" "/app/home") = true ∧
    (OpenIdAuthRoutes.captureUrlFragmentSchema (setupBehind "/wazuh")).accepts
      (openIdGeneratedFor "/wazuh" "/app/home") = true ∧
    (SamlAuthRoutes.captureUrlFragmentSchema (setupBehind "/wazuh")).accepts
      (samlGeneratedFor "/wazuh" "/app/home") = true := by
  obtain ⟨hcomposed, hopenId, hsaml⟩ := nextUrl_accepted_iff (setupBehind "/wazuh")
    (requestAt (pageAt "/app/home")) (pageAt "/app/home") (fun _ _ _ => rfl)
    encodesUriQuery_encodeURIComponent (fun _ => rfl) rfl
  have hbase : NoPathEnd (setupBehind "/wazuh").server.serverBasePath := by
    unfold NoPathEnd
    decide
  have hescape : ComesThroughEscape (setupBehind "/wazuh").server.serverBasePath := by
    unfold ComesThroughEscape
    decide
  have hpath : isNextUrlPath (pageAt "/app/home").pathname = true := by decide
  exact ⟨hcomposed.mpr (Or.inr ⟨hbase, Or.inr hpath⟩),
    hopenId.mpr ⟨⟨hescape, hbase⟩, Or.inr hpath⟩, hsaml.mpr ⟨hbase, Or.inr hpath⟩⟩

end Sample

end SecurityDashboards
