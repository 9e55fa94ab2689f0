import SecurityDashboards.LoginFlow
import SecurityDashboards.Proofs.NextUrlProofs
import SecurityDashboards.Proofs.WhatwgLocationProofs
import SecurityDashboards.SampleServer

/-!
# Proofs: `nextUrl` survives the login, but for plus signs

The legacy `escape` leaves a plus sign as it is, and `URLSearchParams` reads it as a space. The OpenID
flow calls it in its first redirect, and both flows call it when they bring a hash back. Without a plus
sign, and in the SAML flow also without a hash, they end on the page that was visited.
-/

namespace SecurityDashboards

open Whatwg UrlEncoding

/-! ## Queries of the redirects -/

theorem ascii_forall {P : Char → Prop} (h : ∀ n < 128, P (Char.ofNat n)) {c : Char}
    (hc : c.toNat < 128) : P c := by
  have hself := h c.toNat hc
  rwa [Char.ofNat_toNat] at hself

theorem isValueChar_of_isAlphanum {c : Char} (h : c.isAlphanum = true) : IsValueChar c :=
  ascii_forall (P := fun c => c.isAlphanum = true → IsValueChar c) (by decide) (isAlphanum_lt h) h

theorem isValueChar_escape (s : String) : ∀ c ∈ (Js.escape s).toList, IsValueChar c := by
  intro c hc
  rcases Js.mem_escape c hc with rfl | hsafe
  · decide
  · simp only [Js.isEscapeSafe, Bool.or_eq_true, decide_eq_true_eq] at hsafe
    rcases hsafe with ((((((h | rfl) | rfl) | rfl) | rfl) | rfl) | rfl) | rfl
    · exact isValueChar_of_isAlphanum h
    all_goals decide

theorem isValueChar_encodeURIComponent (s : String) :
    ∀ c ∈ (Js.encodeURIComponent s).toList, IsValueChar c := by
  intro c hc
  rcases Js.mem_encodeURIComponent c hc with rfl | hsafe
  · decide
  · simp only [Js.isUriUnreserved, Bool.or_eq_true, decide_eq_true_eq] at hsafe
    rcases hsafe with ((((((((h | rfl) | rfl) | rfl) | rfl) | rfl) | rfl) | rfl) | rfl) | rfl
    · exact isValueChar_of_isAlphanum h
    all_goals decide

/-- An encoder of query values, and what the form decoder reads for the ASCII characters that it
encodes. -/
structure ReadBack (encode : String → String) (read : Char → Char) : Prop where
  isValueChar : ∀ s, ∀ c ∈ (encode s).toList, IsValueChar c
  decodes : ∀ text : List Char, (∀ c ∈ text, c.toNat < 128) →
    formDecode (encode (String.ofList text)).toList = text.map read

theorem readBack_escape : ReadBack Js.escape plusToSpace where
  isValueChar := isValueChar_escape
  decodes text hascii := by
    have hchars : ∀ c ∈ (String.ofList text).toList, c.toNat < 128 := by
      rw [String.toList_ofList]
      exact hascii
    rw [Js.formDecode_escape hchars, String.toList_ofList]

theorem readBack_querystringEscape : ReadBack Js.querystringEscape id where
  isValueChar := isValueChar_encodeURIComponent
  decodes text _ := by
    rw [List.map_id]
    exact (Js.formDecode_encodeURIComponent _).trans String.toList_ofList

theorem not_mem_percentEncode_of_hex {inSet : Char → Bool} {d : Char} (hpercent : d ≠ '%')
    (halnum : d.isAlphanum = false) {l : List Char} (h : d ∉ l) : d ∉ percentEncode inSet l := by
  intro hmem
  obtain ⟨c, hc, hd⟩ := List.mem_flatMap.mp hmem
  by_cases hset : inSet c = true
  · rw [if_pos hset] at hd
    obtain ⟨b, hb, hd⟩ := List.mem_flatMap.mp hd
    rcases Js.mem_percentByte (utf8_lt c b hb) hd with h | h
    · exact hpercent h
    · rw [halnum] at h
      cases h
  · rw [if_neg hset, List.mem_singleton] at hd
    exact h (hd ▸ hc)

theorem percentEncode_append (inSet : Char → Bool) (l l' : List Char) :
    percentEncode inSet (l ++ l') = percentEncode inSet l ++ percentEncode inSet l' :=
  List.flatMap_append

/-- The parameter in a query that the browser has encoded. -/
theorem formParse_param {name value : List Char} (hname : ∀ c ∈ name, inQuerySet c = false)
    (hand : '&' ∉ name) (heq : '=' ∉ name) (hvalue : '&' ∉ value) :
    formParse (percentEncode inQuerySet (name ++ '=' :: value)) =
      [(String.ofList (formDecode name), String.ofList (formDecode value))] := by
  have hencode : percentEncode inQuerySet (name ++ '=' :: value) =
      name ++ '=' :: percentEncode inQuerySet value := by
    rw [percentEncode_append, percentEncode_of_plain hname]
    rfl
  have hno : '&' ∉ name ++ '=' :: percentEncode inQuerySet value := by
    simp only [List.mem_append, List.mem_cons, not_or]
    exact ⟨hand, by decide, not_mem_percentEncode_of_hex (by decide) (by decide) hvalue⟩
  rw [hencode, formParse_single (by simp) hno, formPair_eq heq,
    formDecode_percentEncode transparent_inQuerySet]

theorem searchParams_of_query {location : Location} {query : List Char} (hne : query ≠ [])
    (h : location.query = some query) :
    (Url.ofLocation location).searchParams = formParse query := by
  have hsearch : location.search.toList = '?' :: query := by
    unfold Location.search
    rw [h]
    split
    · rename_i hnone
      cases hnone
    · rename_i hnil
      exact absurd (Option.some.inj hnil) hne
    · rename_i hsome
      rw [Option.some.inj hsome, String.toList_ofList]
  rw [Url.ofLocation, hsearch]
  rfl

theorem percentEncode_ne_nil {inSet : Char → Bool} {l : List Char} (hne : l ≠ []) :
    percentEncode inSet l ≠ [] := by
  obtain ⟨c, l, rfl⟩ := List.exists_cons_of_ne_nil hne
  intro hnil
  rw [percentEncode, List.flatMap_cons] at hnil
  obtain ⟨hhead, -⟩ := List.append_eq_nil_iff.mp hnil
  by_cases hc : inSet c = true
  · rw [if_pos hc, utf8_eq] at hhead
    revert hhead
    split_ifs <;> simp [percentByte]
  · rw [if_neg hc] at hhead
    cases hhead

/-- A page whose only parameter is `nextUrl`. -/
theorem searchParams_nextUrl {location : Location} {value : List Char} (hvalue : '&' ∉ value)
    (h : location.query = some (percentEncode inQuerySet ("nextUrl=".toList ++ value))) :
    (Url.ofLocation location).searchParams =
      [("nextUrl", String.ofList (formDecode value))] := by
  have hsplit : "nextUrl=".toList ++ value = "nextUrl".toList ++ '=' :: value := rfl
  have hne : "nextUrl=".toList ++ value ≠ [] := List.append_ne_nil_of_left_ne_nil (by decide) _
  rw [searchParams_of_query (percentEncode_ne_nil hne) h, hsplit,
    formParse_param (by decide) (by decide) (by decide) hvalue]
  rfl

/-- The page of the login route, with both parameters. -/
theorem searchParams_login {location : Location} {flag value : List Char}
    (hflag : flag = "true".toList ∨ flag = "false".toList) (hvalue : '&' ∉ value)
    (h : location.query = some (percentEncode inQuerySet
      ("redirectHash=".toList ++ flag ++ "&nextUrl=".toList ++ value))) :
    (Url.ofLocation location).searchParams =
      [("redirectHash", String.ofList flag), ("nextUrl", String.ofList (formDecode value))] := by
  have hfirst : formParse (percentEncode inQuerySet
      ("redirectHash=".toList ++ flag ++ '&' :: ("nextUrl".toList ++ '=' :: value))) =
      formPair ("redirectHash=".toList ++ flag) ::
        formParse (percentEncode inQuerySet ("nextUrl".toList ++ '=' :: value)) := by
    have hplain : percentEncode inQuerySet ("redirectHash=".toList ++ flag) =
        "redirectHash=".toList ++ flag := by
      rcases hflag with rfl | rfl <;> decide
    have hno : '&' ∉ "redirectHash=".toList ++ flag := by
      rcases hflag with rfl | rfl <;> decide
    rw [percentEncode_append, hplain]
    exact formParse_append (by simp) hno
  have hpair : formPair ("redirectHash=".toList ++ flag) = ("redirectHash", String.ofList flag) := by
    rcases hflag with rfl | rfl <;> decide
  have hsplit : "redirectHash=".toList ++ flag ++ "&nextUrl=".toList ++ value =
      "redirectHash=".toList ++ flag ++ '&' :: ("nextUrl".toList ++ '=' :: value) := by
    rw [List.append_assoc]
    rfl
  have hne : "redirectHash=".toList ++ flag ++ "&nextUrl=".toList ++ value ≠ [] := by
    rw [List.append_assoc, List.append_assoc]
    exact List.append_ne_nil_of_left_ne_nil (by decide) _
  rw [searchParams_of_query (percentEncode_ne_nil hne) h, hsplit, hfirst, hpair,
    formParse_param (by decide) (by decide) (by decide) hvalue]
  rfl

/-! ## The page that was visited -/

/-- The URL of a page with a space for each plus sign. -/
def spacedUrl (page : Location) : String := String.ofList (page.text.map plusToSpace)

theorem not_mem_map_plusToSpace (l : List Char) : '+' ∉ l.map plusToSpace := by
  intro h
  obtain ⟨c, -, hc⟩ := List.mem_map.mp h
  unfold plusToSpace at hc
  split_ifs at hc with heq
  · revert hc
    decide
  · exact heq hc

theorem map_plusToSpace_of_not_mem {l : List Char} (h : '+' ∉ l) : l.map plusToSpace = l := by
  refine (List.map_congr_left fun c hc => ?_).trans (List.map_id l)
  exact if_neg fun heq : c = '+' => h (heq ▸ hc)

theorem text_ascii (page : Location) : ∀ c ∈ page.text, c.toNat < 128 := by
  have hpath : ∀ c ∈ pathText page.path, c.toNat < 128 :=
    fun c hc => (printable_of_path (mem_pathText page.isSegment c hc)).2
  intro c hc
  rcases page.text_eq with ⟨-, htext⟩ | ⟨query, hquery, -, htext⟩
  · rw [htext] at hc
    exact hpath c hc
  · rw [htext] at hc
    rcases List.mem_append.mp hc with hc | hc
    · exact hpath c hc
    · rcases List.mem_cons.mp hc with rfl | hc
      · decide
      · exact (printable_of_query (page.isQuery query hquery c hc)).2

theorem search_of_query {location : Location} {query : List Char} (hne : query ≠ [])
    (h : location.query = some query) : location.search = String.ofList ('?' :: query) := by
  unfold Location.search
  rw [h]
  split
  · rename_i hnone
    cases hnone
  · rename_i hnil
    exact absurd (Option.some.inj hnil) hne
  · rename_i hsome
    rw [Option.some.inj hsome]

theorem plusToSpace_end (c : Char) : plusToSpace c = '?' ∨ plusToSpace c = '#' ↔
    c = '?' ∨ c = '#' := by
  by_cases hc : c = '+'
  · rw [hc]
    decide
  · rw [plusToSpace, if_neg hc]

/-- The path and the query of a page have no hash. -/
theorem hash_not_mem_text (page : Location) : '#' ∉ page.text := by
  have hpath : '#' ∉ pathText page.path := Location.not_mem_pathText (by decide) page.isSegment
  rcases page.text_eq with ⟨-, htext⟩ | ⟨query, hquery, -, htext⟩
  · rw [htext]
    exact hpath
  · rw [htext, List.mem_append, List.mem_cons, not_or, not_or]
    refine ⟨hpath, by decide, fun hmem => ?_⟩
    have h := page.isQuery query hquery '#' hmem
    revert h
    decide

section Spaced

variable {page : Location} {hash : String}

theorem hash_not_mem_spaced {query : List Char} (hquery : page.query = some query) :
    '#' ∉ query.map plusToSpace := by
  intro hmem
  obtain ⟨c, hc, heq⟩ := List.mem_map.mp hmem
  unfold plusToSpace at heq
  split_ifs at heq
  · revert heq
    decide
  · rw [heq] at hc
    have h := page.isQuery query hquery '#' hc
    revert h
    decide

/-- The characters of the URL of a page without a query. -/
theorem spacedUrl_path (hash : String) (hplus : '+' ∉ pathText page.path)
    (htext : page.text = pathText page.path) :
    (spacedUrl page ++ hash).toList = pathText page.path ++ hash.toList := by
  rw [String.toList_append, spacedUrl, String.toList_ofList, htext,
    map_plusToSpace_of_not_mem hplus]

/-- The characters of the URL of a page with a query. -/
theorem spacedUrl_query (hash : String) (hplus : '+' ∉ pathText page.path) {query : List Char}
    (htext : page.text = pathText page.path ++ '?' :: query) : (spacedUrl page ++ hash).toList =
      pathText page.path ++ '?' :: (query.map plusToSpace ++ hash.toList) := by
  have hmap : page.text.map plusToSpace = pathText page.path ++ '?' :: query.map plusToSpace := by
    rw [htext, List.map_append, map_plusToSpace_of_not_mem hplus]
    rfl
  rw [String.toList_append, spacedUrl, String.toList_ofList, hmap, List.append_assoc]
  rfl

/-- The path of a page with a hash leads to the path. -/
theorem locate_path (hhost : Location.NoHost page.path) (hhash : Location.IsHash hash.toList)
    (hprintable : ∀ c ∈ hash.toList, isControlOrSpace c = false) {url : String}
    (hurl : url.toList = pathText page.path ++ hash.toList) (start : Location) :
    ∃ last, start.locate url = some last ∧ last.path = page.path ∧ last.search = "" := by
  have hhashHead : ∀ c rest, hash.toList = c :: rest → c = '?' ∨ c = '#' := by
    intro c rest hc
    rcases hhash with hnil | ⟨rest', hrest⟩
    · rw [hnil] at hc
      cases hc
    · rw [hrest] at hc
      injection hc with hc
      exact Or.inr hc.symm
  have hstays : Stays url.toList := by
    rw [hurl]
    exact Location.stays_pathText page.path_ne_nil page.isSegment hhost hhashHead
  have hclean : clean (pathText page.path ++ hash.toList) = pathText page.path ++ hash.toList := by
    refine clean_of_plain fun c hc => ?_
    rcases List.mem_append.mp hc with hc | hc
    · exact Location.printable_pathText page.isSegment c hc
    · exact hprintable c hc
  obtain ⟨hlast, hnone⟩ := start.resolve_path page.path_ne_nil page.isSegment hhash
  refine ⟨_, start.locate_of_stays hstays, ?_, ?_⟩
  · rw [hurl, hclean, hlast]
  · rw [hurl, hclean, Location.search, hnone]

/-- The URL of a page leads to it. -/
theorem locate_text (hhost : Location.NoHost page.path) (start : Location) :
    ∃ last, start.locate (String.ofList page.text) = some last ∧ last.path = page.path ∧
      last.search = page.search := by
  rcases page.text_eq with ⟨hempty, htext⟩ | ⟨query, hquery, hqne, htext⟩
  · have hurl : (String.ofList page.text).toList = pathText page.path ++ "".toList := by
      rw [String.toList_ofList, htext]
      exact (List.append_nil _).symm
    rw [hempty]
    exact locate_path hhost (Or.inl rfl) (by simp) hurl start
  · have hplain := page.isQuery query hquery
    have hquerytext : Location.IsQueryText query := by
      intro c hc
      refine ⟨(printable_of_query (hplain c hc)).1, ?_⟩
      rintro rfl
      have h := hplain '#' hc
      revert h
      decide
    have hurl : (String.ofList page.text).toList = pathText page.path ++ '?' :: query := by
      rw [String.toList_ofList, htext]
    obtain ⟨last, hlocate, hpath, hlast, -⟩ :=
      start.locate_of_query page.path_ne_nil page.isSegment hhost hquerytext hurl
    rw [percentEncode_of_plain hplain] at hlast
    exact ⟨last, hlocate, hpath, (search_of_query hqne hlast).trans (search_of_query hqne hquery).symm⟩

/-- A URL with a query leads to the path, and no plus sign is left in the query. -/
theorem locate_spacedUrl_query (hhost : Location.NoHost page.path)
    (hplus : '+' ∉ pathText page.path) (hhash : Location.IsHash hash.toList) {query : List Char}
    (hquery : page.query = some query) (htext : page.text = pathText page.path ++ '?' :: query)
    (start : Location) :
    start.locate (spacedUrl page ++ hash) =
        some (start.resolve (clean (spacedUrl page ++ hash).toList)) ∧
      (start.resolve (clean (spacedUrl page ++ hash).toList)).path = page.path ∧
      '+' ∉ (start.resolve (clean (spacedUrl page ++ hash).toList)).search.toList := by
  have hurl := spacedUrl_query hash hplus htext
  have hstays : Stays (spacedUrl page ++ hash).toList := by
    rw [hurl]
    refine Location.stays_pathText page.path_ne_nil page.isSegment hhost fun c rest hc => ?_
    injection hc with hc
    exact Or.inl hc.symm
  have hbefore : '+' ∉ (cut '#' (spacedUrl page ++ hash).toList).1 := by
    have htextNo : '#' ∉ pathText page.path ++ '?' :: query.map plusToSpace := by
      simp only [List.mem_append, List.mem_cons, not_or]
      exact ⟨Location.not_mem_pathText (by decide) page.isSegment, by decide,
        hash_not_mem_spaced hquery⟩
    rw [hurl, ← List.cons_append, ← List.append_assoc, Location.cut_hash htextNo hhash]
    simp only [List.mem_append, List.mem_cons, not_or]
    exact ⟨hplus, by decide, not_mem_map_plusToSpace query⟩
  have hslash : ∃ rest, (spacedUrl page ++ hash).toList = '/' :: rest := by
    obtain ⟨first, rest, hfirst⟩ := List.exists_cons_of_ne_nil page.path_ne_nil
    rw [hurl, hfirst]
    exact ⟨_, rfl⟩
  refine ⟨start.locate_of_stays hstays, ?_, start.not_mem_search hslash hbefore⟩
  obtain ⟨tail, htail⟩ := Location.clean_append (Location.printable_pathText page.isSegment)
    (c := '?') (by decide) (query.map plusToSpace ++ hash.toList)
  rw [hurl, htail, start.resolve_path_of_tail page.isSegment, if_neg page.path_ne_nil]
  intro c rest hc
  injection hc with hc
  exact Or.inl hc.symm

/-- A query without plus signs is kept. -/
theorem search_spacedUrl (hplus : '+' ∉ pathText page.path) (hhash : Location.IsHash hash.toList)
    (hprintable : ∀ c ∈ hash.toList, isControlOrSpace c = false) {query : List Char}
    (hquery : page.query = some query) (hqne : query ≠ [])
    (htext : page.text = pathText page.path ++ '?' :: query)
    (hsearch : '+' ∉ page.search.toList) (start : Location) :
    (start.resolve (clean (spacedUrl page ++ hash).toList)).search = page.search := by
  have hplain := page.isQuery query hquery
  rw [search_of_query hqne hquery, String.toList_ofList] at hsearch
  have hsame : query.map plusToSpace = query :=
    map_plusToSpace_of_not_mem fun h => hsearch (List.mem_cons_of_mem _ h)
  have hclean : clean (pathText page.path ++ '?' :: (query ++ hash.toList)) =
      pathText page.path ++ '?' :: query ++ hash.toList := by
    rw [← List.cons_append, ← List.append_assoc]
    refine clean_of_plain fun c hc => ?_
    rcases List.mem_append.mp hc with hc | hc
    · rcases List.mem_append.mp hc with hc | hc
      · exact Location.printable_pathText page.isSegment c hc
      · rcases List.mem_cons.mp hc with rfl | hc
        · decide
        · exact (printable_of_query (hplain c hc)).1
    · exact hprintable c hc
  have hno := hash_not_mem_spaced hquery
  rw [hsame] at hno
  have hlast := (start.resolve_query page.path_ne_nil page.isSegment hno hhash).2
  rw [percentEncode_of_plain hplain] at hlast
  rw [spacedUrl_query hash hplus htext, hsame, hclean, search_of_query hqne hlast,
    search_of_query hqne hquery]

/-- Where the URL of a page leads after plus signs in its query have become spaces: to its path, and
to a query that is the same unless there was one. -/
theorem locate_spacedUrl (hhost : Location.NoHost page.path) (hplus : '+' ∉ pathText page.path)
    (hash : String) (hhash : Location.IsHash hash.toList)
    (hprintable : ∀ c ∈ hash.toList, isControlOrSpace c = false) (start : Location) :
    ∃ last, start.locate (spacedUrl page ++ hash) = some last ∧ last.path = page.path ∧
      '+' ∉ last.search.toList ∧ ('+' ∉ page.search.toList → last.search = page.search) := by
  rcases page.text_eq with ⟨hempty, htext⟩ | ⟨query, hquery, hqne, htext⟩
  · obtain ⟨last, hlocate, hpath, hsearch⟩ :=
      locate_path hhost hhash hprintable (spacedUrl_path hash hplus htext) start
    refine ⟨last, hlocate, hpath, ?_, fun _ => hsearch.trans hempty.symm⟩
    rw [hsearch]
    decide
  · obtain ⟨hlocate, hpath, hno⟩ := locate_spacedUrl_query hhost hplus hhash hquery htext start
    exact ⟨_, hlocate, hpath, hno, fun hsearch =>
      search_spacedUrl hplus hhash hprintable hquery hqne htext hsearch start⟩

/-- Wherever it leads, no plus sign is left. -/
theorem not_mem_of_locate_spacedUrl (hhash : Location.IsHash hash.toList) {start last : Location}
    (h : start.locate (spacedUrl page ++ hash) = some last) :
    '+' ∉ last.pathname.toList ∧ '+' ∉ last.search.toList := by
  have hno : '#' ∉ page.text.map plusToSpace := by
    intro hmem
    obtain ⟨c, hc, heq⟩ := List.mem_map.mp hmem
    rcases (plusToSpace_end c).mp (Or.inr heq) with rfl | rfl
    · exact absurd heq (by decide)
    · exact hash_not_mem_text page hc
  have hurl : (spacedUrl page ++ hash).toList = page.text.map plusToSpace ++ hash.toList := by
    rw [String.toList_append, spacedUrl, String.toList_ofList]
  have hbefore : '+' ∉ (cut '#' (spacedUrl page ++ hash).toList).1 := by
    rw [hurl, Location.cut_hash hno hhash]
    exact not_mem_map_plusToSpace _
  have hslash : ∃ rest, (spacedUrl page ++ hash).toList = '/' :: rest := by
    obtain ⟨first, rest, hfirst⟩ := List.exists_cons_of_ne_nil page.path_ne_nil
    rw [hurl, Location.text, Location.pathname, String.toList_ofList, hfirst]
    exact ⟨_, rfl⟩
  have hlast : last = start.resolve (clean (spacedUrl page ++ hash).toList) := by
    unfold Location.locate at h
    dsimp only at h
    split_ifs at h
    exact (Option.some.inj h).symm
  rw [hlast]
  exact ⟨start.not_mem_pathname hslash hbefore, start.not_mem_search hslash hbefore⟩

end Spaced

/-! ## What is accepted -/

theorem urlPath_of_text {page : Location} {f : Char → Char} (hf : ∀ c, f c = '?' ∨ f c = '#' ↔
    c = '?' ∨ c = '#') : urlPath (String.ofList (page.text.map f)) =
      String.ofList ((pathText page.path).map f) := by
  have hpath : ∀ c ∈ (pathText page.path).map f, (decide (c ≠ '?') && decide (c ≠ '#')) = true := by
    intro c hc
    obtain ⟨d, hd, rfl⟩ := List.mem_map.mp hc
    have hplain := mem_pathText page.isSegment d hd
    have hno : ¬(d = '?' ∨ d = '#') := by
      rintro (rfl | rfl)
      · revert hplain
        decide
      · revert hplain
        decide
    rw [← hf d] at hno
    simpa [not_or] using hno
  rw [urlPath, String.toList_ofList]
  rcases page.text_eq with ⟨-, htext⟩ | ⟨query, -, -, htext⟩
  · rw [htext, List.takeWhile_eq_self_iff.mpr hpath]
  · have hend : (decide (f '?' ≠ '?') && decide (f '?' ≠ '#')) = false := by
      have h := (hf '?').mpr (Or.inl rfl)
      rcases h with h | h <;> simp [h]
    rw [htext, List.map_append, List.map_cons, List.takeWhile_append_of_pos hpath,
      List.takeWhile_cons_of_neg (p := fun c => decide (c ≠ '?') && decide (c ≠ '#'))
        (fun h => Bool.false_ne_true (hend.symm.trans h)), List.append_nil]

theorem not_mem_of_nextPath {rest : String} (h : NextPath rest) : '+' ∉ rest.toList := by
  rcases h with rfl | rfl | h
  · decide
  · decide
  · obtain ⟨d, l, hs, hd, -, hl⟩ := isNextUrlPath_iff.mp h
    intro hmem
    rw [hs] at hmem
    rcases List.mem_cons.mp hmem with h | hmem
    · revert h
      decide
    · rcases List.mem_cons.mp hmem with rfl | hmem
      · revert hd
        decide
      · have hplus := hl '+' hmem
        revert hplus
        decide

/-- The URL of a visited page, as the validator sees it before and after the login redirects. -/
structure Accepted (server : Server) (page : Location) (url : Url) : Prop where
  pathname : page.pathname = server.serverBasePath ++ url.pathname
  noHost : Location.NoHost page.path
  next : NextPath url.pathname

theorem pathname_ne_empty (location : Location) : location.pathname ≠ "" := by
  obtain ⟨first, rest, hpath⟩ := List.exists_cons_of_ne_nil location.path_ne_nil
  intro hempty
  have hchars := congrArg String.toList hempty
  rw [Location.pathname, String.toList_ofList, hpath] at hchars
  cases hchars

/-- What an accepted URL has behind the base path is a path that the validator knows. -/
theorem nextPath_of_accepted {server : Server} {page served : Location}
    (hpathname : page.pathname = server.serverBasePath ++ served.pathname)
    (haccepted : validateNextUrl (some (page.pathname ++ page.search))
      (some server.serverBasePath) = none) : NextPath served.pathname := by
  have hne : page.pathname ++ page.search ≠ "" := by
    intro hempty
    have hchars := congrArg String.toList hempty
    rw [String.toList_append] at hchars
    exact pathname_ne_empty page (String.toList_inj.mp (List.append_eq_nil_iff.mp hchars).1)
  obtain ⟨rest, hrest, hnext⟩ := (validateNextUrl_eq_none_iff hne).mp haccepted
  have hurl : page.pathname ++ page.search = String.ofList (page.text.map id) := by
    rw [List.map_id, Location.text, String.ofList_append, String.ofList_toList,
      String.ofList_toList]
  rw [hurl, urlPath_of_text (f := id) (by simp), List.map_id] at hrest
  have hsame : served.pathname = rest := by
    have hboth : server.serverBasePath ++ served.pathname =
        server.serverBasePath ++ rest := hpathname.symm.trans hrest
    exact (String.append_right_inj _).mp hboth
  rwa [hsame]

theorem accepted_of_visits {server : Server} {page : Location} {url : Url}
    (hvisit : Visits server.serverBasePath page url)
    (haccepted : validateNextUrl (some (page.pathname ++ page.search))
      (some server.serverBasePath) = none) : Accepted server page url := by
  obtain ⟨base, served, hbase, hfirst, hpath, -, rfl⟩ := hvisit
  have hpathname : page.pathname = server.serverBasePath ++ served.pathname := by
    rw [Location.pathname, hpath, hbase, Location.pathname, ← String.ofList_append, pathText,
      List.flatMap_append]
    rfl
  have hnext := nextPath_of_accepted hpathname haccepted
  refine ⟨hpathname, fun rest hrest => ?_, hnext⟩
  cases base with
  | cons first base =>
    rw [hpath, List.cons_append] at hrest
    injection hrest with hnil
    exact absurd (congrArg some hnil) hfirst
  | nil =>
    rw [hpath, List.nil_append] at hrest
    cases rest with
    | nil => rfl
    | cons second rest =>
      have hchars : served.pathname.toList = '/' :: '/' :: (second ++ pathText rest) := by
        rw [Location.pathname, String.toList_ofList, hrest]
        rfl
      rcases hnext with hnext | hnext | hnext
      · exact absurd hnext (pathname_ne_empty served)
      · rw [hnext] at hchars
        cases hchars
      · obtain ⟨d, l, hd, hname, -⟩ := isNextUrlPath_iff.mp hnext
        rw [hd] at hchars
        injection hchars with _ hchars
        injection hchars with hslash
        rw [hslash] at hname
        exact absurd hname (by decide)

theorem spacedUrl_ne_empty (page : Location) : spacedUrl page ≠ "" := by
  intro hempty
  have hchars := congrArg String.toList hempty
  rw [spacedUrl, String.toList_ofList] at hchars
  obtain ⟨first, rest, hfirst⟩ := List.exists_cons_of_ne_nil page.path_ne_nil
  rw [Location.text, Location.pathname, hfirst] at hchars
  simp [pathText] at hchars

/-- After the first redirect the URL is still accepted, unless the base path has a plus sign. -/
theorem spacedUrl_accepted_iff {server : Server} {page : Location} {url : Url}
    (h : Accepted server page url) :
    validateNextUrl (some (spacedUrl page)) (some server.serverBasePath) = none ↔
      '+' ∉ server.serverBasePath.toList := by
  have hrest := not_mem_of_nextPath h.next
  have hpath : pathText page.path = server.serverBasePath.toList ++ url.pathname.toList := by
    rw [← String.toList_append, ← h.pathname, Location.pathname, String.toList_ofList]
  have hurl : urlPath (spacedUrl page) =
      String.ofList (server.serverBasePath.toList.map plusToSpace) ++ url.pathname := by
    rw [spacedUrl, urlPath_of_text plusToSpace_end, hpath, List.map_append,
      map_plusToSpace_of_not_mem hrest, String.ofList_append, String.ofList_toList]
  rw [validateNextUrl_eq_none_iff (spacedUrl_ne_empty page), hurl]
  constructor
  · rintro ⟨rest, heq, -⟩ hmem
    have hchars := congrArg String.toList heq
    rw [String.toList_append, String.toList_append, String.toList_ofList] at hchars
    have hplus : '+' ∈ server.serverBasePath.toList.map plusToSpace ++ url.pathname.toList := by
      rw [hchars]
      exact List.mem_append_left _ hmem
    rcases List.mem_append.mp hplus with hplus | hplus
    · exact not_mem_map_plusToSpace _ hplus
    · exact hrest hplus
  · intro hno
    rw [map_plusToSpace_of_not_mem hno, String.ofList_toList]
    exact ⟨url.pathname, rfl, h.next⟩

/-! ## The routes of a type -/

theorem query_nextUrl {url : Url} {nextUrl : String}
    (h : url.searchParams = [("nextUrl", nextUrl)]) : url.query "nextUrl" = .str nextUrl := by
  simp [Url.query, h]

/-- A query with `nextUrl` alone is accepted with it. -/
theorem accepts_nextUrl {url : Url} {nextUrl : String} (schema : FieldSchema)
    (h : url.searchParams = [("nextUrl", nextUrl)]) :
    QuerySchema.accepts { fields := [("nextUrl", schema)] } url = schema.accepts (.str nextUrl) := by
  simp [QuerySchema.accepts, h, query_nextUrl h]

theorem nextUrlSchema_accepts_iff (server : Server) (nextUrl : String) :
    (nextUrlSchema server).accepts (.str nextUrl) = true ↔
      validateNextUrl (some nextUrl) (some server.serverBasePath) = none := by
  rw [nextUrlSchema, FieldSchema.accepts, Option.isNone_iff_eq_none]

/-- The route at a page. -/
def Tab.IsAt (tab : Tab) (server : Server) (route : Route) : Prop :=
  tab.page.pathname = server.serverBasePath ++ route.path

/-- What a type does with a `nextUrl`: it shows its fragment pages, keeps what its login route
receives, and redirects to it after the login. -/
structure Carries (server : Server) (template : Location → Request) (routes : IdpRoutes)
    (directory : List (List Char)) (back : Location) : Prop where
  directory_isSegment : ∀ segment ∈ directory, IsSegment segment
  directory_ne_nil : directory ≠ []
  directory_noHost : directory.head? ≠ some []
  capturePath : routes.capture.path =
    String.ofList (pathText (directory ++ ["captureUrlFragment".toList]))
  loginPath : routes.login.path = String.ofList (pathText (directory ++ ["login".toList]))
  appendPath : routes.append.path =
    String.ofList (pathText (directory ++ ["redirectUrlFragment".toList]))
  captureQuery : routes.capture.query = { fields := [("nextUrl", nextUrlSchema server)] }
  appendQuery : routes.append.query = { fields := [("nextUrl", .any)] }
  captureShown : ∀ request, ∃ response w, (routes.capture.handler request).exec {} = (.ok response, w)
  appendShown : ∀ request, ∃ response w, (routes.append.handler request).exec {} = (.ok response, w)
  carries : ∀ (tab : Tab) (redirectHash nextUrl : String), tab.IsAt server routes.login →
    (Url.ofLocation tab.page).searchParams =
      [("redirectHash", redirectHash), ("nextUrl", nextUrl)] →
    nextUrl ≠ "" → validateNextUrl (some nextUrl) (some server.serverBasePath) = none →
    ∃ response tab' tab'', routes.login.serve server template tab = some (response, tab') ∧
      routes.callback.serve server template (tab'.returnTo back) = some (.redirected
        (if redirectHash = "true" then
          server.serverBasePath ++ routes.append.path ++ "?nextUrl=" ++ Js.escape nextUrl
        else nextUrl), tab'') ∧
      tab''.page = back ∧ tab''.stored = tab.stored

section Flow

variable {server : Server} {template : Location → Request} {routes : IdpRoutes}
  {directory : List (List Char)} {back : Location}

theorem serve_eq {route : Route} {tab : Tab} (hat : tab.IsAt server route)
    (haccepts : route.query.accepts (Url.ofLocation tab.page) = true) {response : RouteResponse}
    {w : World} (hexec : (route.handler (tab.request template)).exec {} = (.ok response, w)) :
    route.serve server template tab = some (response, tab.answered w) := by
  rw [Route.serve, if_pos ⟨hat, haccepts⟩, hexec]

theorem serve_of_ok (template : Location → Request) {route : Route} {tab : Tab}
    (hat : tab.IsAt server route) (haccepts : route.query.accepts (Url.ofLocation tab.page) = true)
    (hok : ∀ request, ∃ response w, (route.handler request).exec {} = (.ok response, w)) :
    ∃ response tab', route.serve server template tab = some (response, tab') ∧
      tab'.page = tab.page ∧ tab'.stored = tab.stored := by
  obtain ⟨response, w, hexec⟩ := hok (tab.request template)
  exact ⟨response, _, serve_eq hat haccepts hexec, rfl, rfl⟩

/-- A redirect to a route of the type. -/
theorem redirect_to_route {base path : List (List Char)} (hne : path ≠ [])
    (h : ∀ segment ∈ base ++ path, IsSegment segment) (hbase : base.head? ≠ some [])
    (hpath : path.head? ≠ some []) {query : String} (hquery : Location.IsQueryText query.toList)
    (start : Location) :
    ∃ last, start.redirect (String.ofList (pathText base) ++ String.ofList (pathText path) ++ "?" ++
        query) = some last ∧
      last.path = base ++ path ∧ last.query = some (percentEncode inQuerySet query.toList) ∧
      last.fragment = start.fragment := by
  have hhost : Location.NoHost (base ++ path) := by
    intro rest hrest
    cases base with
    | nil =>
      rw [List.nil_append] at hrest
      rw [hrest] at hpath
      exact absurd rfl hpath
    | cons first base =>
      injection hrest with hfirst
      rw [hfirst] at hbase
      exact absurd rfl hbase
  have hurl : (String.ofList (pathText base) ++ String.ofList (pathText path) ++ "?" ++
      query).toList = pathText (base ++ path) ++ '?' :: query.toList := by
    rw [String.toList_append, String.toList_append, String.toList_append, String.toList_ofList,
      String.toList_ofList, pathText, pathText, pathText, List.flatMap_append, List.append_assoc]
    rfl
  have hne' : base ++ path ≠ [] := List.append_ne_nil_of_right_ne_nil _ hne
  obtain ⟨located, hlocate, hlpath, hlquery, hlfragment⟩ :=
    start.locate_of_query hne' h hhost hquery hurl
  obtain ⟨last, hredirect, hpath', hquery', hfragment⟩ := start.redirect_of_locate hlocate
  refine ⟨last, hredirect, hpath'.trans hlpath, hquery'.trans hlquery, ?_⟩
  rw [hfragment, hlfragment]
  rfl

theorem isAt_of_path {base path : List (List Char)} {tab : Tab} {route : Route}
    (hbase : server.serverBasePath = String.ofList (pathText base))
    (hroute : route.path = String.ofList (pathText path)) (hpath : tab.page.path = base ++ path) :
    tab.IsAt server route := by
  rw [Tab.IsAt, Location.pathname, hpath, hbase, hroute, ← String.ofList_append, pathText, pathText,
    pathText, List.flatMap_append]

theorem isQueryText_param {name : List Char} (hname : Location.IsQueryText name) {value : String}
    (hvalue : ∀ c ∈ value.toList, IsValueChar c) :
    Location.IsQueryText (name ++ value.toList) := by
  intro c hc
  rcases List.mem_append.mp hc with hc | hc
  · exact hname c hc
  · exact ⟨(hvalue c hc).1, (hvalue c hc).2.1⟩

theorem isSegment_capture : IsSegment "captureUrlFragment".toList :=
  ⟨by decide, by decide, by decide, by decide⟩

theorem isSegment_login : IsSegment "login".toList := ⟨by decide, by decide, by decide, by decide⟩

theorem isSegment_append : IsSegment "redirectUrlFragment".toList :=
  ⟨by decide, by decide, by decide, by decide⟩

theorem hash_congr {location other : Location} (h : location.fragment = other.fragment) :
    location.hash = other.hash := by
  unfold Location.hash
  rw [h]

/-- The page that a redirect leads to finds `nextUrl` as it is read back. -/
theorem follow_nextUrl (hc : Carries server template routes directory back)
    {encode : String → String} {read : Char → Char} (hread : ReadBack encode read)
    {base : List (List Char)} (hbase : server.serverBasePath = String.ofList (pathText base))
    (hsegments : ∀ segment ∈ base, IsSegment segment) (hfirst : base.head? ≠ some [])
    {name : List Char} (hname : IsSegment name) {route : Route}
    (hroute : route.path = String.ofList (pathText (directory ++ [name]))) {text : List Char}
    (hascii : ∀ c ∈ text, c.toNat < 128) (tab : Tab) :
    ∃ tab', tab.follow (server.serverBasePath ++ route.path ++ "?nextUrl=" ++
        encode (String.ofList text)) = some tab' ∧
      tab'.page.path = base ++ (directory ++ [name]) ∧ tab'.IsAt server route ∧
      (Url.ofLocation tab'.page).searchParams =
        [("nextUrl", String.ofList (text.map read))] ∧
      tab'.page.fragment = tab.page.fragment ∧ tab'.stored = tab.stored := by
  have hall : ∀ segment ∈ base ++ (directory ++ [name]), IsSegment segment := by
    intro segment hs
    rcases List.mem_append.mp hs with hs | hs
    · exact hsegments segment hs
    · rcases List.mem_append.mp hs with hs | hs
      · exact hc.directory_isSegment segment hs
      · rwa [List.mem_singleton.mp hs]
  have hhead : (directory ++ [name]).head? ≠ some [] := by
    obtain ⟨first, rest, hdirectory⟩ := List.exists_cons_of_ne_nil hc.directory_ne_nil
    have hnoHost := hc.directory_noHost
    rw [hdirectory] at hnoHost ⊢
    exact hnoHost
  have hvalue := hread.isValueChar (String.ofList text)
  have hquery : Location.IsQueryText ("nextUrl=" ++ encode (String.ofList text)).toList := by
    rw [String.toList_append]
    exact isQueryText_param (by decide) hvalue
  obtain ⟨page, hredirect, hpath, hpageQuery, hfragment⟩ :=
    redirect_to_route (by simp) hall hfirst hhead hquery tab.page
  have hurl : server.serverBasePath ++ route.path ++ "?nextUrl=" ++ encode (String.ofList text) =
      String.ofList (pathText base) ++ String.ofList (pathText (directory ++ [name])) ++ "?" ++
        ("nextUrl=" ++ encode (String.ofList text)) := by
    have hsplit : "?nextUrl=" = "?" ++ "nextUrl=" := by decide
    rw [hbase, hroute, hsplit, ← String.append_assoc, String.append_assoc]
  rw [String.toList_append] at hpageQuery
  have hparams := searchParams_nextUrl (fun h => (hvalue '&' h).2.2 rfl) hpageQuery
  rw [hread.decodes text hascii] at hparams
  rw [hurl, Tab.follow, hredirect, Option.map_some]
  exact ⟨_, rfl, hpath, isAt_of_path hbase hroute hpath, hparams, hfragment, rfl⟩

theorem nextUrlOf_eq {page : Location} {nextUrl : String}
    (h : (Url.ofLocation page).searchParams = [("nextUrl", nextUrl)]) :
    nextUrlOf page = some nextUrl := by
  rw [nextUrlOf, Url.param, h]
  rfl

/-- The URL to which the script of the capture page goes. -/
theorem captureScript_url {page : Location} {nextUrl : String} (hne : nextUrl ≠ "")
    (hnext : nextUrlOf page = some nextUrl) (stored : Option String) :
    (captureUrlFragmentScript page stored).2.toList =
      "login".toList ++ '?' :: ("redirectHash=".toList ++
        (if page.hash != "" then "true" else "false").toList ++ "&nextUrl=".toList ++
        (Js.encodeURIComponent nextUrl).toList) := by
  have hencoded : Js.encodeURIComponent (if page.hash != "" then "true" else "false") =
      if page.hash != "" then "true" else "false" := by
    split_ifs <;> decide
  have hsome : (some nextUrl).filter (· != "") = some nextUrl := by simp [hne]
  rw [captureUrlFragmentScript, hnext, hsome]
  dsimp only
  rw [hencoded, String.toList_append, String.toList_append, String.toList_append]
  rfl

theorem isQueryText_capture (page : Location) (nextUrl : String) :
    Location.IsQueryText ("redirectHash=".toList ++
      (if page.hash != "" then "true" else "false").toList ++ "&nextUrl=".toList ++
      (Js.encodeURIComponent nextUrl).toList) := by
  refine isQueryText_param ?_ (isValueChar_encodeURIComponent nextUrl)
  split_ifs <;> decide

/-- The script of the capture page goes to the login route with the same `nextUrl`. -/
theorem run_capture (hc : Carries server template routes directory back)
    {base : List (List Char)} (hbase : server.serverBasePath = String.ofList (pathText base))
    {tab : Tab} (hpath : tab.page.path = base ++ (directory ++ ["captureUrlFragment".toList]))
    {nextUrl : String} (hne : nextUrl ≠ "")
    (hparams : (Url.ofLocation tab.page).searchParams = [("nextUrl", nextUrl)]) :
    ∃ tab', tab.run captureUrlFragmentScript = some tab' ∧ tab'.IsAt server routes.login ∧
      (Url.ofLocation tab'.page).searchParams =
        [("redirectHash", if tab.page.hash != "" then "true" else "false"), ("nextUrl", nextUrl)] ∧
      tab'.stored = if tab.page.hash != "" then some tab.page.hash else tab.stored := by
  have hvalue := isValueChar_encodeURIComponent nextUrl
  have hflag : (if tab.page.hash != "" then "true" else "false").toList = "true".toList ∨
      (if tab.page.hash != "" then "true" else "false").toList = "false".toList := by
    split_ifs
    · exact Or.inl rfl
    · exact Or.inr rfl
  obtain ⟨page, hlocate, hpagePath, hpageQuery⟩ := tab.page.locate_of_name isSegment_login
    (by decide) (isQueryText_capture tab.page nextUrl) (by decide)
    (captureScript_url hne (nextUrlOf_eq hparams) tab.stored)
  have hlogin : page.path = base ++ (directory ++ ["login".toList]) := by
    rw [hpagePath, hpath, ← List.append_assoc, List.dropLast_concat, List.append_assoc]
  have hdecoded := searchParams_login hflag (fun h => (hvalue '&' h).2.2 rfl) hpageQuery
  rw [Js.formDecode_encodeURIComponent, String.ofList_toList, String.ofList_toList] at hdecoded
  rw [Tab.run, hlocate, Option.map_some]
  exact ⟨_, rfl, isAt_of_path hbase hc.loginPath hlogin, hdecoded, rfl⟩

theorem appendFragment_at {tab : Tab} (hat : tab.IsAt server routes.append) :
    appendFragment server template routes tab =
      (routes.append.serve server template tab).bind fun shown =>
        shown.2.run redirectUrlFragmentScript := if_pos hat

/-- The script of the other page goes to `nextUrl` with the stored hash. -/
theorem appendFragment_run (hc : Carries server template routes directory back) {tab : Tab}
    (hat : tab.IsAt server routes.append) {nextUrl : String}
    (hparams : (Url.ofLocation tab.page).searchParams = [("nextUrl", nextUrl)]) :
    ∃ tab' : Tab, appendFragment server template routes tab =
      (tab.page.locate (nextUrl ++ orNull tab.stored)).map fun page =>
        { tab' with page, stored := none } := by
  have haccepted : routes.append.query.accepts (Url.ofLocation tab.page) = true := by
    rw [hc.appendQuery, accepts_nextUrl _ hparams]
    rfl
  obtain ⟨response, tab', hserve, hpage, hstored⟩ :=
    serve_of_ok template hat haccepted hc.appendShown
  refine ⟨tab', ?_⟩
  rw [appendFragment_at hat, hserve, Option.bind_some, Tab.run, hpage, hstored,
    redirectUrlFragmentScript, nextUrlOf_eq hparams]
  rfl

theorem isHash_hash (page : Location) : Location.IsHash page.hash.toList := by
  unfold Location.hash
  split
  · exact Or.inl rfl
  · exact Or.inl rfl
  · rename_i text _ _
    exact Or.inr ⟨text, String.toList_ofList⟩

theorem printable_hash (page : Location) : ∀ c ∈ page.hash.toList, isControlOrSpace c = false := by
  unfold Location.hash
  split
  · simp
  · simp
  · rename_i text _ htext
    intro c hc
    rw [String.toList_ofList] at hc
    rcases List.mem_cons.mp hc with rfl | hc
    · decide
    · exact printable_of_fragment (page.isFragment text htext c hc)

/-- What the capture page finds of the page that was visited. -/
def receivedUrl (read : Char → Char) (page : Location) : String :=
  String.ofList (page.text.map read)

theorem receivedUrl_id (page : Location) : receivedUrl id page = String.ofList page.text := by
  rw [receivedUrl, List.map_id]

/-- What a tab has after the first redirects. -/
theorem flow_start (hc : Carries server template routes directory back)
    {encode : String → String} {read : Char → Char} (hread : ReadBack encode read) {tab : Tab}
    {url : Url} (hvisit : Visits server.serverBasePath tab.page url) :
    ∃ base captured, server.serverBasePath = String.ofList (pathText base) ∧
      (∀ segment ∈ base, IsSegment segment) ∧ base.head? ≠ some [] ∧
      tab.follow (server.serverBasePath ++ routes.capture.path ++ "?nextUrl=" ++
        encode (String.ofList tab.page.text)) = some captured ∧
      captured.page.path = base ++ (directory ++ ["captureUrlFragment".toList]) ∧
      captured.IsAt server routes.capture ∧
      (Url.ofLocation captured.page).searchParams = [("nextUrl", receivedUrl read tab.page)] ∧
      captured.page.hash = tab.page.hash ∧ captured.stored = tab.stored := by
  obtain ⟨base, served, hbase, hfirst, hpath, -, -⟩ := hvisit
  have hsegments : ∀ segment ∈ base, IsSegment segment := by
    intro segment hs
    refine tab.page.isSegment segment ?_
    rw [hpath]
    exact List.mem_append_left _ hs
  obtain ⟨captured, hfollow, hcpath, hat, hparams, hfragment, hstored⟩ :=
    follow_nextUrl hc hread hbase hsegments hfirst isSegment_capture hc.capturePath
      (text_ascii tab.page) tab
  exact ⟨base, captured, hbase, hsegments, hfirst, hfollow, hcpath, hat, hparams,
    hash_congr hfragment, hstored⟩

theorem loginFlow_redirected (url : String) (cookie : Option String) (tab : Tab) :
    loginFlow server template routes (.redirected url cookie) back tab =
      (tab.follow url).bind fun tab =>
        (routes.capture.serve server template tab).bind fun shown =>
          (shown.2.run captureUrlFragmentScript).bind fun tab =>
            (routes.login.serve server template tab).bind fun started =>
              (routes.callback.serve server template (started.2.returnTo back)).bind fun answer =>
                (followResponse answer).bind (appendFragment server template routes) := rfl

/-- A URL that the capture page rejects ends the flow. -/
theorem loginFlow_rejected (hc : Carries server template routes directory back)
    {encode : String → String} {read : Char → Char} (hread : ReadBack encode read) {tab : Tab}
    {url : Url} (hvisit : Visits server.serverBasePath tab.page url)
    (hrejected : validateNextUrl (some (receivedUrl read tab.page)) (some server.serverBasePath) ≠
      none) (cookie : Option String) :
    loginFlow server template routes (.redirected (server.serverBasePath ++ routes.capture.path ++
      "?nextUrl=" ++ encode (String.ofList tab.page.text)) cookie) back tab = none := by
  obtain ⟨base, captured, -, -, -, hfollow, -, -, hparams, -, -⟩ := flow_start hc hread hvisit
  have haccepts : ¬(routes.capture.query.accepts (Url.ofLocation captured.page) = true) := by
    rw [hc.captureQuery, accepts_nextUrl _ hparams, nextUrlSchema_accepts_iff]
    exact hrejected
  have hserve : routes.capture.serve server template captured = none := by
    rw [Route.serve, if_neg fun h => haccepts h.2]
  rw [loginFlow_redirected, hfollow, Option.bind_some, hserve, Option.bind_none]

/-- With a URL that the capture page accepts, the login redirects to it, or with a hash to the page
that appends it. -/
theorem loginFlow_accepted (hc : Carries server template routes directory back)
    {encode : String → String} {read : Char → Char} (hread : ReadBack encode read) {tab : Tab}
    {url : Url} (hvisit : Visits server.serverBasePath tab.page url)
    (hne : receivedUrl read tab.page ≠ "")
    (hvalid : validateNextUrl (some (receivedUrl read tab.page)) (some server.serverBasePath) = none)
    (cookie : Option String) :
    ∃ done : Tab, loginFlow server template routes (.redirected (server.serverBasePath ++
        routes.capture.path ++ "?nextUrl=" ++ encode (String.ofList tab.page.text)) cookie)
        back tab =
      (followResponse (.redirected (if tab.page.hash = "" then receivedUrl read tab.page
        else server.serverBasePath ++ routes.append.path ++ "?nextUrl=" ++
          Js.escape (receivedUrl read tab.page)), done)).bind
        (appendFragment server template routes) ∧
      (tab.page.hash ≠ "" → orNull done.stored = tab.page.hash) := by
  obtain ⟨base, captured, hbase, -, -, hfollow, hcpath, hcat, hcparams, hchash, -⟩ :=
    flow_start hc hread hvisit
  -- The capture page is shown, and its script goes to the login route.
  have hcaccepts : routes.capture.query.accepts (Url.ofLocation captured.page) = true := by
    rw [hc.captureQuery, accepts_nextUrl _ hcparams, nextUrlSchema_accepts_iff]
    exact hvalid
  obtain ⟨_, shown, hshown, hspage, hsstored⟩ :=
    serve_of_ok template hcat hcaccepts hc.captureShown
  rw [← hspage] at hcpath hcparams hchash
  obtain ⟨login, hlogin, hlat, hlparams, hlstored⟩ := run_capture hc hbase hcpath hne hcparams
  rw [hchash] at hlparams hlstored
  -- The login keeps the URL, and redirects to it or to the page that appends the hash.
  obtain ⟨_, started, done, hstarted, hdone, hdpage, hdstored⟩ :=
    hc.carries login _ _ hlat hlparams hne hvalid
  refine ⟨done, ?_, fun hhash => ?_⟩
  · rw [loginFlow_redirected, hfollow, Option.bind_some, hshown, Option.bind_some, hlogin,
      Option.bind_some, hstarted, Option.bind_some, hdone, Option.bind_some]
    by_cases hhash : tab.page.hash = ""
    · rw [hhash, if_neg (by simp), if_pos rfl]
    · have hflag : (tab.page.hash != "") = true := by simp [hhash]
      rw [hflag, if_pos rfl, if_pos rfl, if_neg hhash]
  · rw [hdstored, hlstored, if_pos (by simp [hhash])]
    rfl

theorem plus_not_mem_path {page : Location} {url : Url} (haccepted : Accepted server page url)
    (hplus : '+' ∉ server.serverBasePath.toList) : '+' ∉ pathText page.path := by
  have hpath : pathText page.path = server.serverBasePath.toList ++ url.pathname.toList := by
    rw [← String.toList_append, ← haccepted.pathname, Location.pathname, String.toList_ofList]
  rw [hpath, List.mem_append, not_or]
  exact ⟨hplus, not_mem_of_nextPath haccepted.next⟩

/-- A page without a plus sign in its pathname has none in the base path either. -/
theorem plus_not_mem_base {page : Location} {url : Url} (haccepted : Accepted server page url)
    (hplus : '+' ∉ page.pathname.toList) : '+' ∉ server.serverBasePath.toList := by
  rw [haccepted.pathname, String.toList_append, List.mem_append, not_or] at hplus
  exact hplus.1

variable (template) in
/-- A page to which the login redirects at once is where the flow ends. -/
theorem arrives_directly {page located : Location} {url : Url}
    (haccepted : Accepted server page url) (hno : url.pathname ≠ routes.append.path)
    {target : String} {done : Tab} (hlocate : done.page.locate target = some located)
    (hpath : located.path = page.path) :
    ∃ last, (followResponse (.redirected target, done)).bind
        (appendFragment server template routes) = some last ∧
      last.page.path = page.path ∧ last.page.search = located.search := by
  obtain ⟨last, hredirect, hlpath, hquery, -⟩ := done.page.redirect_of_locate hlocate
  have hfollowed : followResponse (.redirected target, done) = some { done with page := last } := by
    rw [followResponse, Tab.follow, hredirect]
    rfl
  have hnotAppend : ¬last.pathname = server.serverBasePath ++ routes.append.path := by
    rw [Location.pathname_congr (hlpath.trans hpath), haccepted.pathname]
    exact fun heq => hno ((String.append_right_inj _).mp heq)
  rw [hfollowed, Option.bind_some, appendFragment, if_neg hnotAppend]
  exact ⟨_, rfl, hlpath.trans hpath, Location.search_congr hquery⟩

/-- With a hash the login redirects to the page that appends it to the visited page, read with spaces
for plus signs. -/
theorem arrives_appended (hc : Carries server template routes directory back)
    {url : Url} {page : Location} (hvisit : Visits server.serverBasePath page url)
    {sent : List Char} (hascii : ∀ c ∈ sent, c.toNat < 128)
    (hsent : sent.map plusToSpace = page.text.map plusToSpace) {done : Tab}
    (hstored : orNull done.stored = page.hash) :
    ∃ (start : Location) (tab : Tab), (followResponse (.redirected (server.serverBasePath ++
        routes.append.path ++ "?nextUrl=" ++ Js.escape (String.ofList sent)), done)).bind
        (appendFragment server template routes) =
      (start.locate (spacedUrl page ++ page.hash)).map fun page =>
        { tab with page, stored := none } := by
  obtain ⟨base, served, hbase, hfirst, hpath, -, -⟩ := hvisit
  have hsegments : ∀ segment ∈ base, IsSegment segment := by
    intro segment hs
    refine page.isSegment segment ?_
    rw [hpath]
    exact List.mem_append_left _ hs
  obtain ⟨appending, hafollow, -, haat, haparams, -, hastored⟩ :=
    follow_nextUrl hc readBack_escape hbase hsegments hfirst isSegment_append hc.appendPath hascii
      done
  rw [hsent] at haparams
  obtain ⟨tab, happend⟩ := appendFragment_run hc haat haparams
  rw [hastored, hstored] at happend
  refine ⟨appending.page, tab, ?_⟩
  rw [followResponse, hafollow, Option.bind_some, happend, spacedUrl]

/-- An appended hash leads to the visited page exactly if no plus sign is read as a space. -/
theorem endsOn_appended_iff {page : Location} {url : Url} (haccepted : Accepted server page url)
    (start : Location) (tab : Tab) :
    EndsOn page ((start.locate (spacedUrl page ++ page.hash)).map fun page =>
        { tab with page, stored := none }) ↔
      '+' ∉ server.serverBasePath.toList ∧ '+' ∉ page.search.toList := by
  constructor
  · rintro ⟨last, hlast, hpathname, hsearch⟩
    obtain ⟨located, hlocate, rfl⟩ := Option.map_eq_some_iff.mp hlast
    obtain ⟨hpath, hquery⟩ := not_mem_of_locate_spacedUrl (isHash_hash page) hlocate
    rw [hpathname] at hpath
    rw [hsearch] at hquery
    exact ⟨plus_not_mem_base haccepted hpath, hquery⟩
  · rintro ⟨hplus, hsearchPlus⟩
    obtain ⟨located, hlocate, hpath, -, hsearch⟩ := locate_spacedUrl haccepted.noHost
      (plus_not_mem_path haccepted hplus) page.hash (isHash_hash page) (printable_hash page) start
    rw [hlocate]
    exact ⟨_, rfl, Location.pathname_congr hpath, hsearch hsearchPlus⟩

theorem spaced_ascii (page : Location) : ∀ c ∈ page.text.map plusToSpace, c.toNat < 128 := by
  intro c hmem
  obtain ⟨d, hd, rfl⟩ := List.mem_map.mp hmem
  unfold plusToSpace
  split_ifs
  · decide
  · exact text_ascii page d hd

/-- With the legacy `escape`, the flow ends on the page that was visited exactly if no plus sign is
lost on the way. -/
theorem escapedFlow_survives_iff (hc : Carries server template routes directory back) {tab : Tab}
    {url : Url} (hvisit : Visits server.serverBasePath tab.page url)
    (hno : url.pathname ≠ routes.append.path)
    (haccepted : validateNextUrl (some (tab.page.pathname ++ tab.page.search))
      (some server.serverBasePath) = none) (cookie : Option String) :
    EndsOn tab.page (loginFlow server template routes (.redirected (server.serverBasePath ++
        routes.capture.path ++ "?nextUrl=" ++ Js.escape (String.ofList tab.page.text)) cookie)
        back tab) ↔
      '+' ∉ server.serverBasePath.toList ∧ '+' ∉ tab.page.search.toList := by
  have hacc := accepted_of_visits hvisit haccepted
  by_cases hvalid : validateNextUrl (some (spacedUrl tab.page)) (some server.serverBasePath) = none
  · have hplus := (spacedUrl_accepted_iff hacc).mp hvalid
    obtain ⟨done, hflow, hstored⟩ := loginFlow_accepted hc readBack_escape hvisit
      (spacedUrl_ne_empty tab.page) hvalid cookie
    rw [hflow]
    by_cases hhash : tab.page.hash = ""
    · rw [if_pos hhash]
      obtain ⟨located, hlocate, hpath, hlplus, hlsearch⟩ := locate_spacedUrl hacc.noHost
        (plus_not_mem_path hacc hplus) "" (Or.inl rfl) (by simp) done.page
      rw [String.append_empty] at hlocate
      obtain ⟨last, hlast, hlpath, hsearch⟩ :=
        arrives_directly template hacc hno hlocate hpath
      have hsame : receivedUrl plusToSpace tab.page = spacedUrl tab.page := rfl
      rw [hsame, hlast]
      constructor
      · rintro ⟨last', heq, -, hsearch'⟩
        obtain rfl := Option.some.inj heq
        rw [← hsearch', hsearch]
        exact ⟨hplus, hlplus⟩
      · rintro ⟨-, hsearchPlus⟩
        exact ⟨last, rfl, Location.pathname_congr hlpath, hsearch.trans (hlsearch hsearchPlus)⟩
    · rw [if_neg hhash]
      obtain ⟨start, tab', happended⟩ := arrives_appended hc hvisit (spaced_ascii tab.page)
        (map_plusToSpace_of_not_mem (not_mem_map_plusToSpace _)) (hstored hhash)
      rw [receivedUrl, happended]
      exact endsOn_appended_iff hacc start tab'
  · rw [loginFlow_rejected hc readBack_escape hvisit hvalid]
    refine iff_of_false (fun ⟨_, h, _⟩ => by cases h) fun h => hvalid ?_
    exact (spacedUrl_accepted_iff hacc).mpr h.1

/-- With `escape` of `querystring`, only a hash that is brought back costs the plus signs. -/
theorem querystringFlow_survives_iff (hc : Carries server template routes directory back) {tab : Tab}
    {url : Url} (hvisit : Visits server.serverBasePath tab.page url)
    (hno : url.pathname ≠ routes.append.path)
    (haccepted : validateNextUrl (some (tab.page.pathname ++ tab.page.search))
      (some server.serverBasePath) = none) (cookie : Option String) :
    EndsOn tab.page (loginFlow server template routes (.redirected (server.serverBasePath ++
        routes.capture.path ++ "?nextUrl=" ++ Js.querystringEscape (String.ofList tab.page.text))
        cookie) back tab) ↔
      tab.page.hash = "" ∨
        '+' ∉ server.serverBasePath.toList ∧ '+' ∉ tab.page.search.toList := by
  have hacc := accepted_of_visits hvisit haccepted
  have hreceived : receivedUrl id tab.page = tab.page.pathname ++ tab.page.search := by
    rw [receivedUrl_id, Location.text, String.ofList_append, String.ofList_toList,
      String.ofList_toList]
  have hne : receivedUrl id tab.page ≠ "" := by
    rw [hreceived]
    intro hempty
    have hchars := congrArg String.toList hempty
    rw [String.toList_append] at hchars
    exact pathname_ne_empty tab.page (String.toList_inj.mp (List.append_eq_nil_iff.mp hchars).1)
  obtain ⟨done, hflow, hstored⟩ := loginFlow_accepted hc readBack_querystringEscape hvisit hne
    (hreceived ▸ haccepted) cookie
  rw [hflow, receivedUrl_id]
  by_cases hhash : tab.page.hash = ""
  · rw [if_pos hhash]
    obtain ⟨located, hlocate, hpath, hsearch⟩ := locate_text hacc.noHost done.page
    obtain ⟨last, hlast, hlpath, hlsearch⟩ :=
      arrives_directly template hacc hno hlocate hpath
    rw [hlast]
    exact iff_of_true ⟨last, rfl, Location.pathname_congr hlpath, hlsearch.trans hsearch⟩
      (Or.inl hhash)
  · rw [if_neg hhash, or_iff_right hhash]
    obtain ⟨start, tab', happended⟩ :=
      arrives_appended hc hvisit (text_ascii tab.page) rfl (hstored hhash)
    rw [happended]
    exact endsOn_appended_iff hacc start tab'

end Flow

/-! ## OpenID -/

section LoginQuery

variable {url : Url} {redirectHash nextUrl : String}
  (h : url.searchParams = [("redirectHash", redirectHash), ("nextUrl", nextUrl)])

include h

theorem query_of_login : url.query "redirectHash" = .str redirectHash ∧
    url.query "nextUrl" = .str nextUrl := by
  constructor <;> simp [Url.query, h]

theorem query_other {name : String} (hhash : name ≠ "redirectHash") (hnext : name ≠ "nextUrl") :
    url.query name = .undefined := by
  simp [Url.query, h, hhash.symm, hnext.symm]

end LoginQuery

theorem queryString_of_query {url : Url} {name s : String} (h : url.query name = .str s) :
    url.queryString name = some s := by
  rw [Url.queryString, h]

theorem queryString_of_undefined {url : Url} {name : String} (h : url.query name = .undefined) :
    url.queryString name = none := by
  rw [Url.queryString, h]

namespace OpenIdAuthRoutes

variable {setup : RouteSetup}

/-- A completed login is redirected. -/
theorem completeLogin_redirects {request : Request} {oidc : OidcLogin} {w w' : World}
    {response : RouteResponse}
    (h : (completeLogin setup request oidc).exec w = (.ok response, w')) :
    response = .redirected (nextLocation setup oidc) := by
  unfold completeLogin at h
  obtain ⟨tokenResponse, _, -, h⟩ := Proc.exec_bind_ok h
  obtain ⟨user, _, -, h⟩ := Proc.exec_bind_ok h
  obtain ⟨expiryTime, _, -, h⟩ := Proc.exec_bind_ok h
  obtain ⟨_, _, -, h⟩ := Proc.exec_bind_ok h
  obtain ⟨_, _, -, h⟩ := Proc.exec_bind_ok h
  rw [Proc.exec_pure] at h
  injection h with h
  injection h with h
  exact h.symm

theorem loginSchema_accepts {url : Url} {redirectHash nextUrl : String}
    (h : url.searchParams = [("redirectHash", redirectHash), ("nextUrl", nextUrl)])
    (hvalid : validateNextUrl (some nextUrl) (some setup.server.serverBasePath) = none) :
    (loginSchema setup).accepts url = true := by
  obtain ⟨hhash, hnext⟩ := query_of_login h
  have hnextUrl := (nextUrlSchema_accepts_iff setup.server nextUrl).mpr hvalid
  simp only [QuerySchema.accepts, loginSchema, List.all_cons, List.all_nil, hhash, hnext,
    query_other h (by decide : "code" ≠ "redirectHash") (by decide),
    query_other h (by decide : "state" ≠ "redirectHash") (by decide),
    query_other h (by decide : "refresh" ≠ "redirectHash") (by decide), hnextUrl]
  rfl

/-- What a started login keeps, and the cookie it keeps it in. -/
def startedOidc (setup : RouteSetup) (nonce : String) (request : Request) : OidcLogin where
  state := some nonce
  nextUrl := some (getNextUrl setup request)
  redirectHash := request.url.queryString "redirectHash" == some "true"

def pendingCookie (setup : RouteSetup) (nonce : String) (request : Request) :
    SecuritySessionCookie where
  oidc := some (startedOidc setup nonce request)
  authType := some OPEN_ID

theorem startLogin_exec (setup : RouteSetup) (nonce : String) (request : Request) :
    ∃ response, (startLogin setup nonce request).exec {} =
      (.ok response, { session := some (some (pendingCookie setup nonce request)) }) :=
  ⟨_, rfl⟩

variable {template : Location → Request} {nonce : String} {back : Location}

theorem getNextUrl_of_query {request : Request} {nextUrl : String} (hne : nextUrl ≠ "")
    (h : request.url.query "nextUrl" = .str nextUrl) : getNextUrl setup request = nextUrl := by
  have hsome : (some nextUrl).filter (· != "") = some nextUrl := by simp [hne]
  rw [getNextUrl, queryString_of_query h, hsome]

/-- Where a started login leads, by the flag and the URL of its query. -/
theorem nextLocation_started (setup : RouteSetup) (nonce : String) (request : Request)
    {redirectHash nextUrl : String} (hne : nextUrl ≠ "")
    (hhash : request.url.query "redirectHash" = .str redirectHash)
    (hnext : request.url.query "nextUrl" = .str nextUrl) :
    nextLocation setup (startedOidc setup nonce request) =
      if redirectHash = "true" then setup.server.serverBasePath ++
        "/auth/openid/redirectUrlFragment" ++ "?nextUrl=" ++ Js.escape nextUrl
      else nextUrl := by
  have hsplit : "/auth/openid/redirectUrlFragment?nextUrl=" =
      "/auth/openid/redirectUrlFragment" ++ "?nextUrl=" := by decide
  have hurl : (startedOidc setup nonce request).nextUrl = some nextUrl := by
    rw [startedOidc, getNextUrl_of_query hne hnext]
  have hflag : (startedOidc setup nonce request).redirectHash = (some redirectHash == some "true") := by
    rw [startedOidc, queryString_of_query hhash]
  rw [nextLocation, hurl, hflag, hsplit, ← String.append_assoc]
  by_cases htrue : redirectHash = "true"
  · rw [htrue]
    rfl
  · rw [if_neg htrue, if_neg (by simp [htrue])]
    rfl

/-- The cookie of a started login is still there when the IdP sends the browser back. -/
theorem pendingLogin_of_cookie {request : Request} {started : Request}
    (hcookie : request.cookies.session = some (pendingCookie setup nonce started).stored)
    (hreadable : request.storageError = none) (hnonce : nonce ≠ "")
    (hstate : request.url.queryString "state" = some nonce) :
    pendingLogin request = some (startedOidc setup nonce started) := by
  have hsession : request.session = .ok (some (pendingCookie setup nonce started).stored) := by
    rw [Request.session, hreadable, hcookie]
    rfl
  have htruthy : truthyString (some nonce) = true := by simpa [truthyString] using hnonce
  rw [pendingLogin, hsession]
  simp [SecuritySessionCookie.stored, pendingCookie, startedOidc, hstate, htruthy]

theorem callback_of_pending {request : Request} {oidc : OidcLogin} {w : World}
    (hpending : pendingLogin request = some oidc) {response : RouteResponse}
    (hlogin : (completeLogin setup request oidc).exec {} = (.ok response, w)) :
    (callback setup request).exec {} = (.ok (.redirected (nextLocation setup oidc)), w) := by
  rw [callback, hpending]
  dsimp only
  have hattempt : (Proc.attempt (completeLogin setup request oidc)).exec {} =
      ((.ok (.ok response), w) : Except JsError (Except JsError RouteResponse) × World) := by
    rw [Proc.exec_attempt, hlogin]
  rw [Proc.exec_bind_of_ok hattempt, completeLogin_redirects hlogin]
  rfl

/-- A login starts, and its cookie is in the browser. -/
theorem login_exec (setup : RouteSetup) (nonce : String) (request : Request)
    {redirectHash nextUrl : String}
    (h : request.url.searchParams = [("redirectHash", redirectHash), ("nextUrl", nextUrl)]) :
    ∃ response, (login setup nonce request).exec {} =
      (.ok response, { session := some (some (pendingCookie setup nonce request)) }) := by
  have hcode : truthyString (request.url.queryString "code") = false := by
    have hundefined : request.url.query "code" = .undefined :=
      query_other h (by decide) (by decide)
    rw [queryString_of_undefined hundefined]
    rfl
  rw [login, hcode]
  exact startLogin_exec setup nonce request

/-- The browser comes back with the cookie of the login that it started, and this one is
completed. -/
theorem callback_serves (hcompletes : Completes setup template nonce back) (started : Request)
    (tab : Tab) (hpage : tab.page = back)
    (hcookie : (tab.request template).cookies.session =
      some (pendingCookie setup nonce started).stored)
    (hreadable : (tab.request template).storageError = none)
    (hstate : (tab.request template).url.queryString "state" = some nonce)
    (hcode : truthyString ((tab.request template).url.queryString "code") = true) :
    ∃ w, (idpRoutes setup nonce).callback.serve setup.server template tab =
      some (.redirected (nextLocation setup (startedOidc setup nonce started)),
        tab.answered w) := by
  have hpending := pendingLogin_of_cookie hcookie hreadable hcompletes.nonce_ne hstate
  obtain ⟨_, w, hexec⟩ := hcompletes.succeeds tab (startedOidc setup nonce started) hpage
  have hcallback : (login setup nonce (tab.request template)).exec {} =
      (.ok (.redirected (nextLocation setup (startedOidc setup nonce started))), w) := by
    rw [login, hcode]
    exact callback_of_pending hpending hexec
  have hat : tab.IsAt setup.server (idpRoutes setup nonce).callback := by
    rw [Tab.IsAt, hpage]
    exact hcompletes.path
  have haccepts : (loginSchema setup).accepts (Url.ofLocation tab.page) = true := by
    rw [hpage]
    exact hcompletes.accepted
  exact ⟨w, serve_eq hat haccepts hcallback⟩

/-- The OpenID type carries `nextUrl` through a login that succeeds. -/
theorem carries (hcompletes : Completes setup template nonce back) :
    Carries setup.server template (idpRoutes setup nonce) ["auth".toList, "openid".toList] back where
  directory_isSegment := by
    intro segment hs
    simp only [List.mem_cons, List.not_mem_nil, or_false] at hs
    rcases hs with rfl | rfl
    · exact ⟨by decide, by decide, by decide, by decide⟩
    · exact ⟨by decide, by decide, by decide, by decide⟩
  directory_ne_nil := by simp
  directory_noHost := by decide
  capturePath := by
    change "/auth/openid/captureUrlFragment" = _
    decide
  loginPath := by
    change OPENID_AUTH_LOGIN = _
    decide
  appendPath := by
    change "/auth/openid/redirectUrlFragment" = _
    decide
  captureQuery := rfl
  appendQuery := rfl
  captureShown _ := ⟨_, _, rfl⟩
  appendShown _ := ⟨_, _, rfl⟩
  carries tab redirectHash nextUrl hat hparams hne hvalid := by
    obtain ⟨hhash, hnext⟩ := query_of_login hparams
    have haccepts : (loginSchema setup).accepts (Url.ofLocation tab.page) = true :=
      loginSchema_accepts hparams hvalid
    obtain ⟨response, hlogin⟩ := login_exec setup nonce (tab.request template) hparams
    obtain ⟨w, hserve⟩ := callback_serves hcompletes (tab.request template)
      ((tab.answered { session := some (some
        (pendingCookie setup nonce (tab.request template))) }).returnTo back)
      rfl rfl hcompletes.readable hcompletes.state hcompletes.code
    rw [nextLocation_started setup nonce (tab.request template) hne hhash hnext] at hserve
    exact ⟨response, _, _, serve_eq hat haccepts hlogin, hserve, rfl, rfl⟩

end OpenIdAuthRoutes

/-! ## SAML -/

namespace SamlAuthRoutes

variable {setup : RouteSetup} {template : Location → Request} {samlResponse : String}
  {back : Location}

theorem loginSchema_accepts {url : Url} {redirectHash nextUrl : String}
    (h : url.searchParams = [("redirectHash", redirectHash), ("nextUrl", nextUrl)])
    (hvalid : validateNextUrl (some nextUrl) (some setup.server.serverBasePath) = none) :
    (loginSchema setup).accepts url = true := by
  obtain ⟨hhash, hnext⟩ := query_of_login h
  have hnextUrl := (nextUrlSchema_accepts_iff setup.server nextUrl).mpr hvalid
  simp only [QuerySchema.accepts, loginSchema, List.all_cons, List.all_nil, hhash, hnext, hnextUrl, h]
  rfl

/-- What a started login keeps. -/
def startedSaml (requestId : String) (request : Request) : SamlLogin where
  nextUrl := request.url.queryString "nextUrl"
  requestId := some requestId
  redirectHash := request.url.queryString "redirectHash" == some "true"

theorem login_exec {request : Request} {header : SamlHeader}
    (hheader : getSamlHeader (setup.samlChallenge request) = .ok header) :
    (login setup false request).exec {} = (.ok (.redirected header.location),
      { session := some (some { saml := some (startedSaml header.requestId request) }) }) := by
  rw [login, if_neg Bool.false_ne_true, hheader]
  rfl

/-- Where a started login leads, by the flag and the URL of its query. -/
theorem nextLocation_started (requestId : String) (request : Request)
    {redirectHash nextUrl : String} (hne : nextUrl ≠ "")
    (hhash : request.url.query "redirectHash" = .str redirectHash)
    (hnext : request.url.query "nextUrl" = .str nextUrl) :
    nextLocation setup (startedSaml requestId request) =
      if redirectHash = "true" then setup.server.serverBasePath ++
        "/auth/saml/redirectUrlFragment" ++ "?nextUrl=" ++ Js.escape nextUrl
      else nextUrl := by
  have hsplit : "/auth/saml/redirectUrlFragment?nextUrl=" =
      "/auth/saml/redirectUrlFragment" ++ "?nextUrl=" := by decide
  have hurl : (startedSaml requestId request).nextUrl.filter (· != "") = some nextUrl := by
    rw [startedSaml, queryString_of_query hnext]
    simp [hne]
  have hflag : (startedSaml requestId request).redirectHash =
      (some redirectHash == some "true") := by
    rw [startedSaml, queryString_of_query hhash]
  rw [nextLocation, hurl, hflag, hsplit, ← String.append_assoc]
  by_cases htrue : redirectHash = "true"
  · rw [htrue]
    rfl
  · rw [if_neg htrue, if_neg (by simp [htrue])]
    rfl

/-- What is sent to the backend for a login that this server started. -/
def acsBody (requestId samlResponse : String) : AuthTokenBody where
  RequestId := some requestId
  SAMLResponse := samlResponse
  acsEndpoint := none

/-- The login is completed by the request that the cookie came with. -/
theorem acs_of_pending {request : Request} {requestId : String} {started : Request}
    (hcookie : request.cookies.session = some { saml := some (startedSaml requestId started) })
    (hreadable : request.storageError = none) (hid : requestId ≠ "") {w : World}
    (hlogin : (startSession setup request (acsBody requestId samlResponse)).exec {} = (.ok (), w)) :
    (acs setup request samlResponse).exec {} =
      (.ok (.redirected (nextLocation setup (startedSaml requestId started))), w) := by
  have htruthy : truthyString (some requestId) = true := by simpa [truthyString] using hid
  have hsession : request.session =
      .ok (some { saml := some (startedSaml requestId started) }) := by
    have hvalid : SecuritySessionCookie.validate
        { saml := some (startedSaml requestId started) } request.now = true := by
      simp [SecuritySessionCookie.validate, startedSaml, htruthy]
    rw [Request.session, hreadable, hcookie]
    simp [hvalid]
  have hpending : ((some ({ saml := some (startedSaml requestId started) } :
      SecuritySessionCookie)).bind (·.saml)).filter (fun saml => truthyString saml.requestId) =
      some (startedSaml requestId started) := by
    simp [startedSaml, htruthy]
  rw [acs, hsession]
  dsimp only
  rw [hpending]
  have hattempt : (Proc.attempt (startSession setup request
      (acsBody requestId samlResponse))).exec {} =
        ((.ok (.ok ()), w) : Except JsError (Except JsError Unit) × World) := by
    rw [Proc.exec_attempt, hlogin]
  exact (Proc.exec_bind_of_ok hattempt).trans rfl

/-- The SAML type carries `nextUrl` through a login that succeeds. -/
theorem carries (hcompletes : Completes setup template samlResponse back) :
    Carries setup.server template (idpRoutes setup samlResponse) ["auth".toList, "saml".toList]
      back where
  directory_isSegment := by
    intro segment hs
    simp only [List.mem_cons, List.not_mem_nil, or_false] at hs
    rcases hs with rfl | rfl
    · exact ⟨by decide, by decide, by decide, by decide⟩
    · exact ⟨by decide, by decide, by decide, by decide⟩
  directory_ne_nil := by simp
  directory_noHost := by decide
  capturePath := by
    change "/auth/saml/captureUrlFragment" = _
    decide
  loginPath := by
    change "/auth/saml/login" = _
    decide
  appendPath := by
    change "/auth/saml/redirectUrlFragment" = _
    decide
  captureQuery := rfl
  appendQuery := rfl
  captureShown _ := ⟨_, _, rfl⟩
  appendShown _ := ⟨_, _, rfl⟩
  carries tab redirectHash nextUrl hat hparams hne hvalid := by
    obtain ⟨hhash, hnext⟩ := query_of_login hparams
    have haccepts : (loginSchema setup).accepts (Url.ofLocation tab.page) = true :=
      loginSchema_accepts hparams hvalid
    obtain ⟨header, hheader, hid⟩ := hcompletes.challenge (tab.request template)
    have hlogin := login_exec hheader
    -- The browser comes back with the cookie, and the login is completed.
    obtain ⟨tab', htab⟩ : ∃ tab' : Tab, tab' = (tab.answered { session := some (some
      { saml := some (startedSaml header.requestId (tab.request template)) }) }).returnTo back :=
      ⟨_, rfl⟩
    have hpage : tab'.page = back := by
      rw [htab]
      rfl
    obtain ⟨w, hexec⟩ := hcompletes.succeeds tab' header.requestId hpage
    have hcookie : (tab'.request template).cookies.session =
        some { saml := some (startedSaml header.requestId (tab.request template)) } := by
      rw [htab]
      rfl
    have hreadable : (tab'.request template).storageError = none := by
      rw [htab]
      exact hcompletes.readable
    have hacs := acs_of_pending hcookie hreadable hid hexec
    have hat' : tab'.IsAt setup.server (idpRoutes setup samlResponse).callback := by
      rw [Tab.IsAt, hpage]
      exact hcompletes.path
    have hserve : (idpRoutes setup samlResponse).callback.serve setup.server template tab' =
        some (.redirected (nextLocation setup (startedSaml header.requestId
          (tab.request template))), tab'.answered w) := serve_eq hat' rfl hacs
    rw [nextLocation_started header.requestId (tab.request template) hne hhash hnext] at hserve
    rw [htab] at hserve hpage
    exact ⟨_, _, _, serve_eq hat haccepts hlogin, hserve, hpage, rfl⟩

end SamlAuthRoutes

/-! ## Both flows -/

/-- The URL that the redirect of a page request carries. -/
theorem generatedPath_of_visits {server : Server} {page : Location} {request : Request}
    (hredirect : ∀ request basePath nextUrl,
      server.platform.getRedirectUrl request basePath nextUrl = basePath ++ nextUrl)
    (hvisit : Visits server.serverBasePath page request.url)
    (hpathname : page.pathname = server.serverBasePath ++ request.url.pathname)
    (fallbackPath : String) :
    generatedPath server fallbackPath request = String.ofList page.text := by
  obtain ⟨base, served, -, -, -, hquery, hurl⟩ := hvisit
  have hne : request.url.pathname ≠ "" := by
    rw [hurl]
    exact pathname_ne_empty served
  have hsearch : request.url.search = page.search := by
    rw [hurl]
    exact (Location.search_congr hquery).symm
  rw [generatedPath, if_neg hne, hredirect, ← hpathname, hsearch, Location.text,
    String.ofList_append, String.ofList_toList, String.ofList_toList]

/-- No page request is for a page of the login. -/
theorem ne_of_isPageRequest {request : Request} (hpage : isPageRequest request = true)
    {pathname : String} (hno : isPageRequest { url := { pathname } } = false) :
    request.url.pathname ≠ pathname := by
  rintro rfl
  rw [isPageRequest] at hpage hno
  rw [hpage] at hno
  cases hno

/-- A login that succeeds ends on the page that was visited: in the OpenID flow exactly if neither
the base path nor the query has a plus sign, and in the SAML flow exactly if this is so or the page has
no hash. -/
theorem nextUrl_survives_iff (setup : RouteSetup) (template : Location → Request)
    (nonce samlResponse : String) (oidcBack samlBack : Location) (request : Request) (tab : Tab)
    (hredirect : ∀ request basePath nextUrl,
      setup.server.platform.getRedirectUrl request basePath nextUrl = basePath ++ nextUrl)
    (hvisit : Visits setup.server.serverBasePath tab.page request.url)
    (hpage : isPageRequest request = true)
    (haccepted : validateNextUrl (some (tab.page.pathname ++ tab.page.search))
      (some setup.server.serverBasePath) = none)
    (hoidc : OpenIdAuthRoutes.Completes setup template nonce oidcBack)
    (hsaml : SamlAuthRoutes.Completes setup template samlResponse samlBack) :
    (EndsOn tab.page (openIdFlow setup template nonce oidcBack request tab) ↔
      '+' ∉ setup.server.serverBasePath.toList ∧ '+' ∉ tab.page.search.toList) ∧
    (EndsOn tab.page (samlFlow setup template samlResponse samlBack request tab) ↔
      tab.page.hash = "" ∨
        '+' ∉ setup.server.serverBasePath.toList ∧ '+' ∉ tab.page.search.toList) := by
  have hacc := accepted_of_visits hvisit haccepted
  have hnext := generatedPath_of_visits hredirect hvisit hacc.pathname
  constructor
  · have hrefusal : OpenIdAuthentication.handleUnauthedRequest setup.server request =
        .redirected (setup.server.serverBasePath ++
          (OpenIdAuthRoutes.idpRoutes setup nonce).capture.path ++ "?nextUrl=" ++
          Js.escape (String.ofList tab.page.text))
          (some (clearOldVersionCookieValue setup.server)) := by
      have hsplit : "/auth/openid/captureUrlFragment?nextUrl=" =
          "/auth/openid/captureUrlFragment" ++ "?nextUrl=" := by decide
      rw [OpenIdAuthentication.handleUnauthedRequest, if_pos hpage,
        OpenIdAuthentication.generateNextUrl, hnext, hsplit, ← String.append_assoc]
      rfl
    have hno : request.url.pathname ≠ "/auth/openid/redirectUrlFragment" :=
      ne_of_isPageRequest hpage (by decide)
    rw [openIdFlow, hrefusal]
    exact escapedFlow_survives_iff (OpenIdAuthRoutes.carries hoidc) hvisit hno haccepted _
  · have hrefusal : SamlAuthentication.handleUnauthedRequest setup.server request =
        .redirected (setup.server.serverBasePath ++
          (SamlAuthRoutes.idpRoutes setup samlResponse).capture.path ++ "?nextUrl=" ++
          Js.querystringEscape (String.ofList tab.page.text))
          (some (clearOldVersionCookieValue setup.server)) := by
      have hsplit : "/auth/saml/captureUrlFragment?nextUrl=" =
          "/auth/saml/captureUrlFragment" ++ "?nextUrl=" := by decide
      rw [SamlAuthentication.handleUnauthedRequest, if_pos hpage,
        SamlAuthentication.generateNextUrl, hnext, hsplit, ← String.append_assoc]
      rfl
    have hno : request.url.pathname ≠ "/auth/saml/redirectUrlFragment" :=
      ne_of_isPageRequest hpage (by decide)
    rw [samlFlow, hrefusal]
    exact querystringFlow_survives_iff (SamlAuthRoutes.carries hsaml) hvisit hno haccepted _

namespace Sample

/-- A page of the server without a base path. -/
def pageAt (url : String) : Location := Location.root.resolve url.toList

/-- Where the IdP sends the browser back. -/
def oidcBack : Location := pageAt "/auth/openid/login?code=code-1&state=state-1"

def samlBack : Location := pageAt "/_opendistro/_security/saml/acs"

/-- The request for a page, at second 1. -/
def requestAt (page : Location) : Request := { url := Url.ofLocation page, now := 1000 }

/-- A visit with a query in which a plus sign stands for itself. -/
def plusVisit : Tab := { page := pageAt "/app/home?q=a+b#/view" }

/-- Both flows change the query of an accepted page. -/
theorem plus_lost :
    isPageRequest (requestAt plusVisit.page) = true ∧
    validateNextUrl (some (plusVisit.page.pathname ++ plusVisit.page.search)) (some "") = none ∧
    plusVisit.page.search = "?q=a+b" ∧
    (openIdFlow loginSetup requestAt "state-1" oidcBack (requestAt plusVisit.page) plusVisit).map
      (fun tab => (tab.page.pathname, tab.page.search)) = some ("/app/home", "?q=a%20b") ∧
    (samlFlow loginSetup requestAt "response" samlBack (requestAt plusVisit.page) plusVisit).map
      (fun tab => (tab.page.pathname, tab.page.search)) = some ("/app/home", "?q=a%20b") := by
  refine ⟨by decide, by decide, by decide, ?_, ?_⟩
  · decide +kernel
  · decide +kernel

theorem oidc_completes : OpenIdAuthRoutes.Completes loginSetup requestAt "state-1" oidcBack where
  path := by decide
  accepted := by decide
  code := by decide
  state := by decide
  nonce_ne := by decide
  readable := rfl
  succeeds _ _ _ := ⟨_, _, rfl⟩

theorem saml_completes : SamlAuthRoutes.Completes loginSetup requestAt "response" samlBack where
  path := by decide
  challenge _ := ⟨⟨"https://idp/sso", "request-1"⟩, rfl, by decide⟩
  readable := rfl
  succeeds _ _ _ := ⟨_, rfl⟩

/-- A visit with a query and a hash. -/
def plainVisit : Tab := { page := pageAt "/app/home?q=1%2B1#/view" }

/-- Both flows end on the page that was visited. -/
theorem plainVisit_survives :
    EndsOn plainVisit.page
      (openIdFlow loginSetup requestAt "state-1" oidcBack (requestAt plainVisit.page) plainVisit) ∧
    EndsOn plainVisit.page
      (samlFlow loginSetup requestAt "response" samlBack (requestAt plainVisit.page) plainVisit) := by
  have hvisit : Visits loginSetup.server.serverBasePath plainVisit.page
      (requestAt plainVisit.page).url := ⟨[], plainVisit.page, rfl, by decide, rfl, rfl, rfl⟩
  obtain ⟨hoidc, hsaml⟩ := nextUrl_survives_iff loginSetup requestAt "state-1" "response" oidcBack
    samlBack (requestAt plainVisit.page) plainVisit (fun _ _ _ => rfl) hvisit (by decide)
    (by decide) oidc_completes saml_completes
  have hplus : '+' ∉ plainVisit.page.search.toList := by decide
  exact ⟨hoidc.mpr ⟨by decide, hplus⟩, hsaml.mpr (Or.inr ⟨by decide, hplus⟩)⟩

end Sample

end SecurityDashboards
