import SecurityDashboards.Lib.WhatwgUrl
import SecurityDashboards.NextUrl

/-!
# Proofs: `validateNextUrl`

Which paths `validateNextUrl` accepts, and that a browser which follows an accepted URL stays on the
server.
-/

namespace SecurityDashboards

/-! ## Accepted paths -/

/-- What may follow the base path in an accepted path. -/
def NextPath (rest : String) : Prop := rest = "" ∨ rest = "/" ∨ isNextUrlPath rest = true

/-- The shape of a path that matches the regular expression. -/
theorem isNextUrlPath_iff {s : String} :
    isNextUrlPath s = true ↔ ∃ d rest, s.toList = '/' :: d :: rest ∧
      (d.isAlpha = true ∨ d = '_') ∧ rest ≠ [] ∧ ∀ c ∈ rest, isNextUrlChar c = true := by
  unfold isNextUrlPath
  split
  · rename_i c d rest hs
    simp only [Bool.and_eq_true, decide_eq_true_eq, Bool.or_eq_true, Bool.not_eq_true',
      List.isEmpty_eq_false_iff, List.all_eq_true]
    constructor
    · rintro ⟨⟨⟨rfl, hd⟩, hne⟩, hall⟩
      exact ⟨d, rest, hs, hd, hne, hall⟩
    · rintro ⟨d', rest', heq, hd, hne, hall⟩
      rw [hs] at heq
      cases heq
      exact ⟨⟨⟨rfl, hd⟩, hne⟩, hall⟩
  · rename_i hno
    constructor
    · intro h
      cases h
    · rintro ⟨d, rest, heq, -⟩
      exact absurd heq (hno '/' d rest)

theorem startsWith_slash_iff {s : String} :
    Js.startsWith s "/" = true ↔ ∃ l, s.toList = '/' :: l := by
  rw [Js.startsWith, List.isPrefixOf_iff_prefix]
  constructor
  · rintro ⟨l, hl⟩
    exact ⟨l, hl.symm⟩
  · rintro ⟨l, hl⟩
    exact ⟨l, hl.symm⟩

/-- Two characters make up at least two code units. -/
theorem two_le_length {s : String} {c d : Char} {l : List Char} (h : s.toList = c :: d :: l) :
    2 ≤ Js.length s := by
  have hunit : ∀ c : Char, 1 ≤ if c.toNat < 65536 then 1 else 2 := by
    intro c
    split <;> omega
  have hc := hunit c
  have hd := hunit d
  rw [Js.length, h]
  simp only [List.map_cons, List.sum_cons]
  omega

theorem nextPath_iff (rest : String) :
    NextPath rest ↔ (rest = "" ∨ Js.startsWith rest "/" = true) ∧
      (Js.length rest < 2 ∨ isNextUrlPath rest = true) := by
  constructor
  · rintro (rfl | rfl | h)
    · exact ⟨Or.inl rfl, Or.inl (by decide)⟩
    · exact ⟨Or.inr (by decide), Or.inl (by decide)⟩
    · obtain ⟨d, l, hs, -⟩ := isNextUrlPath_iff.mp h
      exact ⟨Or.inr (startsWith_slash_iff.mpr ⟨_, hs⟩), Or.inr h⟩
  · rintro ⟨rfl | hslash, hlength⟩
    · exact Or.inl rfl
    · rcases hlength with hlength | h
      · obtain ⟨l, hl⟩ := startsWith_slash_iff.mp hslash
        cases l with
        | nil => exact Or.inr (Or.inl (String.toList_inj.mp hl))
        | cons d l =>
          have htwo := two_le_length hl
          omega
      · exact Or.inr (Or.inr h)

/-- A URL is accepted if its path is the base path and a permitted rest. -/
theorem validateNextUrl_eq_none_iff {url : String} {basePath : Option String} (hurl : url ≠ "") :
    validateNextUrl (some url) basePath = none ↔
      ∃ rest, urlPath url = basePath.getD "" ++ rest ∧ NextPath rest := by
  have hsome : (some url).filter (· != "") = some url := by simp [hurl]
  unfold validateNextUrl
  rw [hsome]
  dsimp only
  by_cases hstart : Js.startsWith (urlPath url) (basePath.getD "") = true
  · obtain ⟨rest, hrest⟩ := Js.startsWith_iff.mp hstart
    have hreplace : Js.replace (urlPath url) (basePath.getD "") "" = rest := by
      rw [hrest, Js.replace_append, String.empty_append]
    rw [hstart, hreplace]
    have hnext := nextPath_iff rest
    have hsame : (∃ r, urlPath url = basePath.getD "" ++ r ∧ NextPath r) ↔ NextPath rest := by
      constructor
      · rintro ⟨r, hr, h⟩
        rw [hrest] at hr
        rwa [(String.append_right_inj _).mp hr]
      · exact fun h => ⟨rest, hrest, h⟩
    rw [hsame, hnext]
    simp only [Bool.not_true, Bool.false_eq_true, if_false, ite_eq_right_iff, reduceCtorEq,
      imp_false, Bool.or_eq_true, Bool.and_eq_true, bne_iff_ne, Bool.not_eq_true',
      decide_eq_true_eq, not_or, not_and, Bool.not_eq_false]
    constructor
    · rintro ⟨hslash, hchars⟩
      refine ⟨or_iff_not_imp_left.mpr hslash, ?_⟩
      by_cases hlength : Js.length rest < 2
      · exact Or.inl hlength
      · exact Or.inr (hchars (by omega))
    · rintro ⟨hslash, hchars⟩
      refine ⟨fun hne => hslash.resolve_left hne, fun hlength => hchars.resolve_left ?_⟩
      omega
  · have hno : ¬ ∃ rest, urlPath url = basePath.getD "" ++ rest ∧ NextPath rest := by
      rintro ⟨rest, hrest, -⟩
      exact hstart (Js.startsWith_iff.mpr ⟨rest, hrest⟩)
    rw [Bool.not_eq_true] at hstart
    rw [hstart]
    simp only [Bool.not_false, if_true, reduceCtorEq, false_iff]
    exact hno

/-! ## The documented paths -/

/-- The regular expression wants one character more than the comment. -/
theorem documentedRest_iff (rest : String) :
    DocumentedRest rest ↔
      NextPath rest ∨ ∃ d, rest.toList = ['/', d] ∧ (d.isAlpha = true ∨ d = '_') := by
  constructor
  · rintro (h | h | ⟨d, l, hrest, hd, hl⟩)
    · exact Or.inl (Or.inl h)
    · exact Or.inl (Or.inr (Or.inl h))
    · cases l with
      | nil => exact Or.inr ⟨d, hrest, hd⟩
      | cons e l =>
        exact Or.inl (Or.inr (Or.inr (isNextUrlPath_iff.mpr ⟨d, _, hrest, hd, by simp, hl⟩)))
  · rintro ((h | h | h) | ⟨d, hrest, hd⟩)
    · exact Or.inl h
    · exact Or.inr (Or.inl h)
    · obtain ⟨d, l, hrest, hd, -, hl⟩ := isNextUrlPath_iff.mp h
      exact Or.inr (Or.inr ⟨d, l, hrest, hd, hl⟩)
    · exact Or.inr (Or.inr ⟨d, [], hrest, hd, by simp⟩)

theorem not_nextPath_letter {rest : String} {d : Char} (hrest : rest.toList = ['/', d]) :
    ¬ NextPath rest := by
  rintro (rfl | rfl | h)
  · cases hrest
  · cases hrest
  · obtain ⟨d', l, heq, -, hne, -⟩ := isNextUrlPath_iff.mp h
    rw [hrest] at heq
    injection heq with _ heq
    injection heq with _ heq
    exact hne heq.symm

/-- A URL is accepted exactly if the comment permits its path, unless a single letter or underscore
follows the base path and its slash. -/
theorem accepted_documented_iff (url basePath : String) (hurl : url ≠ "") :
    (validateNextUrl (some url) (some basePath) = none ↔
        DocumentedPath basePath (urlPath url)) ↔
      ¬ IsOneLetterPath basePath (urlPath url) := by
  rw [validateNextUrl_eq_none_iff hurl, Option.getD_some]
  constructor
  · rintro hagree ⟨d, hpath, hd⟩
    have hrest : (String.ofList ['/', d]).toList = ['/', d] := String.toList_ofList
    obtain ⟨rest, hsame, hnext⟩ := hagree.mpr
      ⟨_, hpath, (documentedRest_iff _).mpr (Or.inr ⟨d, hrest, hd⟩)⟩
    rw [hpath, String.append_right_inj] at hsame
    exact not_nextPath_letter hrest (hsame ▸ hnext)
  · intro hletter
    constructor
    · rintro ⟨rest, hpath, hnext⟩
      exact ⟨rest, hpath, (documentedRest_iff rest).mpr (Or.inl hnext)⟩
    · rintro ⟨rest, hpath, hdocumented⟩
      rcases (documentedRest_iff rest).mp hdocumented with hnext | ⟨d, hrest, hd⟩
      · exact ⟨rest, hpath, hnext⟩
      · refine absurd ⟨d, ?_, hd⟩ hletter
        rw [← hrest, String.ofList_toList]
        exact hpath

theorem home_documented :
    "/app/home?x=1" ≠ "" ∧ ((validateNextUrl (some "/app/home?x=1") (some "") = none ↔
      DocumentedPath "" (urlPath "/app/home?x=1")) ↔
        ¬ IsOneLetterPath "" (urlPath "/app/home?x=1")) :=
  ⟨by decide, accepted_documented_iff "/app/home?x=1" "" (by decide)⟩

/-- A path of one letter is refused. -/
theorem letter_refused :
    validateNextUrl (some "/a") (some "") = some INVALID_NEXT_URL_PARAMETER_MESSAGE ∧
      ¬ (validateNextUrl (some "/a") (some "") = none ↔ DocumentedPath "" (urlPath "/a")) := by
  have hdocumented : DocumentedPath "" (urlPath "/a") :=
    ⟨"/a", by decide, Or.inr (Or.inr ⟨'a', [], rfl, by decide, by simp⟩)⟩
  refine ⟨by decide, fun hagree => ?_⟩
  have haccepted := hagree.mpr hdocumented
  revert haccepted
  decide

/-- After the path comes the end, a query or a fragment. -/
theorem urlPath_tail (url : String) :
    ∃ tail, url.toList = (urlPath url).toList ++ tail ∧
      ∀ c l, tail = c :: l → c = '?' ∨ c = '#' := by
  refine ⟨url.toList.dropWhile fun c => c ≠ '?' && c ≠ '#', ?_, fun c l h => ?_⟩
  · rw [urlPath, String.toList_ofList, List.takeWhile_append_dropWhile]
  · have hhead := List.head?_dropWhile_not (fun c => decide (c ≠ '?') && decide (c ≠ '#')) url.toList
    rw [h] at hhead
    simpa [Classical.or_iff_not_imp_left] using hhead

/-! ## Behind the base path -/

/-- What may follow the path of a URL. -/
def EndsPath (tail : String) : Prop := ∀ c rest, tail.toList = c :: rest → c = '?' ∨ c = '#'

theorem urlPath_eq {path tail : String} (hpath : NoPathEnd path)
    (htail : EndsPath tail) : urlPath (path ++ tail) = path := by
  have hplain : ∀ c ∈ path.toList, (decide (c ≠ '?') && decide (c ≠ '#')) = true := by
    intro c hc
    simpa using hpath c hc
  rw [urlPath, String.toList_append, List.takeWhile_append_of_pos hplain]
  cases h : tail.toList with
  | nil => rw [List.takeWhile_nil, List.append_nil, String.ofList_toList]
  | cons c rest =>
    rcases htail c rest h with rfl | rfl
    · rw [List.takeWhile_cons_of_neg (by decide), List.append_nil, String.ofList_toList]
    · rw [List.takeWhile_cons_of_neg (by decide), List.append_nil, String.ofList_toList]

/-- A URL behind the base path is accepted for its path. -/
theorem accepted_behind_base_iff {basePath path tail : String} (hne : path ≠ "")
    (hpath : NoPathEnd path) (htail : EndsPath tail) :
    validateNextUrl (some (basePath ++ path ++ tail)) (some basePath) = none ↔
      NoPathEnd basePath ∧ NextPath path := by
  have hurl : basePath ++ path ++ tail ≠ "" := by
    intro hempty
    have hchars := congrArg String.toList hempty
    rw [String.toList_append, String.toList_append] at hchars
    obtain ⟨hleft, -⟩ := List.append_eq_nil_iff.mp hchars
    exact hne (String.toList_inj.mp (List.append_eq_nil_iff.mp hleft).2)
  rw [validateNextUrl_eq_none_iff hurl, Option.getD_some]
  constructor
  · rintro ⟨rest, hrest, hnext⟩
    have hbase : NoPathEnd basePath := by
      intro c hc
      have hmem : c ∈ (urlPath (basePath ++ path ++ tail)).toList := by
        rw [hrest, String.toList_append]
        exact List.mem_append_left _ hc
      rw [urlPath, String.toList_ofList] at hmem
      simpa using List.mem_takeWhile_imp hmem
    have hboth : NoPathEnd (basePath ++ path) := by
      intro c hc
      rw [String.toList_append] at hc
      rcases List.mem_append.mp hc with hc | hc
      · exact hbase c hc
      · exact hpath c hc
    rw [urlPath_eq hboth htail, String.append_right_inj] at hrest
    exact ⟨hbase, hrest ▸ hnext⟩
  · rintro ⟨hbase, hnext⟩
    have hboth : NoPathEnd (basePath ++ path) := by
      intro c hc
      rw [String.toList_append] at hc
      rcases List.mem_append.mp hc with hc | hc
      · exact hbase c hc
      · exact hpath c hc
    exact ⟨path, urlPath_eq hboth htail, hnext⟩

theorem isNextUrlChar_of_nextPath {path : String} (h : NextPath path) :
    ∀ c ∈ path.toList, isNextUrlChar c = true := by
  rcases h with rfl | rfl | h
  · simp
  · decide
  · obtain ⟨d, rest, hs, hd, -, hrest⟩ := isNextUrlPath_iff.mp h
    intro c hc
    rw [hs] at hc
    rcases List.mem_cons.mp hc with rfl | hc
    · decide
    · rcases List.mem_cons.mp hc with rfl | hc
      · rcases hd with hd | rfl
        · simp [isNextUrlChar, Char.isAlphanum, hd]
        · decide
      · exact hrest c hc

theorem noPathEnd_of_nextPath {path : String} (h : NextPath path) : NoPathEnd path := by
  intro c hc
  have hchar := isNextUrlChar_of_nextPath h c hc
  refine ⟨?_, ?_⟩
  · rintro rfl
    revert hchar
    decide
  · rintro rfl
    revert hchar
    decide

/-- A permitted path behind the base path is accepted, whatever query and fragment it has. -/
theorem accepted_of_nextPath {basePath path tail : String} (hbase : NoPathEnd basePath)
    (hpath : NextPath path) (htail : EndsPath tail) :
    validateNextUrl (some (basePath ++ path ++ tail)) (some basePath) = none := by
  by_cases hurl : basePath ++ path ++ tail = ""
  · rw [hurl]
    rfl
  · have hboth : NoPathEnd (basePath ++ path) := by
      intro c hc
      rw [String.toList_append] at hc
      rcases List.mem_append.mp hc with hc | hc
      · exact hbase c hc
      · exact noPathEnd_of_nextPath hpath c hc
    rw [validateNextUrl_eq_none_iff hurl]
    exact ⟨path, urlPath_eq hboth htail, hpath⟩

/-! ## No open redirects -/

/-- A base path that is a path: no second slash at its start, and no character that ends it. -/
def PlainBasePath (basePath : String) : Prop :=
  basePath = "" ∨ ∃ c rest, basePath.toList = '/' :: c :: rest ∧
    (c.isAlphanum = true ∨ c = '_' ∨ c = '-') ∧
    ∀ d ∈ rest, d ≠ '?' ∧ d ≠ '#' ∧ d ≠ '\\' ∧ 32 ≤ d.toNat

/-- A character that starts a name is not removed and is no slash. -/
theorem plain_of_name {c : Char} (h : c.isAlphanum = true ∨ c = '_' ∨ c = '-') :
    Whatwg.isControlOrSpace c = false ∧ Whatwg.isSlash c = false := by
  rcases h with h | rfl | rfl
  · have hbounds := UrlEncoding.toNat_of_isAlphanum h
    refine ⟨by simp [Whatwg.isControlOrSpace]; omega, ?_⟩
    simp only [Whatwg.isSlash, Bool.or_eq_false_iff, decide_eq_false_iff_not]
    refine ⟨?_, ?_⟩
    · rintro rfl
      exact absurd hbounds (by decide)
    · rintro rfl
      exact absurd hbounds (by decide)
  · decide
  · decide

theorem plain_of_end {c : Char} (h : c = '?' ∨ c = '#') :
    Whatwg.isControlOrSpace c = false ∧ Whatwg.isSlash c = false ∧ c.isAlpha = false := by
  rcases h with rfl | rfl <;> decide

/-- An accepted URL leads to a path of the server. -/
theorem stays_of_accepted {url basePath : String} (hurl : url ≠ "") (hbase : PlainBasePath basePath)
    {rest : String} (hpath : urlPath url = basePath ++ rest) (hrest : NextPath rest) :
    Whatwg.Stays url.toList := by
  obtain ⟨tail, htail, hend⟩ := urlPath_tail url
  rw [hpath, String.toList_append] at htail
  rcases hbase with rfl | ⟨c, l, hc, hname, -⟩
  · rw [String.toList_empty, List.nil_append] at htail
    rcases hrest with rfl | rfl | h
    · rw [String.toList_empty, List.nil_append] at htail
      cases htl : tail with
      | nil =>
        rw [htl, ← String.toList_empty, String.toList_inj] at htail
        exact absurd htail hurl
      | cons c l =>
        obtain ⟨hspace, hslash, halpha⟩ := plain_of_end (hend c l htl)
        rw [htail, htl]
        exact Whatwg.stays_of_not_slash hspace hslash halpha l
    · cases htl : tail with
      | nil =>
        rw [htail, htl]
        exact Whatwg.stays_root
      | cons c l =>
        obtain ⟨hspace, hslash, -⟩ := plain_of_end (hend c l htl)
        rw [htail, htl]
        exact Whatwg.stays_of_path hspace hslash l
    · obtain ⟨d, l, hd, hname, -⟩ := isNextUrlPath_iff.mp h
      have hname' : d.isAlphanum = true ∨ d = '_' ∨ d = '-' := by
        rcases hname with h | h
        · exact Or.inl (by simp [Char.isAlphanum, h])
        · exact Or.inr (Or.inl h)
      obtain ⟨hspace, hslash⟩ := plain_of_name hname'
      rw [htail, hd]
      exact Whatwg.stays_of_path hspace hslash _
  · obtain ⟨hspace, hslash⟩ := plain_of_name hname
    rw [htail, hc]
    exact Whatwg.stays_of_path hspace hslash _

/-- A browser that follows an accepted URL on a page of the server stays on the origin of the page:
the URL has neither a scheme nor a host, and its path is the base path with a permitted rest.
`authority` is whatever the browser makes of a host. -/
theorem validateNextUrl_sound (authority : String → List Char → Option Whatwg.Origin)
    (page : Whatwg.Origin) (url basePath : String) (hurl : url ≠ "")
    (hbase : PlainBasePath basePath)
    (haccepted : validateNextUrl (some url) (some basePath) = none) :
    Whatwg.originOf authority page url.toList = some page ∧ Whatwg.Stays url.toList ∧
      ∃ rest, urlPath url = basePath ++ rest ∧ NextPath rest := by
  obtain ⟨rest, hpath, hrest⟩ := (validateNextUrl_eq_none_iff hurl).mp haccepted
  have hstays := stays_of_accepted hurl hbase hpath hrest
  exact ⟨Whatwg.originOf_of_stays hstays, hstays, rest, hpath, hrest⟩

/-- An application page behind a base path. -/
theorem home_stays :
    Whatwg.originOf (fun _ _ => none) ⟨"https", "dashboards", none⟩
      "/wazuh/app/home?next=//evil".toList = some ⟨"https", "dashboards", none⟩ := by
  have hbase : PlainBasePath "/wazuh" :=
    Or.inr ⟨'w', "azuh".toList, by decide, Or.inl (by decide), by decide⟩
  exact (validateNextUrl_sound (fun _ _ => none) _ "/wazuh/app/home?next=//evil" "/wazuh"
    (by decide) hbase (by decide)).1

end SecurityDashboards
