import SecurityDashboards.NextPath
import SecurityDashboards.Proofs.WhatwgLocationProofs

/-!
# Which next locations stay on the site
-/

namespace SecurityDashboards

open Whatwg

variable {authority : String → List Char → Option Origin}

/-! ## The text of a location -/

/-- The text is empty or starts with the character. -/
def StartsWith (mark : Char) (text : String) : Prop := ∀ c rest, text.toList = c :: rest → c = mark

theorem startsWith_empty (mark : Char) : StartsWith mark "" := by
  intro c rest h
  cases h

theorem startsWith_cons (mark : Char) (text : List Char) :
    StartsWith mark (String.ofList (mark :: text)) := by
  intro c rest h
  rw [String.toList_ofList] at h
  exact (List.cons.inj h).1.symm

theorem startsWith_hash (location : Location) : StartsWith '#' location.hash := by
  unfold Location.hash
  split
  · exact startsWith_empty '#'
  · exact startsWith_empty '#'
  · exact startsWith_cons '#' _

theorem startsWith_search (location : Location) : StartsWith '?' location.search := by
  unfold Location.search
  split
  · exact startsWith_empty '?'
  · exact startsWith_empty '?'
  · exact startsWith_cons '?' _

theorem startsWith_searchWithTenant (location : Location) (savedTenant : Option String) :
    StartsWith '?' (searchWithTenant location savedTenant) := by
  unfold searchWithTenant
  dsimp only
  split
  · split
    · exact startsWith_search location
    · exact startsWith_cons '?' _
  · exact startsWith_search location

/-- A path with a query or a hash stays on the site exactly if it does not start like a host. -/
theorem staysOnSite_pathText_iff {path : List (List Char)} (hne : path ≠ [])
    (h : ∀ segment ∈ path, IsSegment segment) {tail : List Char}
    (htail : ∀ c rest, tail = c :: rest → c = '?' ∨ c = '#') {origin : Origin} :
    StaysOnSite authority origin (String.ofList (pathText path ++ tail)) ↔ Location.NoHost path := by
  constructor
  · rintro ⟨⟨rest, htext, hsingle⟩, -⟩ others rfl
    rw [String.toList_ofList] at htext
    obtain - | ⟨second, others⟩ := others
    · rfl
    · refine absurd ?_ hsingle
      rw [← (List.cons.inj htext).2]
      rfl
  · intro hhost
    refine ⟨?_, ?_⟩
    · rw [String.toList_ofList]
      obtain ⟨first, others, rfl⟩ := List.exists_cons_of_ne_nil hne
      refine ⟨first ++ pathText others ++ tail, ?_, ?_⟩
      · simp [pathText]
      · cases first with
        | nil =>
          obtain rfl := hhost others rfl
          cases tail with
          | nil => simp [pathText]
          | cons c rest =>
            rcases htail c rest rfl with rfl | rfl <;> simp [pathText]
        | cons d first =>
          have hslash := (h _ List.mem_cons_self).noSlash d List.mem_cons_self
          have hd : d ≠ '/' := by
            rintro rfl
            cases hslash
          simpa using hd
    · rw [String.toList_ofList]
      exact originOf_of_stays (Location.stays_pathText hne h hhost htail)

theorem noHost_iff {path : List (List Char)} :
    Location.NoHost path ↔ ¬∃ second rest, path = [] :: second :: rest := by
  constructor
  · rintro h ⟨second, rest, hpath⟩
    cases h _ hpath
  · intro h rest hpath
    cases rest with
    | nil => rfl
    | cons second rest => exact absurd ⟨second, rest, hpath⟩ h

/-- The next location stays exactly if its path does not start like a host. -/
theorem staysOnSite_url_iff (authority : String → List Char → Option Origin) (url : Location)
    (savedTenant : Option String) (origin : Origin) :
    StaysOnSite authority origin
        (url.pathname ++ searchWithTenant url savedTenant ++ url.hash) ↔
      Location.NoHost url.path := by
  have htext : url.pathname ++ searchWithTenant url savedTenant ++ url.hash =
      String.ofList (pathText url.path ++
        ((searchWithTenant url savedTenant).toList ++ url.hash.toList)) := by
    rw [← String.toList_inj, String.toList_ofList, String.toList_append, String.toList_append,
      Location.pathname, String.toList_ofList, List.append_assoc]
  have htail : ∀ c rest,
      (searchWithTenant url savedTenant).toList ++ url.hash.toList = c :: rest →
        c = '?' ∨ c = '#' := by
    intro c rest h
    cases hsearch : (searchWithTenant url savedTenant).toList with
    | nil =>
      rw [hsearch, List.nil_append] at h
      exact Or.inr (startsWith_hash url c rest h)
    | cons d search =>
      rw [hsearch, List.cons_append] at h
      rw [← (List.cons.inj h).1]
      exact Or.inl (startsWith_searchWithTenant url savedTenant d search hsearch)
  rw [htext, staysOnSite_pathText_iff url.path_ne_nil url.isSegment htail]

namespace Window

variable (window : Window) (serverBasePath : String)

/-- The next location, by what the parser makes of the text behind the host. -/
theorem getNextPath_eq (savedTenant : Option String) :
    window.getNextPath authority serverBasePath savedTenant =
      (authority window.origin.scheme
          (window.host ++ cleanEnd (window.nextUrl serverBasePath).toList)).map fun _ =>
        let url := Location.root.resolve
          ((cleanEnd (window.nextUrl serverBasePath).toList).dropWhile (!endsAuthority ·))
        url.pathname ++ searchWithTenant url savedTenant ++ url.hash := by
  rw [getNextPath, site, newURL_of_host authority window.isHttp window.isHost]
  cases authority window.origin.scheme
    (window.host ++ cleanEnd (window.nextUrl serverBasePath).toList) with
  | none => rfl
  | some origin => rfl

/-- The next location stays on the site exactly if the URL constructor throws or the path of the
`nextUrl` does not start with an empty segment before another one. -/
theorem getNextPath_staysOnSite_iff (authority : String → List Char → Option Origin)
    (savedTenant : Option String) :
    (∀ next, window.getNextPath authority serverBasePath savedTenant = some next →
        StaysOnSite authority window.origin next) ↔
      ((authority window.origin.scheme
          (window.host ++ cleanEnd (window.nextUrl serverBasePath).toList)).isSome = true →
        ¬Leads [] (pathSegments (cleanEnd (window.nextUrl serverBasePath).toList))) := by
  rw [getNextPath_eq]
  cases authority window.origin.scheme
    (window.host ++ cleanEnd (window.nextUrl serverBasePath).toList) with
  | none => simp
  | some origin =>
    generalize cleanEnd (window.nextUrl serverBasePath).toList = text
    have hpath := path_resolve_root text
    generalize Location.root.resolve (text.dropWhile (!endsAuthority ·)) = url at hpath
    have hsegments : pathSegments text ≠ [] := List.splitOnP_ne_nil _ _
    have hstays := staysOnSite_url_iff authority url savedTenant window.origin
    rw [← appendSegments_eq_cons_cons_iff isOrdinary_nil hsegments, ← hpath, ← noHost_iff, ← hstays]
    simp

/-- A `nextUrl` that starts with a path leads where `getNextPath` was said to lead for it. -/
theorem getNextPath_of_path (savedTenant : Option String) {rest : List Char}
    (hpath : (window.nextUrl serverBasePath).toList = '/' :: rest)
    (hauthority : (authority window.origin.scheme
      (window.host ++ cleanEnd (window.nextUrl serverBasePath).toList)).isSome = true) :
    window.getNextPath authority serverBasePath savedTenant =
      some (SecurityDashboards.getNextPath serverBasePath window.location savedTenant) := by
  obtain ⟨origin, horigin⟩ := Option.isSome_iff_exists.mp hauthority
  have hclean : (cleanEnd (window.nextUrl serverBasePath).toList).dropWhile (!endsAuthority ·) =
      clean (window.nextUrl serverBasePath).toList := by
    have hend : cleanEnd ('/' :: rest) =
        '/' :: (rest.rdropWhile isControlOrSpace).filter (!isTabOrNewline ·) := by
      rw [cleanEnd, rdropWhile_cons (by decide), List.filter_cons_of_pos (by decide)]
    rw [hpath, hend, clean_cons (by decide), List.dropWhile_cons_of_neg (by decide)]
  rw [getNextPath_eq, horigin, hclean]
  rfl

namespace Sample

/-- The login page with this query, on a server of its own. -/
def loginPage (query : String) : Window where
  origin := ⟨"https", "dashboards.example", none⟩
  host := "dashboards.example".toList
  location := Location.root.resolve ("/app/login?" ++ query).toList
  isHttp := Or.inr rfl
  isHost := ⟨by decide, by decide, by decide⟩

/-- The host ends where the parser says. -/
def hostAuthority (scheme : String) (text : List Char) : Option Origin :=
  some ⟨scheme, String.ofList (text.takeWhile (!endsAuthority ·)), none⟩

/-- A backslash after the slash leads to another host. -/
theorem backslash_leaves :
    (loginPage "nextUrl=/%5Cevil.example").getNextPath hostAuthority "" none = some "//evil.example" ∧
      originOf hostAuthority (loginPage "nextUrl=/%5Cevil.example").origin "//evil.example".toList =
        some ⟨"https", "evil.example", none⟩ ∧
      ¬StaysOnSite hostAuthority (loginPage "nextUrl=/%5Cevil.example").origin "//evil.example" := by
  refine ⟨by decide, by decide, ?_⟩
  rintro ⟨⟨rest, htext, hsingle⟩, -⟩
  rw [← (List.cons.inj htext).2] at hsingle
  exact hsingle rfl

end Sample

end Window

end SecurityDashboards
