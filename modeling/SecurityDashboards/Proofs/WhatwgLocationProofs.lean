import SecurityDashboards.Lib.WhatwgLocation
import SecurityDashboards.Proofs.UrlEncodingProofs

/-!
# Proofs: where a URL leads

A location's own path and query lead to it from every page of the server.
-/

namespace Whatwg

open UrlEncoding

/-! ## Texts the parser does not change -/

theorem clean_of_plain {l : List Char} (h : ∀ c ∈ l, isControlOrSpace c = false) :
    clean l = l := by
  cases l with
  | nil => rfl
  | cons c l =>
    have hdrop : l.rdropWhile isControlOrSpace = l := by
      rw [List.rdropWhile_eq_self_iff]
      intro hne hlast
      rw [h _ (List.mem_cons_of_mem _ (List.getLast_mem hne))] at hlast
      cases hlast
    rw [clean_cons (h c List.mem_cons_self), hdrop, List.filter_eq_self.mpr]
    intro d hd
    rw [not_tabOrNewline (h d (List.mem_cons_of_mem _ hd))]
    rfl

/-- What no set encodes is printable. -/
theorem not_controlOrSpace {c : Char} (hset : isC0OrNonAscii c = false) (hspace : c ≠ ' ') :
    isControlOrSpace c = false := by
  have hne : c.toNat ≠ 32 := fun h => hspace (Char.toNat_inj.mp h)
  simp only [isC0OrNonAscii, Bool.or_eq_false_iff, decide_eq_false_iff_not] at hset
  simp only [isControlOrSpace, decide_eq_false_iff_not]
  omega

theorem printable_of_path {c : Char} (h : inPathSet c = false) :
    isControlOrSpace c = false ∧ c.toNat < 128 := by
  simp only [inPathSet, Bool.or_eq_false_iff, decide_eq_false_iff_not] at h
  obtain ⟨⟨⟨⟨⟨⟨⟨⟨⟨⟨hc0, hspace⟩, -⟩, -⟩, -⟩, -⟩, -⟩, -⟩, -⟩, -⟩, -⟩ := h
  refine ⟨not_controlOrSpace hc0 hspace, ?_⟩
  simp only [isC0OrNonAscii, Bool.or_eq_false_iff, decide_eq_false_iff_not] at hc0
  omega

theorem printable_of_query {c : Char} (h : inQuerySet c = false) :
    isControlOrSpace c = false ∧ c.toNat < 128 := by
  simp only [inQuerySet, Bool.or_eq_false_iff, decide_eq_false_iff_not] at h
  obtain ⟨⟨⟨⟨⟨⟨hc0, hspace⟩, -⟩, -⟩, -⟩, -⟩, -⟩ := h
  refine ⟨not_controlOrSpace hc0 hspace, ?_⟩
  simp only [isC0OrNonAscii, Bool.or_eq_false_iff, decide_eq_false_iff_not] at hc0
  omega

theorem printable_of_fragment {c : Char} (h : inFragmentSet c = false) :
    isControlOrSpace c = false := by
  simp only [inFragmentSet, Bool.or_eq_false_iff, decide_eq_false_iff_not] at h
  obtain ⟨⟨⟨⟨⟨hc0, hspace⟩, -⟩, -⟩, -⟩, -⟩ := h
  exact not_controlOrSpace hc0 hspace

/-- Hexadecimal digits are not encoded. -/
theorem not_inQuerySet_of_hex {c : Char} (h : hexValue c ≠ none) : inQuerySet c = false := by
  have hall : ∀ n < 103, hexValue (Char.ofNat n) ≠ none → inQuerySet (Char.ofNat n) = false := by
    decide
  have hlt : c.toNat < 103 := by
    by_contra hlarge
    refine h ?_
    rw [hexValue, if_neg (by omega), if_neg (by omega), if_neg (by omega)]
  have hc := hall c.toNat hlt
  rw [Char.ofNat_toNat] at hc
  exact hc h

theorem transparent_inQuerySet : Transparent inQuerySet where
  percent := by decide
  plus := by decide
  hex _ hc := not_inQuerySet_of_hex hc

/-! ## Paths -/

theorem mem_pathText {path : List (List Char)} (h : ∀ segment ∈ path, IsSegment segment) :
    ∀ c ∈ pathText path, inPathSet c = false := by
  intro c hc
  obtain ⟨segment, hsegment, hcs⟩ := List.mem_flatMap.mp hc
  rcases List.mem_cons.mp hcs with rfl | hcs
  · decide
  · exact (h segment hsegment).plain c hcs

theorem splitOnP_pathText {path : List (List Char)} (h : ∀ segment ∈ path, IsSegment segment) :
    ∀ {first}, IsSegment first → (first ++ pathText path).splitOnP isSlash = first :: path := by
  induction path with
  | nil =>
    intro first hfirst
    rw [pathText, List.flatMap_nil, List.append_nil, List.splitOnP_eq_singleton hfirst.noSlash]
  | cons second rest ih =>
    intro first hfirst
    have hrest := ih (fun segment hs => h segment (List.mem_cons_of_mem _ hs))
      (h second List.mem_cons_self)
    rw [pathText, List.flatMap_cons, List.cons_append,
      List.splitOnP_append_cons_of_forall_mem hfirst.noSlash '/' (by decide)]
    rw [pathText] at hrest
    rw [hrest]

/-- A path is resolved to itself. -/
theorem resolvePath_pathText {path : List (List Char)} (hne : path ≠ [])
    (h : ∀ segment ∈ path, IsSegment segment) (page : List (List Char)) :
    resolvePath page (pathText path) = path := by
  cases path with
  | nil => exact absurd rfl hne
  | cons first rest =>
    have hfirst := h first List.mem_cons_self
    have hrest : ∀ segment ∈ rest, IsSegment segment :=
      fun segment hs => h segment (List.mem_cons_of_mem _ hs)
    have hplain : ∀ c ∈ first ++ pathText rest, inPathSet c = false := by
      intro c hc
      rcases List.mem_append.mp hc with hc | hc
      · exact hfirst.plain c hc
      · exact mem_pathText hrest c hc
    have htext : pathText (first :: rest) = '/' :: (first ++ pathText rest) := rfl
    rw [htext, resolvePath, if_pos (by decide), splitPath, percentEncode_of_plain hplain,
      splitOnP_pathText hrest hfirst, appendSegments_of_isSegment h, List.nil_append]

namespace Location

/-! ## Resolving -/

/-- The end of a URL, or a fragment. -/
def IsHash (text : List Char) : Prop := text = [] ∨ ∃ rest, text = '#' :: rest

theorem cut_hash {text : List Char} (h : '#' ∉ text) {hash : List Char} (hhash : IsHash hash) :
    (cut '#' (text ++ hash)).1 = text := by
  rcases hhash with rfl | ⟨rest, rfl⟩
  · rw [List.append_nil, cut_of_not_mem h]
  · rw [cut_append h]

variable {path : List (List Char)} (page : Location) {hash : List Char}

theorem not_mem_pathText {c : Char} (hset : inPathSet c = true)
    (h : ∀ segment ∈ path, IsSegment segment) : c ∉ pathText path := by
  intro hc
  rw [mem_pathText h c hc] at hset
  cases hset

theorem resolve_path (hne : path ≠ []) (h : ∀ segment ∈ path, IsSegment segment)
    (hhash : IsHash hash) :
    (page.resolve (pathText path ++ hash)).path = path ∧
      (page.resolve (pathText path ++ hash)).query = none := by
  have hcut := cut_hash (not_mem_pathText (c := '#') (by decide) h) hhash
  have hquery := cut_of_not_mem (not_mem_pathText (c := '?') (by decide) h)
  have hpath : pathText path ≠ [] := by
    cases path with
    | nil => exact absurd rfl hne
    | cons first rest => simp [pathText]
  simp only [resolve, hcut, hquery, resolvePath_pathText hne h]
  exact ⟨trivial, if_neg fun hnil => hpath hnil.1⟩

theorem resolve_query (hne : path ≠ []) (h : ∀ segment ∈ path, IsSegment segment)
    {query : List Char} (hquery : '#' ∉ query) (hhash : IsHash hash) :
    (page.resolve (pathText path ++ '?' :: query ++ hash)).path = path ∧
      (page.resolve (pathText path ++ '?' :: query ++ hash)).query =
        some (percentEncode inQuerySet query) := by
  have hno : '#' ∉ pathText path ++ '?' :: query := by
    simp only [List.mem_append, List.mem_cons, not_or]
    exact ⟨not_mem_pathText (by decide) h, by decide, hquery⟩
  have hcut := cut_hash hno hhash
  have hsplit := cut_append (not_mem_pathText (c := '?') (by decide) h) query
  simp only [resolve, hcut, hsplit, resolvePath_pathText hne h]
  exact ⟨trivial, if_neg fun hnil => by cases hnil.2⟩

/-! ## A location from its own text -/

theorem text_eq (location : Location) :
    location.search = "" ∧ location.text = pathText location.path ∨
      ∃ query, location.query = some query ∧ query ≠ [] ∧
        location.text = pathText location.path ++ '?' :: query := by
  unfold text pathname search
  rw [String.toList_ofList]
  split
  · exact Or.inl ⟨rfl, List.append_nil _⟩
  · exact Or.inl ⟨rfl, List.append_nil _⟩
  · rename_i query hne hquery
    rw [String.toList_ofList]
    exact Or.inr ⟨query, hquery, hne, rfl⟩

theorem search_congr {location other : Location} (h : location.query = other.query) :
    location.search = other.search := by
  unfold search
  rw [h]

theorem pathname_congr {location other : Location} (h : location.path = other.path) :
    location.pathname = other.pathname := by
  unfold pathname
  rw [h]

/-! ## What locates -/

theorem locate_of_stays {url : String} (h : Stays url.toList) :
    page.locate url = some (page.resolve (clean url.toList)) := by
  have hhost : startsHost (clean url.toList) = false := by
    unfold startsHost
    split
    · rename_i c d rest hclean
      exact h.noHost c d rest hclean
    · rfl
  unfold locate
  dsimp only
  rw [h.noScheme, hhost]
  rfl

/-! ## Characters of the query -/

/-- What the start of the parser removes does not move a character before the hash. -/
theorem mem_before_hash {text : List Char} {c : Char} (h : c ∈ (cut '#' (clean text)).1) :
    c ∈ (cut '#' text).1 := by
  have htab : ∀ d : Char, ((!(!isTabOrNewline d)) || decide (d ≠ '#')) = decide (d ≠ '#') := by
    intro d
    by_cases hd : d = '#'
    · subst hd
      decide
    · simp [hd]
  have hprefix : ∀ {p : Char → Bool} (l l' : List Char), c ∈ l.takeWhile p →
      c ∈ (l ++ l').takeWhile p := by
    intro p l l' hc
    rw [List.takeWhile_append]
    split_ifs with hall
    · exact List.mem_append_left _ ((List.takeWhile_subset p) hc)
    · exact hc
  have hfilter : c ∈ ((text.dropWhile isControlOrSpace).rdropWhile isControlOrSpace).takeWhile
      (· ≠ '#') := by
    simp only [cut, clean, List.takeWhile_filter, htab] at h
    exact List.mem_of_mem_filter h
  have hdropped : c ∈ (text.dropWhile isControlOrSpace).takeWhile (· ≠ '#') := by
    have h' := hprefix _ ((text.dropWhile isControlOrSpace).rtakeWhile isControlOrSpace) hfilter
    rwa [List.rdropWhile_append_rtakeWhile] at h'
  have hcontrol : ∀ d ∈ text.takeWhile isControlOrSpace, decide (d ≠ '#') = true := by
    intro d hd
    have hspace := List.mem_takeWhile_imp hd
    by_contra hne
    simp only [decide_eq_true_eq, not_not] at hne
    rw [hne] at hspace
    revert hspace
    decide
  rw [cut, ← List.takeWhile_append_dropWhile (p := isControlOrSpace) (l := text),
    List.takeWhile_append_of_pos hcontrol]
  exact List.mem_append_right _ hdropped

theorem not_mem_percentEncode {inSet : Char → Bool} {text : List Char} (h : '+' ∉ text) :
    '+' ∉ percentEncode inSet text := by
  intro hmem
  obtain ⟨d, hd, hplus⟩ := List.mem_flatMap.mp hmem
  by_cases hset : inSet d = true
  · rw [if_pos hset] at hplus
    obtain ⟨b, hb, hplus⟩ := List.mem_flatMap.mp hplus
    rcases Js.mem_percentByte (utf8_lt d b hb) hplus with h | h
    · revert h
      decide
    · revert h
      decide
  · rw [if_neg hset, List.mem_singleton] at hplus
    exact h (hplus ▸ hd)

theorem mem_of_cut {c d : Char} {text rest : List Char} (hcut : (cut c text).2 = some rest)
    (hd : d ∈ rest) : d ∈ text := by
  refine (List.dropWhile_suffix (· ≠ c)).subset ?_
  cases hdrop : text.dropWhile (· ≠ c) with
  | nil =>
    rw [cut, hdrop] at hcut
    cases hcut
  | cons e tail =>
    rw [cut, hdrop] at hcut
    injection hcut with htail
    exact List.mem_cons_of_mem _ (htail ▸ hd)

/-- The path state makes no segments up. -/
theorem mem_appendSegments {segments : List (List Char)} :
    ∀ {path : List (List Char)}, ∀ segment ∈ appendSegments path segments,
      segment = [] ∨ segment ∈ path ∨ segment ∈ segments := by
  induction segments with
  | nil => exact fun segment h => Or.inr (Or.inl h)
  | cons first rest ih =>
    intro path segment h
    have hsnoc : ∀ {init : List (List Char)} {last : List Char}, segment ∈ init ++ [last] →
        segment ∈ init ∨ segment = last := fun h =>
      (List.mem_append.mp h).imp_right List.mem_singleton.mp
    cases rest with
    | nil =>
      rw [appendSegments] at h
      split_ifs at h
      · exact (hsnoc h).elim (fun hp => Or.inr (Or.inl (List.dropLast_subset path hp))) Or.inl
      · exact (hsnoc h).elim (fun hp => Or.inr (Or.inl hp)) Or.inl
      · exact (hsnoc h).elim (fun hp => Or.inr (Or.inl hp))
          fun heq => Or.inr (Or.inr (List.mem_singleton.mpr heq))
    | cons second rest =>
      rw [appendSegments_cons_cons] at h
      split_ifs at h
      · rcases ih segment h with hnil | hpath | hrest
        · exact Or.inl hnil
        · exact Or.inr (Or.inl (List.dropLast_subset path hpath))
        · exact Or.inr (Or.inr (List.mem_cons_of_mem _ hrest))
      · rcases ih segment h with hnil | hpath | hrest
        · exact Or.inl hnil
        · exact Or.inr (Or.inl hpath)
        · exact Or.inr (Or.inr (List.mem_cons_of_mem _ hrest))
      · rcases ih segment h with hnil | hpath | hrest
        · exact Or.inl hnil
        · rcases hsnoc hpath with hpath | hfirst
          · exact Or.inr (Or.inl hpath)
          · exact Or.inr (Or.inr (hfirst ▸ List.mem_cons_self))
        · exact Or.inr (Or.inr (List.mem_cons_of_mem _ hrest))

/-- A path has no plus sign that the URL does not have before its hash. -/
theorem not_mem_pathname {text : List Char} (hpath : ∃ rest, text = '/' :: rest)
    (h : '+' ∉ (cut '#' text).1) : '+' ∉ (page.resolve (clean text)).pathname.toList := by
  obtain ⟨rest, rfl⟩ := hpath
  have hclean : '+' ∉ (cut '#' (clean ('/' :: rest))).1 := fun hmem => h (mem_before_hash hmem)
  obtain ⟨tail, htail⟩ : ∃ tail, clean ('/' :: rest) = '/' :: tail :=
    ⟨_, clean_cons (by decide) rest⟩
  obtain ⟨tail', htail'⟩ : ∃ tail', (cut '?' (cut '#' (clean ('/' :: rest))).1).1 = '/' :: tail' := by
    rw [htail]
    exact ⟨_, rfl⟩
  have hpart : '+' ∉ tail' := by
    intro hmem
    have hbefore : '+' ∈ (cut '?' (cut '#' (clean ('/' :: rest))).1).1 :=
      htail' ▸ List.mem_cons_of_mem _ hmem
    exact hclean (List.takeWhile_subset _ hbefore)
  rw [pathname, String.toList_ofList]
  intro hmem
  obtain ⟨segment, hsegment, hplus⟩ := List.mem_flatMap.mp hmem
  have hplus : '+' ∈ segment := (List.mem_cons.mp hplus).resolve_left (by decide)
  simp only [resolve, htail', resolvePath] at hsegment
  rw [if_pos (by decide)] at hsegment
  rcases mem_appendSegments segment hsegment with rfl | hnil | hsplit
  · cases hplus
  · cases hnil
  · exact not_mem_percentEncode hpart (Js.of_mem_splitOnP segment hsplit '+' hplus).1

/-- A query has no plus sign that the URL does not have before its hash. -/
theorem not_mem_search {text : List Char} (hpath : ∃ rest, text = '/' :: rest)
    (h : '+' ∉ (cut '#' text).1) : '+' ∉ (page.resolve (clean text)).search.toList := by
  obtain ⟨rest, rfl⟩ := hpath
  have hclean : '+' ∉ (cut '#' (clean ('/' :: rest))).1 := fun hmem => h (mem_before_hash hmem)
  have hquery : ∀ query, (page.resolve (clean ('/' :: rest))).query = some query →
      '+' ∉ query := by
    intro query hsome
    obtain ⟨tail, htail⟩ : ∃ tail, clean ('/' :: rest) = '/' :: tail :=
      ⟨_, clean_cons (by decide) rest⟩
    have hne : (cut '?' (cut '#' (clean ('/' :: rest))).1).1 ≠ [] := by
      rw [htail]
      simp [cut]
    simp only [resolve, if_neg fun hnil => hne (And.left hnil)] at hsome
    obtain ⟨raw, hraw, rfl⟩ := Option.map_eq_some_iff.mp hsome
    refine not_mem_percentEncode fun hmem => hclean (mem_of_cut hraw hmem)
  unfold search
  split
  · simp
  · simp
  · rename_i query hne hsome
    rw [String.toList_ofList]
    simp only [List.mem_cons, not_or]
    exact ⟨by decide, hquery query hsome⟩

/-! ## The text of a path, and what follows -/

/-- The path does not start like a host. -/
def NoHost (path : List (List Char)) : Prop := ∀ rest, path = [] :: rest → rest = []

theorem printable_pathText (h : ∀ segment ∈ path, IsSegment segment) :
    ∀ c ∈ pathText path, isControlOrSpace c = false :=
  fun c hc => (printable_of_path (mem_pathText h c hc)).1

/-- A path with a query or a hash stays. -/
theorem stays_pathText (hne : path ≠ []) (h : ∀ segment ∈ path, IsSegment segment)
    (hhost : NoHost path) {tail : List Char}
    (htail : ∀ c rest, tail = c :: rest → c = '?' ∨ c = '#') : Stays (pathText path ++ tail) := by
  cases path with
  | nil => exact absurd rfl hne
  | cons first rest =>
    cases first with
    | nil =>
      have hrest := hhost rest rfl
      subst hrest
      cases tail with
      | nil => exact stays_root
      | cons c tail =>
        refine stays_of_path ?_ ?_ tail
        · rcases htail c tail rfl with rfl | rfl <;> decide
        · rcases htail c tail rfl with rfl | rfl <;> decide
    | cons d first =>
      have hfirst := h (d :: first) List.mem_cons_self
      have hprintable := printable_of_path (hfirst.plain d List.mem_cons_self)
      exact stays_of_path hprintable.1 (hfirst.noSlash d List.mem_cons_self) _

/-- The end of the text is cleaned behind printable characters. -/
theorem clean_append {text : List Char} (h : ∀ c ∈ text, isControlOrSpace c = false) {c : Char}
    (hc : isControlOrSpace c = false) (tail : List Char) :
    ∃ tail', clean (text ++ c :: tail) = text ++ c :: tail' := by
  have hdrop : ∀ {l : List Char}, (∀ d ∈ l, isControlOrSpace d = false) →
      (l ++ c :: tail).rdropWhile isControlOrSpace =
        l ++ c :: tail.rdropWhile isControlOrSpace := by
    intro l hl
    induction l with
    | nil => exact rdropWhile_cons hc tail
    | cons d l ih =>
      rw [List.cons_append, rdropWhile_cons (hl d List.mem_cons_self),
        ih fun e he => hl e (List.mem_cons_of_mem _ he)]
      rfl
  cases text with
  | nil => exact ⟨_, clean_cons hc tail⟩
  | cons d l =>
    have hl : ∀ e ∈ l, isControlOrSpace e = false := fun e he => h e (List.mem_cons_of_mem _ he)
    have hkept : l.filter (!isTabOrNewline ·) = l := by
      rw [List.filter_eq_self]
      intro e he
      rw [not_tabOrNewline (hl e he)]
      rfl
    rw [List.cons_append, clean_cons (h d List.mem_cons_self), hdrop hl, List.filter_append, hkept,
      List.filter_cons_of_pos (by simp [not_tabOrNewline hc])]
    exact ⟨_, rfl⟩

/-- Whatever follows the path, it is resolved to itself; without one the path is that of the page. -/
theorem resolve_path_of_tail (h : ∀ segment ∈ path, IsSegment segment) {tail : List Char}
    (htail : ∀ c rest, tail = c :: rest → c = '?' ∨ c = '#') :
    (page.resolve (pathText path ++ tail)).path = if path = [] then page.path else path := by
  have hhash : ∀ c ∈ pathText path, decide (c ≠ '#') = true := by
    intro c hc
    simpa using fun heq : c = '#' => not_mem_pathText (by decide) h (heq ▸ hc)
  have hquery : ∀ c ∈ pathText path, decide (c ≠ '?') = true := by
    intro c hc
    simpa using fun heq : c = '?' => not_mem_pathText (by decide) h (heq ▸ hc)
  have hcut : (cut '?' (cut '#' (pathText path ++ tail)).1).1 = pathText path := by
    simp only [cut]
    rw [List.takeWhile_append_of_pos hhash, List.takeWhile_append_of_pos hquery]
    cases htl : tail with
    | nil => exact List.append_nil _
    | cons c rest =>
      rcases htail c rest htl with rfl | rfl
      · rw [List.takeWhile_cons_of_pos (by decide), List.takeWhile_cons_of_neg (by decide),
          List.append_nil]
      · rw [List.takeWhile_cons_of_neg (by decide), List.takeWhile_nil, List.append_nil]
  simp only [resolve, hcut]
  split_ifs with hnil
  · rw [hnil]
    rfl
  · exact resolvePath_pathText hnil h page.path

theorem redirect_of_locate {url : String} {location : Location}
    (h : page.locate url = some location) :
    ∃ location', page.redirect url = some location' ∧ location'.path = location.path ∧
      location'.query = location.query ∧
      location'.fragment = location.fragment.or page.fragment := by
  rw [redirect, h]
  exact ⟨_, rfl, rfl, rfl, rfl⟩

/-- A URL with a query and without a fragment. -/
theorem fragment_of_query {text query : List Char} (htext : '#' ∉ text) (hquery : '#' ∉ query) :
    (page.resolve (text ++ '?' :: query)).fragment = none := by
  have hhash : '#' ∉ text ++ '?' :: query := by
    simp only [List.mem_append, List.mem_cons, not_or]
    exact ⟨htext, by decide, hquery⟩
  simp only [resolve, cut_of_not_mem hhash]
  rfl

/-- Characters of a query that the parser keeps in place, though it may encode them. -/
def IsQueryText (query : List Char) : Prop := ∀ c ∈ query, isControlOrSpace c = false ∧ c ≠ '#'

instance (query : List Char) : Decidable (IsQueryText query) :=
  inferInstanceAs (Decidable (∀ c ∈ query, _))

theorem IsQueryText.no_hash {query : List Char} (h : IsQueryText query) : '#' ∉ query :=
  fun hmem => (h '#' hmem).2 rfl

theorem clean_of_query {text query : List Char} (htext : ∀ c ∈ text, isControlOrSpace c = false)
    (hquery : IsQueryText query) : clean (text ++ '?' :: query) = text ++ '?' :: query := by
  refine clean_of_plain fun c hc => ?_
  rcases List.mem_append.mp hc with hc | hc
  · exact htext c hc
  · rcases List.mem_cons.mp hc with rfl | hc
    · decide
    · exact (hquery c hc).1

/-- A path with a query. -/
theorem locate_of_query (hne : path ≠ []) (h : ∀ segment ∈ path, IsSegment segment)
    (hhost : NoHost path) {query : List Char} (hquery : IsQueryText query) {url : String}
    (hurl : url.toList = pathText path ++ '?' :: query) :
    ∃ location, page.locate url = some location ∧ location.path = path ∧
      location.query = some (percentEncode inQuerySet query) ∧ location.fragment = none := by
  have hstays : Stays url.toList := by
    rw [hurl]
    refine stays_pathText hne h hhost fun c rest hc => ?_
    injection hc with hc
    exact Or.inl hc.symm
  obtain ⟨hpath, hsome⟩ := page.resolve_query hne h hquery.no_hash (Or.inl rfl)
  rw [List.append_nil] at hpath hsome
  rw [page.locate_of_stays hstays, hurl, clean_of_query (printable_pathText h) hquery]
  exact ⟨_, rfl, hpath, hsome,
    page.fragment_of_query (not_mem_pathText (by decide) h) hquery.no_hash⟩

/-- A name with a query is found in the directory of the page. -/
theorem locate_of_name {name : List Char} (hname : IsSegment name) (hne : name ≠ [])
    {query : List Char} (hquery : IsQueryText query)
    (hscheme : ∀ c ∈ name, isSchemeChar c = true) {url : String}
    (hurl : url.toList = name ++ '?' :: query) :
    ∃ location, page.locate url = some location ∧
      location.path = page.path.dropLast ++ [name] ∧
      location.query = some (percentEncode inQuerySet query) := by
  have hprintable : ∀ c ∈ name, isControlOrSpace c = false :=
    fun c hc => (printable_of_path (hname.plain c hc)).1
  have hclean := clean_of_query hprintable hquery
  have hmem : ∀ {c : Char}, inPathSet c = true → c ∉ name := by
    intro c hset hc
    rw [hname.plain c hc] at hset
    cases hset
  have hno := hquery.no_hash
  have hstays : Stays url.toList := by
    rw [hurl]
    obtain ⟨c, rest, rfl⟩ := List.exists_cons_of_ne_nil hne
    refine ⟨?_, fun c' d rest' heq => ?_⟩
    · have hdrop : ((c :: rest) ++ '?' :: query).dropWhile isSchemeChar = '?' :: query := by
        rw [List.dropWhile_append_of_pos hscheme, List.dropWhile_cons_of_neg (by decide)]
      rw [hclean, List.cons_append, scheme]
      rw [← List.cons_append, hdrop]
      split_ifs <;> rfl
    · rw [hclean] at heq
      injection heq with hc
      rw [← hc, hname.noSlash c List.mem_cons_self]
      rfl
  rw [page.locate_of_stays hstays, hurl, hclean]
  have hsplit : splitPath name = [name] := by
    rw [splitPath, percentEncode_of_plain hname.plain, List.splitOnP_eq_singleton hname.noSlash]
  have hresolve : resolvePath page.path name = page.path.dropLast ++ [name] := by
    obtain ⟨c, rest, rfl⟩ := List.exists_cons_of_ne_nil hne
    rw [resolvePath, if_neg (by simp [hname.noSlash c List.mem_cons_self]), hsplit,
      appendSegments_of_isSegment (by simpa using hname)]
  have hhash : '#' ∉ name ++ '?' :: query := by
    simp only [List.mem_append, List.mem_cons, not_or]
    exact ⟨hmem (by decide), by decide, hno⟩
  refine ⟨_, rfl, ?_, ?_⟩
  · simp only [resolve, cut_of_not_mem hhash, cut_append (hmem (by decide) : '?' ∉ name), hresolve]
  · simp only [resolve, cut_of_not_mem hhash, cut_append (hmem (by decide) : '?' ∉ name)]
    rw [if_neg fun hnil => hne hnil.1, Option.map_some]

end Location

end Whatwg
