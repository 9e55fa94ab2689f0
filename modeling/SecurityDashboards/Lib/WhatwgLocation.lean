import SecurityDashboards.Lib.JsString
import SecurityDashboards.Lib.UrlEncoding
import SecurityDashboards.Lib.WhatwgUrl

/-!
# Locations on a server

The part of the WHATWG URL parser after the host: path, query and fragment of a URL that is resolved
on a page of the same server. A `Location` carries the proofs that its parts are as the parser
leaves them.
-/

namespace Whatwg

open UrlEncoding

/-! ## Percent-encode sets -/

def isC0OrNonAscii (c : Char) : Bool := decide (c.toNat < 0x20) || decide (0x7E < c.toNat)

def inFragmentSet (c : Char) : Bool :=
  isC0OrNonAscii c || c = ' ' || c = '"' || c = '<' || c = '>' || c = '`'

/-- The set of the query of a special URL. -/
def inQuerySet (c : Char) : Bool :=
  isC0OrNonAscii c || c = ' ' || c = '"' || c = '#' || c = '<' || c = '>' || c = '\''

def inPathSet (c : Char) : Bool :=
  isC0OrNonAscii c || c = ' ' || c = '"' || c = '#' || c = '<' || c = '>' || c = '?' || c = '^' ||
    c = '`' || c = '{' || c = '}'

/-! ## Path segments -/

/-- A dot, also in percent-encoding, at the start of the text: what follows it. -/
def afterDot : List Char → Option (List Char)
  | '.' :: rest => some rest
  | '%' :: '2' :: 'e' :: rest => some rest
  | '%' :: '2' :: 'E' :: rest => some rest
  | _ => none

def isSingleDot (segment : List Char) : Bool := afterDot segment == some []

def isDoubleDot (segment : List Char) : Bool := (afterDot segment).any isSingleDot

/-- The "path state", segment by segment, after the segments of `path`. A dot segment at the end
leaves an empty segment. -/
def appendSegments (path : List (List Char)) : List (List Char) → List (List Char)
  | [] => path
  | [segment] =>
    if isDoubleDot segment then path.dropLast ++ [[]]
    else if isSingleDot segment then path ++ [[]]
    else path ++ [segment]
  | segment :: rest =>
    if isDoubleDot segment then appendSegments path.dropLast rest
    else if isSingleDot segment then appendSegments path rest
    else appendSegments (path ++ [segment]) rest

theorem appendSegments_cons_cons (path : List (List Char)) (first second : List Char)
    (rest : List (List Char)) : appendSegments path (first :: second :: rest) =
      if isDoubleDot first then appendSegments path.dropLast (second :: rest)
      else if isSingleDot first then appendSegments path (second :: rest)
      else appendSegments (path ++ [first]) (second :: rest) := rfl

/-- The segments of a text; backslashes separate like slashes. -/
def splitPath (text : List Char) : List (List Char) :=
  (percentEncode inPathSet text).splitOnP isSlash

/-- A segment as the parser leaves it. -/
structure IsSegment (segment : List Char) : Prop where
  notDot : isSingleDot segment = false
  notDots : isDoubleDot segment = false
  plain : ∀ c ∈ segment, inPathSet c = false
  noSlash : ∀ c ∈ segment, isSlash c = false

/-- A path as a text. -/
def pathText (path : List (List Char)) : List Char := path.flatMap ('/' :: ·)

/-! ## What the sets spare -/

/-- What a percent-encoded text still contains is not in the set. -/
theorem not_mem_set_of_mem_percentEncode {inSet : Char → Bool} (hpercent : inSet '%' = false)
    (hhex : ∀ n < 16, inSet (hexDigit n) = false) {l : List Char} :
    ∀ c ∈ percentEncode inSet l, inSet c = false := by
  intro c hc
  obtain ⟨d, -, hd⟩ := List.mem_flatMap.mp hc
  by_cases hset : inSet d = true
  · rw [if_pos hset] at hd
    obtain ⟨b, hb, hcb⟩ := List.mem_flatMap.mp hd
    obtain ⟨u, -, rfl⟩ := List.mem_map.mp hb
    have hlt : u.toNat < 256 := u.toNat_lt
    rcases List.mem_cons.mp hcb with rfl | hcb
    · exact hpercent
    · rcases List.mem_cons.mp hcb with rfl | hcb
      · exact hhex _ (by omega)
      · rw [List.mem_singleton.mp hcb]
        exact hhex _ (by omega)
  · rw [if_neg hset, List.mem_singleton] at hd
    rw [hd]
    simpa using hset

/-- A text without characters of the set stays as it is. -/
theorem percentEncode_of_plain {inSet : Char → Bool} {l : List Char}
    (h : ∀ c ∈ l, inSet c = false) : percentEncode inSet l = l := by
  induction l with
  | nil => rfl
  | cons c l ih =>
    have hc := h c List.mem_cons_self
    have hl := ih fun d hd => h d (List.mem_cons_of_mem _ hd)
    rw [percentEncode, List.flatMap_cons, if_neg (by simp [hc])]
    rw [percentEncode] at hl
    rw [hl]
    rfl

theorem inQuerySet_of_encoded {l : List Char} : ∀ c ∈ percentEncode inQuerySet l, inQuerySet c = false :=
  not_mem_set_of_mem_percentEncode (by decide) (by decide)

theorem inFragmentSet_of_encoded {l : List Char} :
    ∀ c ∈ percentEncode inFragmentSet l, inFragmentSet c = false :=
  not_mem_set_of_mem_percentEncode (by decide) (by decide)

theorem inPathSet_of_encoded {l : List Char} : ∀ c ∈ percentEncode inPathSet l, inPathSet c = false :=
  not_mem_set_of_mem_percentEncode (by decide) (by decide)

/-! ## What the path state leaves -/

theorem isSegment_nil : IsSegment [] := ⟨by decide, by decide, by simp, by simp⟩

theorem splitPath_plain {text : List Char} :
    ∀ segment ∈ splitPath text, ∀ c ∈ segment, inPathSet c = false ∧ isSlash c = false := by
  intro segment hsegment c hc
  obtain ⟨hmem, hslash⟩ := Js.of_mem_splitOnP segment hsegment c hc
  exact ⟨inPathSet_of_encoded c hmem, hslash⟩

/-- The path state keeps what a path consists of. -/
theorem isSegment_of_mem_appendSegments {segments : List (List Char)} :
    ∀ {path : List (List Char)}, (∀ segment ∈ path, IsSegment segment) →
      (∀ segment ∈ segments, ∀ c ∈ segment, inPathSet c = false ∧ isSlash c = false) →
      ∀ segment ∈ appendSegments path segments, IsSegment segment := by
  induction segments with
  | nil => exact fun hpath _ => hpath
  | cons first rest ih =>
    intro path hpath hplain
    have hlast : ∀ segment ∈ path.dropLast, IsSegment segment :=
      fun segment h => hpath segment (List.dropLast_subset path h)
    have hsnoc : ∀ {path' : List (List Char)} {segment : List Char},
        (∀ s ∈ path', IsSegment s) → IsSegment segment → ∀ s ∈ path' ++ [segment], IsSegment s := by
      intro path' segment hpath' hsegment s hs
      rcases List.mem_append.mp hs with hs | hs
      · exact hpath' s hs
      · rwa [List.mem_singleton.mp hs]
    have hrest : ∀ segment ∈ rest, ∀ c ∈ segment, inPathSet c = false ∧ isSlash c = false :=
      fun segment h => hplain segment (List.mem_cons_of_mem _ h)
    by_cases hdots : isDoubleDot first = true
    · cases rest with
      | nil =>
        rw [appendSegments, if_pos hdots]
        exact hsnoc hlast isSegment_nil
      | cons second rest =>
        rw [appendSegments_cons_cons, if_pos hdots]
        exact ih hlast hrest
    · by_cases hdot : isSingleDot first = true
      · cases rest with
        | nil =>
          rw [appendSegments, if_neg hdots, if_pos hdot]
          exact hsnoc hpath isSegment_nil
        | cons second rest =>
          rw [appendSegments_cons_cons, if_neg hdots, if_pos hdot]
          exact ih hpath hrest
      · have hfirst : IsSegment first := by
          refine ⟨by simpa using hdot, by simpa using hdots, fun c hc => ?_, fun c hc => ?_⟩
          · exact (hplain first List.mem_cons_self c hc).1
          · exact (hplain first List.mem_cons_self c hc).2
        cases rest with
        | nil =>
          rw [appendSegments, if_neg hdots, if_neg hdot]
          exact hsnoc hpath hfirst
        | cons second rest =>
          rw [appendSegments_cons_cons, if_neg hdots, if_neg hdot]
          exact ih (hsnoc hpath hfirst) hrest

theorem appendSegments_ne_nil {segments : List (List Char)} (hne : segments ≠ []) :
    ∀ path, appendSegments path segments ≠ [] := by
  induction segments with
  | nil => exact absurd rfl hne
  | cons first rest ih =>
    intro path
    cases rest with
    | nil =>
      rw [appendSegments]
      split_ifs <;> simp
    | cons second rest =>
      rw [appendSegments_cons_cons]
      split_ifs <;> exact ih (by simp) _

/-- Segments without dots are appended as they are. -/
theorem appendSegments_of_isSegment {segments : List (List Char)} :
    ∀ {path}, (∀ segment ∈ segments, IsSegment segment) →
      appendSegments path segments = path ++ segments := by
  induction segments with
  | nil => exact fun _ => (List.append_nil _).symm
  | cons first rest ih =>
    intro path h
    obtain ⟨hdot, hdots, -, -⟩ := h first List.mem_cons_self
    have hrest : ∀ segment ∈ rest, IsSegment segment :=
      fun segment hs => h segment (List.mem_cons_of_mem _ hs)
    cases rest with
    | nil => rw [appendSegments, hdots, hdot]; rfl
    | cons second rest =>
      rw [appendSegments_cons_cons, hdots, hdot, if_neg Bool.false_ne_true, if_neg Bool.false_ne_true,
        ih hrest, List.append_assoc, List.singleton_append]

/-! ## Locations -/

/-- Path, query and fragment of a URL. -/
structure Location where
  path : List (List Char)
  query : Option (List Char) := none
  fragment : Option (List Char) := none
  path_ne_nil : path ≠ []
  isSegment : ∀ segment ∈ path, IsSegment segment
  isQuery : ∀ text ∈ query, ∀ c ∈ text, inQuerySet c = false
  isFragment : ∀ text ∈ fragment, ∀ c ∈ text, inFragmentSet c = false

namespace Location

/-- `location.pathname` -/
def pathname (location : Location) : String := String.ofList (pathText location.path)

/-- `location.search` -/
def search (location : Location) : String :=
  match location.query with
  | none => ""
  | some [] => ""
  | some text => String.ofList ('?' :: text)

/-- Path and query as the text of a URL. -/
def text (location : Location) : List Char := location.pathname.toList ++ location.search.toList

/-- `location.hash` -/
def hash (location : Location) : String :=
  match location.fragment with
  | none => ""
  | some [] => ""
  | some text => String.ofList ('#' :: text)

end Location

/-! ## Resolving a URL -/

/-- The path of a URL: without one it is the path of the page, and without a slash it starts in the
directory of the page. -/
def resolvePath (page : List (List Char)) (text : List Char) : List (List Char) :=
  match text with
  | [] => page
  | c :: rest =>
    if isSlash c then appendSegments [] (splitPath rest)
    else appendSegments page.dropLast (splitPath text)

theorem resolvePath_ne_nil {page : List (List Char)} (hpage : page ≠ []) (text : List Char) :
    resolvePath page text ≠ [] := by
  cases text with
  | nil => exact hpage
  | cons c rest =>
    rw [resolvePath]
    split_ifs
    · exact appendSegments_ne_nil (List.splitOnP_ne_nil _ _) _
    · exact appendSegments_ne_nil (List.splitOnP_ne_nil _ _) _

theorem isSegment_of_mem_resolvePath {page : List (List Char)}
    (hpage : ∀ segment ∈ page, IsSegment segment) (text : List Char) :
    ∀ segment ∈ resolvePath page text, IsSegment segment := by
  cases text with
  | nil => exact hpage
  | cons c rest =>
    rw [resolvePath]
    split_ifs
    · exact isSegment_of_mem_appendSegments (by simp) splitPath_plain
    · exact isSegment_of_mem_appendSegments
        (fun segment h => hpage segment (List.dropLast_subset page h)) splitPath_plain

/-- The texts before and after the first such character. -/
def cut (c : Char) (text : List Char) : List Char × Option (List Char) :=
  (text.takeWhile (· ≠ c), (text.dropWhile (· ≠ c)).tail?)

theorem cut_of_not_mem {c : Char} {text : List Char} (h : c ∉ text) : cut c text = (text, none) := by
  have hne : ∀ d ∈ text, decide (d ≠ c) = true := by
    intro d hd
    simpa using fun heq : d = c => h (heq ▸ hd)
  rw [cut, List.takeWhile_eq_self_iff.mpr hne, List.dropWhile_eq_nil_iff.mpr hne]
  rfl

theorem cut_append {c : Char} {text : List Char} (h : c ∉ text) (rest : List Char) :
    cut c (text ++ c :: rest) = (text, some rest) := by
  have hne : ∀ d ∈ text, decide (d ≠ c) = true := by
    intro d hd
    simpa using fun heq : d = c => h (heq ▸ hd)
  rw [cut, List.dropWhile_append_of_pos hne, List.takeWhile_append_of_pos hne,
    List.dropWhile_cons_of_neg (by simp), List.takeWhile_cons_of_neg (by simp), List.append_nil]
  rfl

namespace Location

/-- The URL in the text, on the page. -/
def resolve (page : Location) (text : List Char) : Location :=
  let beforeHash := (cut '#' text).1
  let pathPart := (cut '?' beforeHash).1
  let queryPart := (cut '?' beforeHash).2
  { path := resolvePath page.path pathPart
    query := if pathPart = [] ∧ queryPart = none then page.query
      else queryPart.map (percentEncode inQuerySet)
    fragment := (cut '#' text).2.map (percentEncode inFragmentSet)
    path_ne_nil := resolvePath_ne_nil page.path_ne_nil _
    isSegment := isSegment_of_mem_resolvePath page.isSegment _
    isQuery := by
      intro text' htext
      split_ifs at htext
      · exact page.isQuery text' htext
      · obtain ⟨raw, -, rfl⟩ := Option.map_eq_some_iff.mp htext
        exact inQuerySet_of_encoded
    isFragment := by
      intro text' htext
      obtain ⟨raw, -, rfl⟩ := Option.map_eq_some_iff.mp htext
      exact inFragmentSet_of_encoded }

/-- The text starts with the slashes before a host. -/
def startsHost : List Char → Bool
  | c :: d :: _ => isSlash c && isSlash d
  | _ => false

/-- The page of a server's root. -/
def root : Location where
  path := [[]]
  path_ne_nil := by simp
  isSegment := by simpa using isSegment_nil
  isQuery := by simp
  isFragment := by simp

/-- Where a script or a link on the page leads, if the URL has neither a scheme nor a host. -/
def locate (page : Location) (url : String) : Option Location :=
  let input := clean url.toList
  if (scheme input).isSome || startsHost input then none else some (page.resolve input)

/-- Where a redirect leads: the fragment of the page is kept unless the URL has one. -/
def redirect (page : Location) (url : String) : Option Location :=
  (page.locate url).map fun location =>
    { location with
      fragment := location.fragment.or page.fragment
      isFragment := by
        intro text htext
        cases h : location.fragment with
        | none =>
          rw [h] at htext
          exact page.isFragment text htext
        | some own =>
          rw [h] at htext
          exact location.isFragment text (by rw [h]; exact htext) }

end Location

end Whatwg
