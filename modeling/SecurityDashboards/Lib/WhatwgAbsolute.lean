import SecurityDashboards.Lib.WhatwgLocation

/-!
# Absolute URLs

The WHATWG URL parser on an absolute URL of a special scheme: the origin, and the location on that
server.
-/

namespace Whatwg

variable (authority : String → List Char → Option Origin)

/-- Host, port and credentials end here. -/
def endsAuthority (c : Char) : Bool := isSlash c || c = '?' || c = '#'

/-- `new URL(url)`; none if it throws. URLs of other schemes are left out. -/
def newURL (url : String) : Option (Origin × Location) :=
  match scheme (clean url.toList) with
  | some (s, rest) =>
    if specialSchemes.contains s then
      let text := rest.dropWhile isSlash
      (authority s text).map fun origin =>
        (origin, Location.root.resolve (text.dropWhile (!endsAuthority ·)))
    else none
  | none => none

/-- The parser at the end of a URL whose beginning it leaves as it is. -/
def cleanEnd (text : List Char) : List Char :=
  (text.rdropWhile isControlOrSpace).filter (!isTabOrNewline ·)

/-- The segments of the path of a URL, from the text that follows the host or starts in it. -/
def pathSegments (text : List Char) : List (List Char) :=
  splitPath ((cut '?' (cut '#' (text.dropWhile (!endsAuthority ·))).1).1.drop 1)

/-! ## Behind a host -/

theorem rdropWhile_append {p : Char → Bool} {text : List Char} (h : ∀ c ∈ text, p c = false)
    (hne : text ≠ []) (tail : List Char) :
    (text ++ tail).rdropWhile p = text ++ tail.rdropWhile p := by
  induction text with
  | nil => exact absurd rfl hne
  | cons c text ih =>
    rw [List.cons_append, rdropWhile_cons (h c List.mem_cons_self)]
    cases text with
    | nil => rfl
    | cons d text =>
      rw [ih (fun e he => h e (List.mem_cons_of_mem _ he)) (List.cons_ne_nil d text)]
      rfl

/-- A printable beginning stays, and the rest is cleaned at its end. -/
theorem clean_append_cleanEnd {text : List Char} (h : ∀ c ∈ text, isControlOrSpace c = false)
    (hne : text ≠ []) (tail : List Char) : clean (text ++ tail) = text ++ cleanEnd tail := by
  have hdrop : (text ++ tail).dropWhile isControlOrSpace = text ++ tail := by
    obtain ⟨c, rest, rfl⟩ := List.exists_cons_of_ne_nil hne
    exact List.dropWhile_cons_of_neg (by simp [h c List.mem_cons_self])
  have hkept : text.filter (!isTabOrNewline ·) = text := by
    rw [List.filter_eq_self]
    intro c hc
    rw [not_tabOrNewline (h c hc)]
    rfl
  rw [clean, hdrop, rdropWhile_append h hne, List.filter_append, hkept, cleanEnd]

/-- A host, as the URL of a page has it. -/
structure IsHost (host : List Char) : Prop where
  ne_nil : host ≠ []
  printable : ∀ c ∈ host, isControlOrSpace c = false
  noEnd : ∀ c ∈ host, endsAuthority c = false

theorem IsHost.dropWhile_isSlash {host : List Char} (h : IsHost host) (tail : List Char) :
    (host ++ tail).dropWhile isSlash = host ++ tail := by
  obtain ⟨c, rest, rfl⟩ := List.exists_cons_of_ne_nil h.ne_nil
  have hslash := h.noEnd c List.mem_cons_self
  simp only [endsAuthority, Bool.or_eq_false_iff] at hslash
  exact List.dropWhile_cons_of_neg (by simp [hslash.1.1])

/-- The URL of a host on `http` or `https`, with any text behind it. -/
theorem newURL_of_host {s : String} (hs : s = "http" ∨ s = "https") {host : List Char}
    (hhost : IsHost host) (tail : List Char) :
    newURL authority (String.ofList (s.toList ++ "://".toList ++ host ++ tail)) =
      (authority s (host ++ cleanEnd tail)).map fun origin =>
        (origin, Location.root.resolve ((cleanEnd tail).dropWhile (!endsAuthority ·))) := by
  have hprintable : ∀ c ∈ s.toList ++ "://".toList ++ host, isControlOrSpace c = false := by
    have hstart : ∀ c ∈ s.toList ++ "://".toList, isControlOrSpace c = false := by
      rcases hs with rfl | rfl <;> decide
    intro c hc
    rcases List.mem_append.mp hc with hc | hc
    · exact hstart c hc
    · exact hhost.printable c hc
  have hclean := clean_append_cleanEnd hprintable (by simp) tail
  have hscheme : scheme (s.toList ++ "://".toList ++ host ++ cleanEnd tail) =
      some (s, '/' :: '/' :: (host ++ cleanEnd tail)) := by
    rcases hs with rfl | rfl <;> rfl
  have hspecial : specialSchemes.contains s = true := by
    rcases hs with rfl | rfl <;> decide
  have hslashes : ('/' :: '/' :: (host ++ cleanEnd tail)).dropWhile isSlash =
      host ++ cleanEnd tail := by
    rw [List.dropWhile_cons_of_pos (by decide), List.dropWhile_cons_of_pos (by decide),
      hhost.dropWhile_isSlash]
  have hends : (host ++ cleanEnd tail).dropWhile (!endsAuthority ·) =
      (cleanEnd tail).dropWhile (!endsAuthority ·) :=
    List.dropWhile_append_of_pos fun c hc => by rw [hhost.noEnd c hc]; rfl
  rw [newURL, String.toList_ofList, hclean, hscheme]
  simp only [hspecial, if_true, hslashes, hends]

/-- The path behind a host. -/
theorem path_resolve_root (text : List Char) :
    (Location.root.resolve (text.dropWhile (!endsAuthority ·))).path =
      appendSegments [] (pathSegments text) := by
  have hresolve : (Location.root.resolve (text.dropWhile (!endsAuthority ·))).path =
      resolvePath [[]] (cut '?' (cut '#' (text.dropWhile (!endsAuthority ·))).1).1 := rfl
  rw [hresolve, pathSegments]
  cases hpart : (cut '?' (cut '#' (text.dropWhile (!endsAuthority ·))).1).1 with
  | nil => rfl
  | cons c rest =>
    have hhead : (((text.dropWhile (!endsAuthority ·)).head?.filter (· ≠ '#')).filter (· ≠ '?')) =
        some c := by
      rw [← List.head?_takeWhile, ← List.head?_takeWhile]
      exact congrArg List.head? hpart
    simp only [Option.filter_eq_some_iff, ne_eq, decide_eq_true_eq] at hhead
    obtain ⟨⟨hfirst, hhash⟩, hquery⟩ := hhead
    have hends := List.head?_dropWhile_not (!endsAuthority ·) text
    rw [hfirst] at hends
    have hslash : isSlash c = true := by
      simpa [endsAuthority, hhash, hquery] using hends
    rw [resolvePath, if_pos hslash]
    rfl

end Whatwg
