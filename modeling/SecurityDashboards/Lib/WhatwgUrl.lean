import Mathlib.Data.List.DropRight

/-!
# Where a URL string leads

The part of the WHATWG URL parser that decides on the scheme and the host, for a string that is
resolved against the URL of an `http` or `https` page. What follows the slashes of a host is left to
a parameter.
-/

namespace Whatwg

/-- A C0 control character or a space. -/
def isControlOrSpace (c : Char) : Bool := c.toNat ≤ 32

def isTabOrNewline (c : Char) : Bool := c = '\t' || c = '\n' || c = '\r'

/-- The start of the parser: control characters and spaces at both ends are removed, and tabs and
newlines everywhere. -/
def clean (url : List Char) : List Char :=
  ((url.dropWhile isControlOrSpace).rdropWhile isControlOrSpace).filter (!isTabOrNewline ·)

def isSchemeChar (c : Char) : Bool := c.isAlphanum || c = '+' || c = '-' || c = '.'

/-- The "scheme start" and the "scheme" state: a scheme and what follows its colon. -/
def scheme (input : List Char) : Option (String × List Char) :=
  match input with
  | [] => none
  | c :: _ =>
    if c.isAlpha then
      match input.dropWhile isSchemeChar with
      | ':' :: rest => some (String.ofList ((input.takeWhile isSchemeChar).map Char.toLower), rest)
      | _ => none
    else none

structure Origin where
  scheme : String
  host : String
  port : Option ℕ
deriving DecidableEq

/-- In the URL of a page a backslash counts as a slash. -/
def isSlash (c : Char) : Bool := c = '/' || c = '\\'

def specialSchemes : List String := ["ftp", "http", "https", "ws", "wss"]

variable (authority : String → List Char → Option Origin) (base : Origin)

/-- The "relative" and the "relative slash" state. -/
def relativeOrigin (input : List Char) : Option Origin :=
  match input with
  | c :: d :: rest =>
    if isSlash c && isSlash d then authority base.scheme (rest.dropWhile isSlash) else some base
  | _ => some base

/-- The origin of the URL. `authority` is what the parser makes of a special scheme and the text
after its slashes; URLs of other schemes have no origin to share. -/
def originOf (url : List Char) : Option Origin :=
  let input := clean url
  match scheme input with
  | none => relativeOrigin authority base input
  | some (s, rest) =>
    if specialSchemes.contains s then
      if s = base.scheme && !(['/', '/'].isPrefixOf rest) then relativeOrigin authority base rest
      else authority s (rest.dropWhile isSlash)
    else none

/-! ## URLs that stay -/

variable {authority base}

/-- Nothing before a character that is no space is lost at the end. -/
theorem rdropWhile_cons {p : Char → Bool} {c : Char} (hc : p c = false) (l : List Char) :
    (c :: l).rdropWhile p = c :: l.rdropWhile p := by
  induction l using List.reverseRecOn with
  | nil => simp [List.rdropWhile, hc]
  | append_singleton l d ih =>
    rw [← List.cons_append]
    by_cases hd : p d = true
    · rw [List.rdropWhile_concat_pos _ _ _ hd, List.rdropWhile_concat_pos _ _ _ hd, ih]
    · rw [List.rdropWhile_concat_neg _ _ _ hd, List.rdropWhile_concat_neg _ _ _ hd,
        List.cons_append]

theorem not_tabOrNewline {c : Char} (h : isControlOrSpace c = false) : isTabOrNewline c = false := by
  by_contra hc
  have hspace : isControlOrSpace c = true := by
    simp only [isTabOrNewline, Bool.not_eq_false, Bool.or_eq_true, decide_eq_true_eq] at hc
    rcases hc with (rfl | rfl) | rfl <;> rfl
  rw [h] at hspace
  cases hspace

theorem clean_cons {c : Char} (hc : isControlOrSpace c = false) (l : List Char) :
    clean (c :: l) = c :: (l.rdropWhile isControlOrSpace).filter (!isTabOrNewline ·) := by
  have hdrop : (c :: l).dropWhile isControlOrSpace = c :: l :=
    List.dropWhile_cons_of_neg (by simp [hc])
  rw [clean, hdrop, rdropWhile_cons hc, List.filter_cons_of_pos (by simp [not_tabOrNewline hc])]

theorem clean_cons_cons {c d : Char} (hc : isControlOrSpace c = false)
    (hd : isControlOrSpace d = false) (l : List Char) :
    ∃ rest, clean (c :: d :: l) = c :: d :: rest := by
  rw [clean_cons hc, rdropWhile_cons hd, List.filter_cons_of_pos (by simp [not_tabOrNewline hd])]
  exact ⟨_, rfl⟩

/-- The URL has no scheme, and is not relative to the scheme alone. -/
structure Stays (url : List Char) : Prop where
  noScheme : scheme (clean url) = none
  noHost : ∀ c d rest, clean url = c :: d :: rest → (isSlash c && isSlash d) = false

theorem originOf_of_stays {url : List Char} (h : Stays url) :
    originOf authority base url = some base := by
  unfold originOf
  dsimp only
  rw [h.noScheme]
  dsimp only
  unfold relativeOrigin
  split
  · rename_i c d rest heq
    rw [h.noHost c d rest heq]
    rfl
  · rfl

theorem scheme_of_not_alpha {c : Char} (hc : c.isAlpha = false) (l : List Char) :
    scheme (c :: l) = none := by
  simp [scheme, hc]

/-- A query or a fragment alone stays. -/
theorem stays_of_not_slash {c : Char} (hspace : isControlOrSpace c = false)
    (hslash : isSlash c = false) (halpha : c.isAlpha = false) (l : List Char) :
    Stays (c :: l) where
  noScheme := by rw [clean_cons hspace, scheme_of_not_alpha halpha]
  noHost c' d rest h := by
    rw [clean_cons hspace] at h
    injection h with hc
    rw [← hc, hslash, Bool.false_and]

/-- A path stays if its second character is no slash and is not removed. -/
theorem stays_of_path {d : Char} (hspace : isControlOrSpace d = false) (hslash : isSlash d = false)
    (l : List Char) : Stays ('/' :: d :: l) := by
  obtain ⟨rest, hclean⟩ := clean_cons_cons (c := '/') (by decide) hspace l
  refine ⟨?_, fun c' d' rest' h => ?_⟩
  · rw [hclean, scheme_of_not_alpha (by decide)]
  · rw [hclean] at h
    injection h with _ h
    injection h with hd
    rw [← hd, hslash, Bool.and_false]

theorem stays_root : Stays ['/'] where
  noScheme := by decide
  noHost c d rest h := by
    have hclean : clean ['/'] = ['/'] := by decide
    rw [hclean] at h
    cases h

end Whatwg
