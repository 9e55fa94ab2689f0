import SecurityDashboards.CopiedTexts
import Mathlib.Data.List.TakeWhile

/-!
# Proofs: the URL of an iframe

The regular expression finds the same place again if only what follows this place is changed: the
`src` of a tag that it passed over earlier is still behind the end of that tag.
-/

namespace SecurityDashboards

/-! ## Matching a start -/

/-- The text is the lower-case pattern, in some case. -/
def IsCaseOf (pattern text : List Char) : Prop := text.map Char.toLower = pattern

theorem IsCaseOf.length {pattern text : List Char} (h : IsCaseOf pattern text) :
    text.length = pattern.length := by
  rw [← h, List.length_map]

theorem startsWithIgnoreCase_iff {pattern text : List Char} :
    startsWithIgnoreCase pattern text = true ↔
      ∃ start rest, text = start ++ rest ∧ IsCaseOf pattern start := by
  rw [startsWithIgnoreCase, List.isPrefixOf_iff_prefix]
  constructor
  · rintro ⟨rest, hrest⟩
    obtain ⟨start, rest', rfl, hstart, -⟩ := List.map_eq_append_iff.mp hrest.symm
    exact ⟨start, rest', rfl, hstart⟩
  · rintro ⟨start, rest, rfl, rfl⟩
    rw [List.map_append]
    exact List.prefix_append _ _

theorem startsWithIgnoreCase_append {pattern start : List Char}
    (h : pattern.length ≤ start.length) (rest : List Char) :
    startsWithIgnoreCase pattern (start ++ rest) = startsWithIgnoreCase pattern start := by
  rw [startsWithIgnoreCase, startsWithIgnoreCase, Bool.eq_iff_iff, List.isPrefixOf_iff_prefix,
    List.isPrefixOf_iff_prefix, List.map_append]
  constructor
  · intro hprefix
    exact List.prefix_of_prefix_length_le hprefix (List.prefix_append _ _) (by simpa using h)
  · intro hprefix
    exact hprefix.trans (List.prefix_append _ _)

theorem take_of_isCaseOf {pattern start : List Char} (h : IsCaseOf pattern start)
    (rest : List Char) : (start ++ rest).take pattern.length = start := by
  rw [← h.length, List.take_left]

theorem drop_of_isCaseOf {pattern start : List Char} (h : IsCaseOf pattern start)
    (rest : List Char) : (start ++ rest).drop pattern.length = rest := by
  rw [← h.length, List.drop_left]

/-- A character before the small letters is in no other case. -/
theorem eq_of_toLower_eq {c d : Char} (h : c.toLower = d) (hd : d.toNat < 97) : c = d := by
  unfold Char.toLower at h
  split at h
  · next hcase =>
    -- A capital letter becomes a small one.
    have hval : (c.val + ('a'.val - 'A'.val)).toNat = d.toNat := congrArg Char.toNat h
    have hlow : 65 ≤ c.val.toNat := UInt32.le_iff_toNat_le.mp hcase.1
    have hhigh : c.val.toNat ≤ 90 := UInt32.le_iff_toNat_le.mp hcase.2
    have hshift : ('a'.val - 'A'.val).toNat = 32 := rfl
    rw [UInt32.toNat_add, hshift] at hval
    omega
  · exact h

/-- `src="` letter by letter. -/
theorem isCaseOf_srcAttribute {src : List Char} (h : IsCaseOf srcAttribute src) :
    ∃ s r c e, src = [s, r, c, e, '"'] ∧ s.toLower = 's' ∧ r.toLower = 'r' ∧ c.toLower = 'c' ∧
      e.toLower = '=' := by
  have hletters : src.map Char.toLower = ['s', 'r', 'c', '=', '"'] := h
  obtain ⟨s, rest, rfl, hs, hrest⟩ := List.map_eq_cons_iff.mp hletters
  obtain ⟨r, rest, rfl, hr, hrest⟩ := List.map_eq_cons_iff.mp hrest
  obtain ⟨c, rest, rfl, hc, hrest⟩ := List.map_eq_cons_iff.mp hrest
  obtain ⟨e, rest, rfl, he, hrest⟩ := List.map_eq_cons_iff.mp hrest
  obtain ⟨q, rest, rfl, hq, hrest⟩ := List.map_eq_cons_iff.mp hrest
  rw [eq_of_toLower_eq hq (by decide), List.map_eq_nil_iff.mp hrest]
  exact ⟨s, r, c, e, rfl, hs, hr, hc, he⟩

/-! ## A match of `src="([^"]*)"` -/

/-- The parts of a match after `src="`. -/
def srcMatch (src rest : List Char) : Found where
  before := src
  url := rest.takeWhile (· ≠ '"')
  after := rest.dropWhile (· ≠ '"')

theorem srcHere_append {src rest : List Char} (hsrc : IsCaseOf srcAttribute src)
    (hquote : '"' ∈ rest) : srcHere (src ++ rest) = some (srcMatch src rest) := by
  have hstarts : startsWithIgnoreCase srcAttribute (src ++ rest) = true :=
    startsWithIgnoreCase_iff.mpr ⟨src, rest, rfl, hsrc⟩
  rw [srcHere, take_of_isCaseOf hsrc, drop_of_isCaseOf hsrc, hstarts, decide_eq_true hquote]
  rfl

theorem srcHere_eq_some {text : List Char} {found : Found} (h : srcHere text = some found) :
    ∃ src rest, text = src ++ rest ∧ IsCaseOf srcAttribute src ∧ '"' ∈ rest ∧
      found = srcMatch src rest := by
  unfold srcHere at h
  split at h
  · next hmatch =>
    obtain ⟨hstarts, hquote⟩ := Bool.and_eq_true_iff.mp hmatch
    obtain ⟨src, rest, rfl, hsrc⟩ := startsWithIgnoreCase_iff.mp hstarts
    rw [drop_of_isCaseOf hsrc] at hquote
    have hsome := srcHere_append hsrc (of_decide_eq_true hquote)
    unfold srcHere at hsome
    rw [if_pos hmatch] at hsome
    exact ⟨src, rest, rfl, hsrc, of_decide_eq_true hquote,
      Option.some.inj (h.symm.trans hsome)⟩
  · cases h

theorem srcHere_of_other {c : Char} (hc : c.toLower ≠ 's') (rest : List Char) :
    srcHere (c :: rest) = none := by
  cases h : srcHere (c :: rest) with
  | none => rfl
  | some found =>
    obtain ⟨src, rest', htext, hsrc, -⟩ := srcHere_eq_some h
    obtain ⟨s, r, d, e, rfl, hs, -⟩ := isCaseOf_srcAttribute hsrc
    rw [(List.cons.inj htext).1] at hc
    exact absurd hs hc

theorem lastSrc_of_other {c : Char} (htag : c ≠ '>') (hc : c.toLower ≠ 's') (rest : List Char) :
    lastSrc (c :: rest) = (lastSrc rest).map (Found.behind [c]) := by
  rw [lastSrc, if_neg htag, srcHere_of_other hc, Option.or_none]

/-- What is found if the content of a `src` starts with the text: a later `src` before the tag ends,
or the text up to the quotation mark. -/
def contentOf (text : List Char) : List Char :=
  match lastSrc text with
  | some found => found.url
  | none => text.takeWhile (· ≠ '"')

/-- After `src="` the content is found: the later match if there is one. -/
theorem lastSrc_srcAttribute {src : List Char} (hsrc : IsCaseOf srcAttribute src) {rest : List Char}
    (hquote : '"' ∈ rest) :
    ∃ found, lastSrc (src ++ rest) = some found ∧ found.url = contentOf rest := by
  have hhere := srcHere_append hsrc hquote
  obtain ⟨s, r, c, e, rfl, hs, hr, hc, he⟩ := isCaseOf_srcAttribute hsrc
  have hother : ∀ {d d' : Char}, d.toLower = d' → d' ∉ ['>', 's'] → d ≠ '>' ∧ d.toLower ≠ 's' := by
    rintro d d' rfl hd
    simp only [List.mem_cons, List.not_mem_nil, or_false, not_or] at hd
    refine ⟨?_, hd.2⟩
    rintro rfl
    exact hd.1 rfl
  have hquoteChar : ('"' : Char).toLower = '"' := rfl
  obtain ⟨hr1, hr2⟩ := hother hr (by decide)
  obtain ⟨hc1, hc2⟩ := hother hc (by decide)
  obtain ⟨he1, he2⟩ := hother he (by decide)
  have hs1 : s ≠ '>' := by
    rintro rfl
    exact absurd hs (by decide)
  simp only [List.cons_append, List.nil_append] at hhere ⊢
  rw [lastSrc, if_neg hs1, lastSrc_of_other hr1 hr2, lastSrc_of_other hc1 hc2,
    lastSrc_of_other he1 he2, lastSrc_of_other (by decide) (by decide), hhere]
  unfold contentOf
  cases lastSrc rest with
  | none => exact ⟨_, rfl, rfl⟩
  | some found => exact ⟨_, rfl, rfl⟩

/-- Whether `src="` is here is seen in a beginning that has it and a quotation mark. -/
theorem srcHere_none_replaced {start : List Char} (hlength : srcAttribute.length ≤ start.length)
    (hquote : '"' ∈ start.drop srcAttribute.length) {rest : List Char}
    (h : srcHere (start ++ rest) = none) (rest' : List Char) : srcHere (start ++ rest') = none := by
  have hdrop : ∀ more : List Char, '"' ∈ (start ++ more).drop srcAttribute.length := by
    intro more
    rw [List.drop_append_of_le_length hlength]
    exact List.mem_append_left _ hquote
  cases hstarts : startsWithIgnoreCase srcAttribute start with
  | false =>
    rw [srcHere, startsWithIgnoreCase_append hlength, hstarts, Bool.false_and,
      if_neg Bool.false_ne_true]
  | true =>
    rw [srcHere, startsWithIgnoreCase_append hlength, hstarts, decide_eq_true (hdrop rest)] at h
    cases h

/-- The text ends with `src="`. -/
def EndsInSrc (text : List Char) : Prop := ∃ start src, text = start ++ src ∧ IsCaseOf srcAttribute src

theorem EndsInSrc.cons {text : List Char} (h : EndsInSrc text) (c : Char) :
    EndsInSrc (c :: text) := by
  obtain ⟨start, src, rfl, hsrc⟩ := h
  exact ⟨c :: start, src, rfl, hsrc⟩

theorem EndsInSrc.prepend {text : List Char} (h : EndsInSrc text) (start : List Char) :
    EndsInSrc (start ++ text) := by
  obtain ⟨start', src, rfl, hsrc⟩ := h
  exact ⟨start ++ start', src, by simp, hsrc⟩

/-- What ends with `src="` ends with a quotation mark. -/
theorem EndsInSrc.quote {text : List Char} (h : EndsInSrc text) :
    ∃ start, text = start ++ ['"'] := by
  obtain ⟨start, src, rfl, hsrc⟩ := h
  obtain ⟨s, r, c, e, rfl, -⟩ := isCaseOf_srcAttribute hsrc
  exact ⟨start ++ [s, r, c, e], by simp⟩

/-- The quotation mark at the end stays in what is left of a longer text. -/
theorem EndsInSrc.quote_mem_drop {text : List Char} (h : EndsInSrc text) (c : Char) :
    srcAttribute.length ≤ (c :: text).length ∧ '"' ∈ (c :: text).drop srcAttribute.length := by
  obtain ⟨start, src, rfl, hsrc⟩ := h
  obtain ⟨s, r, d, e, rfl, -⟩ := isCaseOf_srcAttribute hsrc
  have hlength : srcAttribute.length ≤ (c :: (start ++ [s, r, d, e])).length := by
    simp [srcAttribute]
  have hsplit : c :: (start ++ [s, r, d, e, '"']) = (c :: (start ++ [s, r, d, e])) ++ ['"'] := by
    simp
  rw [hsplit, List.drop_append_of_le_length hlength]
  refine ⟨hlength.trans ?_, List.mem_append_right _ (List.mem_singleton_self _)⟩
  rw [List.length_append]
  exact Nat.le_add_right _ _

/-! ## The last `src` of a tag -/

/-- The parts of what is found. -/
structure IsFound (text : List Char) (found : Found) : Prop where
  text : text = found.text
  before : EndsInSrc found.before
  url : '"' ∉ found.url
  after : ∃ rest, found.after = '"' :: rest

theorem IsFound.behind {text : List Char} {found : Found} (h : IsFound text found)
    (start : List Char) : IsFound (start ++ text) (found.behind start) where
  text := by
    rw [h.text, Found.text, Found.text, Found.behind]
    simp
  before := h.before.prepend start
  url := h.url
  after := h.after

theorem isFound_srcMatch {src rest : List Char} (hsrc : IsCaseOf srcAttribute src)
    (hquote : '"' ∈ rest) : IsFound (src ++ rest) (srcMatch src rest) where
  text := by
    rw [Found.text, srcMatch, List.append_assoc, List.takeWhile_append_dropWhile]
  before := ⟨[], src, rfl, hsrc⟩
  url := by
    intro hmem
    simpa using List.mem_takeWhile_imp hmem
  after := by
    have hne : rest.dropWhile (· ≠ '"') ≠ [] := by
      intro hnil
      simpa using List.dropWhile_eq_nil_iff.mp hnil _ hquote
    obtain ⟨c, tail, htail⟩ := List.exists_cons_of_ne_nil hne
    have hc := List.head?_dropWhile_not (fun c => decide (c ≠ '"')) rest
    rw [htail] at hc
    have hquote : c = '"' := by simpa using hc
    exact ⟨tail, by rw [srcMatch, htail, hquote]⟩

theorem lastSrc_cons_eq_some {c : Char} {rest : List Char} {found : Found}
    (h : lastSrc (c :: rest) = some found) :
    c ≠ '>' ∧ ((∃ found', lastSrc rest = some found' ∧ found = found'.behind [c]) ∨
      (lastSrc rest = none ∧ srcHere (c :: rest) = some found)) := by
  rw [lastSrc] at h
  split at h
  · cases h
  · next hc =>
    refine ⟨hc, ?_⟩
    cases hrest : lastSrc rest with
    | none =>
      rw [hrest] at h
      exact Or.inr ⟨rfl, h⟩
    | some found' =>
      rw [hrest] at h
      exact Or.inl ⟨found', rfl, (Option.some.inj h).symm⟩

theorem isFound_of_lastSrc {text : List Char} {found : Found} (h : lastSrc text = some found) :
    IsFound text found := by
  induction text generalizing found with
  | nil => cases h
  | cons c rest ih =>
    obtain ⟨-, ⟨found', hrest, rfl⟩ | ⟨-, hhere⟩⟩ := lastSrc_cons_eq_some h
    · exact (ih hrest).behind [c]
    · obtain ⟨src, rest', htext, hsrc, hquote, rfl⟩ := srcHere_eq_some hhere
      rw [htext]
      exact isFound_srcMatch hsrc hquote

/-- In the place of what was found, the content of the new text is found. -/
theorem lastSrc_replaced {text : List Char} {found : Found} (h : lastSrc text = some found)
    {rest : List Char} (hquote : '"' ∈ rest) :
    ∃ found', lastSrc (found.before ++ rest) = some found' ∧
      found'.url = contentOf rest := by
  induction text generalizing found with
  | nil => cases h
  | cons c tail ih =>
    obtain ⟨hc, ⟨found', htail, rfl⟩ | ⟨-, hhere⟩⟩ := lastSrc_cons_eq_some h
    · obtain ⟨found'', hfound, hurl⟩ := ih htail
      refine ⟨found''.behind [c], ?_, hurl⟩
      change lastSrc (c :: (found'.before ++ rest)) = _
      rw [lastSrc, if_neg hc, hfound]
      rfl
    · obtain ⟨src, rest', -, hsrc, -, rfl⟩ := srcHere_eq_some hhere
      exact lastSrc_srcAttribute hsrc hquote

/-- If nothing is found although a `src="` follows with a quotation mark behind it, the tag ends
before it. So nothing is found with another text behind it. -/
theorem lastSrc_none_replaced {start : List Char} (hstart : EndsInSrc start) {rest : List Char}
    (hquote : '"' ∈ rest) (h : lastSrc (start ++ rest) = none) (rest' : List Char) :
    lastSrc (start ++ rest') = none := by
  induction start with
  | nil =>
    obtain ⟨first, hfirst⟩ := hstart.quote
    simp at hfirst
  | cons c start ih =>
    rw [List.cons_append, lastSrc] at h ⊢
    by_cases hc : c = '>'
    · rw [if_pos hc]
    · rw [if_neg hc] at h ⊢
      obtain ⟨hrest, hhere⟩ := Option.or_eq_none_iff.mp h
      rw [Option.map_eq_none_iff] at hrest
      obtain ⟨first, src, hsplit, hsrc⟩ := hstart
      cases first with
      | nil =>
        -- Here is the `src="` itself.
        rw [← List.cons_append, hsplit, List.nil_append, srcHere_append hsrc hquote] at hhere
        cases hhere
      | cons d first =>
        obtain ⟨-, htail⟩ := List.cons.inj hsplit
        have hends : EndsInSrc start := ⟨first, src, htail, hsrc⟩
        rw [ih hends hrest, Option.map_none, Option.none_or]
        obtain ⟨hlength, hmem⟩ := hends.quote_mem_drop c
        exact srcHere_none_replaced hlength hmem hhere rest'

/-! ## The first iframe -/

/-- The text has a tag's name and then ends with `src="`. -/
def EndsInTag (text : List Char) : Prop :=
  ∃ start last, text = start ++ last ∧ iframeTag.length ≤ start.length ∧ EndsInSrc last

theorem EndsInTag.prepend {text : List Char} (h : EndsInTag text) (start : List Char) :
    EndsInTag (start ++ text) := by
  obtain ⟨start', last, rfl, hlength, hlast⟩ := h
  refine ⟨start ++ start', last, by simp, ?_, hlast⟩
  rw [List.length_append]
  exact hlength.trans (Nat.le_add_left _ _)

theorem EndsInTag.le_length {text : List Char} (h : EndsInTag text) :
    iframeTag.length ≤ text.length := by
  obtain ⟨start, last, rfl, hlength, -⟩ := h
  rw [List.length_append]
  exact hlength.trans (Nat.le_add_right _ _)

/-- Behind the name, the text still ends with `src="`. -/
theorem EndsInTag.drop {text : List Char} (h : EndsInTag text) :
    EndsInSrc (text.drop iframeTag.length) := by
  obtain ⟨start, last, rfl, hlength, hlast⟩ := h
  rw [List.drop_append_of_le_length hlength]
  exact hlast.prepend _

theorem iframeHere_append {tag text : List Char} (htag : IsCaseOf iframeTag tag) :
    iframeHere (tag ++ text) = (lastSrc text).map (Found.behind tag) := by
  have hstarts : startsWithIgnoreCase iframeTag (tag ++ text) = true :=
    startsWithIgnoreCase_iff.mpr ⟨tag, text, rfl, htag⟩
  rw [iframeHere, if_pos hstarts, take_of_isCaseOf htag, drop_of_isCaseOf htag]

theorem iframeHere_eq_some {text : List Char} {found : Found} (h : iframeHere text = some found) :
    ∃ tag text' found', text = tag ++ text' ∧ IsCaseOf iframeTag tag ∧
      lastSrc text' = some found' ∧ found = found'.behind tag := by
  unfold iframeHere at h
  split at h
  · next hstarts =>
    obtain ⟨tag, text', rfl, htag⟩ := startsWithIgnoreCase_iff.mp hstarts
    rw [take_of_isCaseOf htag, drop_of_isCaseOf htag] at h
    obtain ⟨found', hfound, hbehind⟩ := Option.map_eq_some_iff.mp h
    exact ⟨tag, text', found', rfl, htag, hfound, hbehind.symm⟩
  · cases h

/-- If nothing is found here although a tag follows, nothing is found with another text behind. -/
theorem iframeHere_none_replaced {start : List Char} (hstart : EndsInTag start) {rest : List Char}
    (hquote : '"' ∈ rest) (h : iframeHere (start ++ rest) = none) (rest' : List Char) :
    iframeHere (start ++ rest') = none := by
  have hlength := hstart.le_length
  unfold iframeHere at h ⊢
  rw [startsWithIgnoreCase_append hlength, List.drop_append_of_le_length hlength] at h ⊢
  split at h
  · rw [Option.map_eq_none_iff] at h
    rw [lastSrc_none_replaced hstart.drop hquote h rest']
    split
    · rfl
    · rfl
  · next hno => rw [if_neg hno]

theorem execIframe_cons_eq_some {c : Char} {rest : List Char} {found : Found}
    (h : execIframe (c :: rest) = some found) :
    iframeHere (c :: rest) = some found ∨ (iframeHere (c :: rest) = none ∧
      ∃ found', execIframe rest = some found' ∧ found = found'.behind [c]) := by
  rw [execIframe] at h
  cases hhere : iframeHere (c :: rest) with
  | some found' =>
    rw [hhere] at h
    exact Or.inl h
  | none =>
    rw [hhere] at h
    obtain ⟨found', hfound, hbehind⟩ := Option.map_eq_some_iff.mp h
    exact Or.inr ⟨rfl, found', hfound, hbehind.symm⟩

/-- What has the name of a tag at its start starts with `<`. -/
theorem cons_of_startsWith_iframe {text : List Char}
    (h : startsWithIgnoreCase iframeTag text = true) : ∃ rest, text = '<' :: rest := by
  obtain ⟨start, rest, rfl, hstart⟩ := startsWithIgnoreCase_iff.mp h
  have hletters : start.map Char.toLower = '<' :: "iframe".toList := hstart
  obtain ⟨c, start', rfl, hc, -⟩ := List.map_eq_cons_iff.mp hletters
  rw [eq_of_toLower_eq hc (by decide)]
  exact ⟨start' ++ rest, rfl⟩

/-- What the regular expression finds, behind a tag's name. -/
theorem isFound_of_execIframe {text : List Char} {found : Found} (h : execIframe text = some found) :
    IsFound text found ∧ EndsInTag found.before := by
  induction text generalizing found with
  | nil => cases h
  | cons c rest ih =>
    rcases execIframe_cons_eq_some h with hhere | ⟨-, found', hrest, rfl⟩
    · obtain ⟨tag, text', found', htext, htag, hfound, rfl⟩ := iframeHere_eq_some hhere
      have hparts := isFound_of_lastSrc hfound
      rw [htext]
      exact ⟨hparts.behind tag, tag, found'.before, rfl, htag.length.ge, hparts.before⟩
    · obtain ⟨hparts, htag⟩ := ih hrest
      exact ⟨hparts.behind [c], htag.prepend [c]⟩

theorem execIframe_of_iframeHere {text : List Char} {found : Found}
    (h : iframeHere text = some found) : execIframe text = some found := by
  cases text with
  | nil => cases h
  | cons c rest => rw [execIframe, h, Option.some_or]

/-- In the place of what was found, the content of the new text is found. -/
theorem execIframe_replaced {text : List Char} {found : Found} (h : execIframe text = some found)
    {rest : List Char} (hquote : '"' ∈ rest) :
    ∃ found', execIframe (found.before ++ rest) = some found' ∧ found'.url = contentOf rest := by
  induction text generalizing found with
  | nil => cases h
  | cons c tail ih =>
    rcases execIframe_cons_eq_some h with hhere | ⟨hnone, found', htail, rfl⟩
    · obtain ⟨tag, text', found', -, htag, hfound, rfl⟩ := iframeHere_eq_some hhere
      obtain ⟨found'', hreplaced, hurl⟩ := lastSrc_replaced hfound hquote
      refine ⟨found''.behind tag, ?_, hurl⟩
      rw [Found.behind, List.append_assoc]
      refine execIframe_of_iframeHere ?_
      rw [iframeHere_append htag, hreplaced]
      rfl
    · obtain ⟨found'', hreplaced, hurl⟩ := ih htail
      obtain ⟨hparts, htag⟩ := isFound_of_execIframe htail
      refine ⟨found''.behind [c], ?_, hurl⟩
      -- The earlier place still has no match: its tag ends before the `src`.
      have hmem : '"' ∈ found'.url ++ found'.after := by
        obtain ⟨last, hlast⟩ := hparts.after
        rw [hlast]
        exact List.mem_append_right _ List.mem_cons_self
      rw [hparts.text, Found.text, ← List.singleton_append, List.append_assoc, ← List.append_assoc]
        at hnone
      have hstill := iframeHere_none_replaced (htag.prepend [c]) hmem hnone rest
      change execIframe (c :: (found'.before ++ rest)) = _
      rw [execIframe, hreplaced]
      rw [List.append_assoc, List.singleton_append] at hstill
      rw [hstill]
      rfl

end SecurityDashboards
