import SecurityDashboards.Proofs.CopiedFramesProofs
import SecurityDashboards.Proofs.CopiedLinksProofs

/-!
# Proofs: the text that is copied

A URL is replaced where it first occurs, by a text in which some patterns stand for other texts. Only
the URL is rewritten exactly if it is found where it first occurs and its serialisation has none of
the patterns.
-/

namespace SecurityDashboards

/-! ## Where the URL is -/

theorem urlPart_cases (text : List Char) :
    urlPart text = { before := [], url := text, after := [] } ∨
      (startsWithIgnoreCase iframeTag text = true ∧ execIframe text = some (urlPart text)) := by
  unfold urlPart
  split
  · next hstarts =>
    cases h : execIframe text with
    | none => exact Or.inl rfl
    | some found => exact Or.inr ⟨hstarts, rfl⟩
  · exact Or.inl rfl

theorem urlPart_of_other {c : Char} (hc : c ≠ '<') (rest : List Char) :
    urlPart (c :: rest) = { before := [], url := c :: rest, after := [] } := by
  rcases urlPart_cases (c :: rest) with h | ⟨hstarts, -⟩
  · exact h
  · obtain ⟨rest', hrest⟩ := cons_of_startsWith_iframe hstarts
    exact absurd (List.cons.inj hrest).1 hc

/-- In an iframe, the content of the new text is found in the place of the URL. -/
theorem urlPart_replaced {text : List Char} (hstarts : startsWithIgnoreCase iframeTag text = true)
    (hfound : execIframe text = some (urlPart text)) {rest : List Char} (hquote : '"' ∈ rest) :
    (urlPart ((urlPart text).before ++ rest)).url = contentOf rest := by
  obtain ⟨hparts, htag⟩ := isFound_of_execIframe hfound
  obtain ⟨found, hreplaced, hurl⟩ := execIframe_replaced hfound hquote
  have hstill : startsWithIgnoreCase iframeTag ((urlPart text).before ++ rest) = true := by
    rw [hparts.text, Found.text, List.append_assoc, startsWithIgnoreCase_append htag.le_length]
      at hstarts
    rw [startsWithIgnoreCase_append htag.le_length, hstarts]
  rw [← hurl, urlPart, if_pos hstill, hreplaced]
  rfl

/-- The parts of a copied text: all of it is the URL, or it stands between quotation marks. -/
structure IsPart (text : List Char) (found : Found) : Prop where
  text : text = found.text
  quotes : (found.before = [] ∧ found.after = []) ∨
    ('"' ∉ found.url ∧ (∃ start, found.before = start ++ ['"']) ∧ ∃ rest, found.after = '"' :: rest)
  before : Js.Foreign found.before
  after : Js.Foreign found.after

theorem isPart_urlPart (text : List Char) : IsPart text (urlPart text) := by
  rcases urlPart_cases text with h | ⟨hstarts, hfound⟩
  · rw [h]
    exact ⟨by simp [Found.text], Or.inl ⟨rfl, rfl⟩, Js.foreign_nil, Js.foreign_nil⟩
  · obtain ⟨hparts, htag⟩ := isFound_of_execIframe hfound
    obtain ⟨start, hquote⟩ := hparts.before.quote
    obtain ⟨last, hlast⟩ := hparts.after
    refine ⟨hparts.text, Or.inr ⟨hparts.url, ⟨start, hquote⟩, last, hlast⟩, ?_, ?_⟩
    · obtain ⟨rest, hrest⟩ := cons_of_startsWith_iframe hstarts
      have htext := hrest.symm.trans hparts.text
      rw [Found.text] at htext
      cases hbefore : (urlPart text).before with
      | nil => exact Js.foreign_nil
      | cons c before =>
        rw [hbefore] at htext
        rw [← (List.cons.inj htext).1]
        exact Js.foreign_cons (by decide) before
    · rw [hlast]
      exact Js.foreign_cons (by decide) last

namespace SharePlatform

variable {platform : SharePlatform} {text tenant : String} {parsed : ShareUrl}

/-! ## The new text -/

/-- The query that is written. -/
def newQuery (parsed : ShareUrl) (tenant : String) : List Char :=
  '?' :: UrlEncoding.formSerialize (parsed.params ++ [("security_tenant", tenant)])

theorem withTenant_toList (parsed : ShareUrl) (tenant : String) :
    (parsed.withTenant tenant).toList = parsed.base ++ (newQuery parsed tenant ++ parsed.hash) := by
  rw [ShareUrl.withTenant, String.toList_ofList, newQuery, List.append_assoc]

theorem not_mem_newQuery (parsed : ShareUrl) (tenant : String) {c : Char}
    (hc : c ∈ ['$', '"', '#']) : c ∉ newQuery parsed tenant := by
  have hcodes : ∀ c ∈ ['$', '"', '#'], c ≠ '?' ∧ c ≠ '%' ∧ c ≠ '+' ∧ c ≠ '=' ∧ c ≠ '&' ∧
      UrlEncoding.isFormSafe c = false := by decide
  obtain ⟨hquestion, hpercent, hplus, hequals, hand, hcoded⟩ := hcodes c hc
  rw [newQuery, List.mem_cons, not_or]
  exact ⟨hquestion, UrlEncoding.not_mem_formSerialize hpercent hplus hequals hand hcoded⟩

theorem foreign_hash (parsed : ShareUrl) : Js.Foreign parsed.hash := by
  rcases parsed.hash_shape with h | ⟨rest, h⟩
  · rw [h]
    exact Js.foreign_nil
  · rw [h]
    exact Js.foreign_cons (by decide) rest

/-- The patterns of the new URL are in its path part or in its hash. -/
theorem hasPattern_withTenant_iff (parsed : ShareUrl) (tenant : String) :
    Js.HasPattern (parsed.withTenant tenant).toList ↔
      Js.HasPattern parsed.base ∨ Js.HasPattern parsed.hash := by
  have hquery : ¬Js.HasPattern (newQuery parsed tenant) :=
    Js.not_hasPattern_of_not_mem (not_mem_newQuery parsed tenant (by simp))
  have hforeign : Js.Foreign (newQuery parsed tenant ++ parsed.hash) :=
    Js.foreign_cons (by decide) _
  rw [withTenant_toList, Js.hasPattern_append_iff _ hforeign,
    Js.hasPattern_append_iff _ (foreign_hash parsed), or_iff_right hquery]

/-- A text is left alone exactly if what is found in it is no URL or has a tenant. -/
theorem copied_eq_none_iff :
    platform.copied text tenant = none ↔
      ∀ url, platform.parseUrl (String.ofList (urlPart text.toList).url) = some url →
        (url.params.lookup "security_tenant").isSome = true := by
  rw [copied, processCopyEvent, if_pos rfl, updateClipboard]
  cases platform.parseUrl (String.ofList (urlPart text.toList).url) with
  | none => simp
  | some url =>
    cases (url.params.lookup "security_tenant").isSome with
    | false => simp
    | true => simp

theorem takeWhile_of_quote {l : List Char} (h : '"' ∈ l) (rest : List Char) :
    (l ++ rest).takeWhile (· ≠ '"') = l.takeWhile (· ≠ '"') := by
  rw [List.takeWhile_append, if_neg]
  intro hlength
  have hall := (List.takeWhile_prefix _).eq_of_length hlength
  simpa using List.takeWhile_eq_self_iff.mp hall '"' h

theorem takeWhile_of_no_quote {l : List Char} (h : '"' ∉ l) (rest : List Char) :
    (l ++ '"' :: rest).takeWhile (· ≠ '"') = l := by
  have hall : ∀ c ∈ l, decide (c ≠ '"') = true := by
    intro c hc
    rw [decide_eq_true_iff]
    rintro rfl
    exact h hc
  rw [List.takeWhile_append_of_pos hall, List.takeWhile_cons_of_neg (by simp), List.append_nil]

section Documented

variable (hdoc : platform.UrlsDocumented)

include hdoc

theorem foreign_url {url : String} (hparse : platform.parseUrl url = some parsed) :
    Js.Foreign url.toList := by
  obtain ⟨c, rest, hurl, hc⟩ := hdoc.starts url parsed hparse
  rw [hurl]
  refine Js.foreign_cons (fun hmem => ?_) rest
  have hcodes : ∀ c ∈ Js.patternChars, c.isAlpha = false ∧ Whatwg.isControlOrSpace c = false := by
    decide
  obtain ⟨halpha, hspace⟩ := hcodes c hmem
  rw [halpha, hspace] at hc
  rcases hc with h | h <;> cases h

theorem url_ne_nil {url : String} (hparse : platform.parseUrl url = some parsed) :
    url.toList ≠ [] := by
  obtain ⟨c, rest, hurl, -⟩ := hdoc.starts url parsed hparse
  rw [hurl]
  exact List.cons_ne_nil _ _

/-- A new URL that is read again names a tenant, also without the beginning of its path part. -/
theorem params_of_rest {base : List Char} (hbase : ∀ c ∈ base, c ∈ parsed.base) {again : ShareUrl}
    (hagain : platform.parseUrl
      (String.ofList (base ++ (newQuery parsed tenant ++ parsed.hash))) = some again) :
    again.params = parsed.params ++ [("security_tenant", tenant)] := by
  refine hdoc.readsBack base _ parsed.hash again (fun c hc => parsed.base_plain c (hbase c hc))
    parsed.hash_shape ?_
  rwa [newQuery, ← List.append_assoc] at hagain

/-- The URL is not the end of its replacement. -/
theorem not_end_of_withTenant {url : List Char}
    (hparse : platform.parseUrl (String.ofList url) = some parsed) (tenant : String)
    (hurl : '"' ∉ url) (before : List Char) :
    '"' :: (parsed.withTenant tenant).toList ≠ before ++ '"' :: url := by
  intro h
  have hrest : '"' ∉ newQuery parsed tenant ++ parsed.hash := by
    rw [List.mem_append, not_or]
    exact ⟨not_mem_newQuery parsed tenant (by simp), hdoc.fragment _ parsed hparse⟩
  obtain ⟨start, base, hbase, hlast⟩ :=
    Js.exists_afterLast (List.mem_cons_self (a := '"') (l := parsed.base))
  have hsame : start ++ '"' :: (base ++ (newQuery parsed tenant ++ parsed.hash)) =
      before ++ '"' :: url := by
    calc start ++ '"' :: (base ++ (newQuery parsed tenant ++ parsed.hash))
        = (start ++ '"' :: base) ++ (newQuery parsed tenant ++ parsed.hash) := by simp
      _ = '"' :: (parsed.base ++ (newQuery parsed tenant ++ parsed.hash)) := by
          rw [← hbase, List.cons_append]
      _ = before ++ '"' :: url := by rw [← h, withTenant_toList]
  have hend : base ++ (newQuery parsed tenant ++ parsed.hash) = url := by
    refine Js.afterLast_unique ?_ hurl hsame
    rw [List.mem_append, not_or]
    exact ⟨hlast, hrest⟩
  have hmem : ∀ c ∈ base, c ∈ parsed.base := by
    intro c hc
    cases start with
    | nil => rwa [(List.cons.inj hbase).2]
    | cons d start =>
      rw [(List.cons.inj hbase).2]
      exact List.mem_append_right _ (List.mem_cons_of_mem _ hc)
  rw [← hend] at hparse
  have hlength := congrArg List.length (params_of_rest hdoc hmem hparse)
  simp at hlength

theorem copied_eq (hparse : platform.parseUrl (String.ofList (urlPart text.toList).url) = some parsed)
    (hnone : parsed.params.lookup "security_tenant" = none) :
    platform.copied text tenant = some (String.ofList (Js.replaceFrom (urlPart text.toList).url
      (parsed.withTenant tenant).toList [] text.toList)) := by
  have hne := url_ne_nil hdoc hparse
  have htext : truthyString (some text) = true := by
    rw [truthyString, bne_iff_ne]
    rintro rfl
    exact hne rfl
  rw [copied, processCopyEvent, if_pos rfl, updateClipboard, hparse, Option.bind_some, hnone,
    if_neg (by decide)]
  dsimp only
  rw [htext, if_pos rfl, Option.getD_some, Js.replaceString, String.toList_ofList]

/-- Only the URL is rewritten exactly if it is where it first occurs and has no patterns. -/
theorem copied_eq_rewritten_iff
    (hparse : platform.parseUrl (String.ofList (urlPart text.toList).url) = some parsed)
    (hnone : parsed.params.lookup "security_tenant" = none) :
    platform.copied text tenant = some (rewritten text parsed tenant) ↔
      Js.FirstAt (urlPart text.toList).url (urlPart text.toList).before text.toList ∧
        ¬Js.HasPattern parsed.base ∧ ¬Js.HasPattern parsed.hash := by
  have hpart := isPart_urlPart text.toList
  have hne := url_ne_nil hdoc hparse
  have hforeign := foreign_url hdoc hparse
  rw [String.toList_ofList] at hne hforeign
  have hquotes : (urlPart text.toList).before = [] ∨ ('"' ∉ (urlPart text.toList).url ∧
      ∃ start, (urlPart text.toList).before = start ++ ['"']) := by
    rcases hpart.quotes with ⟨hbefore, -⟩ | ⟨hurl, hbefore, -⟩
    · exact Or.inl hbefore
    · exact Or.inr ⟨hurl, hbefore⟩
  have hplace := Js.replaceFrom_eq_iff hne hforeign hpart.before hpart.after hquotes
    (not_end_of_withTenant hdoc hparse tenant)
  rw [copied_eq hdoc hparse hnone, Option.some_inj, rewritten, ← not_or,
    ← hasPattern_withTenant_iff parsed tenant]
  have htext : text.toList = (urlPart text.toList).before ++ (urlPart text.toList).url ++
      (urlPart text.toList).after := hpart.text
  rw [← htext] at hplace
  rw [← hplace, String.ofList_inj]

/-! ## The text is copied again -/

/-- A new URL names a tenant when it is read again. -/
theorem named_of_withTenant (hnone : parsed.params.lookup "security_tenant" = none)
    {again : ShareUrl}
    (hagain : platform.parseUrl (String.ofList (parsed.withTenant tenant).toList) = some again) :
    (again.params.lookup "security_tenant").isSome = true := by
  rw [withTenant_toList] at hagain
  rw [params_of_rest hdoc (fun _ hc => hc) hagain, lookup_link hnone tenant]
  rfl

/-- In an iframe, the new URL is found again or something else in its place. -/
theorem contentOf_withTenant {url : String} (hparse : platform.parseUrl url = some parsed)
    (tenant : String) (rest : List Char) :
    contentOf ((parsed.withTenant tenant).toList ++ '"' :: rest) =
      (otherContent parsed tenant ('"' :: rest)).getD (parsed.withTenant tenant).toList := by
  unfold contentOf otherContent
  cases lastSrc ((parsed.withTenant tenant).toList ++ '"' :: rest) with
  | some found => rfl
  | none =>
    dsimp only
    rw [withTenant_toList]
    split
    · next hmem =>
      rw [List.append_assoc, takeWhile_of_quote hmem]
      rfl
    · next hbase =>
      have hnot : '"' ∉ parsed.base ++ (newQuery parsed tenant ++ parsed.hash) := by
        rw [List.mem_append, List.mem_append, not_or, not_or]
        exact ⟨hbase, not_mem_newQuery parsed tenant (by simp), hdoc.fragment _ parsed hparse⟩
      rw [takeWhile_of_no_quote hnot]
      rfl

/-- The new text is left alone exactly if nothing else is found in it that is rewritten. -/
theorem copied_rewritten_iff
    (hparse : platform.parseUrl (String.ofList (urlPart text.toList).url) = some parsed)
    (hnone : parsed.params.lookup "security_tenant" = none) :
    platform.copied (rewritten text parsed tenant) tenant = none ↔
      ((urlPart text.toList).before ≠ [] → ∀ content url,
        otherContent parsed tenant (urlPart text.toList).after = some content →
          platform.parseUrl (String.ofList content) = some url →
            (url.params.lookup "security_tenant").isSome = true) := by
  rw [copied_eq_none_iff, rewritten, String.toList_ofList]
  rcases urlPart_cases text.toList with hwhole | ⟨hstarts, hfound⟩
  · rw [hwhole]
    dsimp only
    refine iff_of_true (fun again hagain => ?_) (fun hne => absurd rfl hne)
    obtain ⟨c, base, hbase, halpha⟩ := hdoc.scheme _ parsed hparse
    have hother : c ≠ '<' := by
      rintro rfl
      exact absurd halpha (by decide)
    rw [List.nil_append, List.append_nil, withTenant_toList, hbase, List.cons_append,
      urlPart_of_other hother, ← List.cons_append, ← hbase, ← withTenant_toList] at hagain
    exact named_of_withTenant hdoc hnone hagain
  · obtain ⟨hparts, htag⟩ := isFound_of_execIframe hfound
    obtain ⟨last, hlast⟩ := hparts.after
    have hne : (urlPart text.toList).before ≠ [] := by
      obtain ⟨start, hquote⟩ := hparts.before.quote
      rw [hquote]
      simp
    have hmem : '"' ∈ (parsed.withTenant tenant).toList ++ (urlPart text.toList).after := by
      rw [hlast]
      exact List.mem_append_right _ List.mem_cons_self
    rw [List.append_assoc, urlPart_replaced hstarts hfound hmem, hlast,
      contentOf_withTenant hdoc hparse]
    constructor
    · intro h _ content url hcontent hurl
      rw [hcontent] at h
      exact h url hurl
    · intro h url hurl
      cases hcontent : otherContent parsed tenant ('"' :: last) with
      | some content =>
        rw [hcontent] at hurl
        exact h hne content url hcontent hurl
      | none =>
        rw [hcontent] at hurl
        exact named_of_withTenant hdoc hnone hurl

end Documented

/-- A copied text gets the tenant in its URL and nothing else, once, exactly if it is
rewritable. -/
theorem rewritesUrl_iff (hdoc : platform.UrlsDocumented)
    (hparse : platform.parseUrl (String.ofList (urlPart text.toList).url) = some parsed)
    (hnone : parsed.params.lookup "security_tenant" = none) :
    platform.RewritesUrl text parsed tenant ↔ platform.Rewritable text parsed tenant := by
  rw [RewritesUrl, copied_eq_rewritten_iff hdoc hparse hnone, copied_rewritten_iff hdoc hparse hnone]
  constructor
  · rintro ⟨⟨hfirst, hbase, hhash⟩, hother⟩
    exact ⟨hfirst, hbase, hhash, hother⟩
  · rintro ⟨hfirst, hbase, hhash, hother⟩
    exact ⟨⟨hfirst, hbase, hhash⟩, hother⟩

end SharePlatform

namespace Sample

open UrlEncoding SharePlatform

/-! ### A parser of plain URLs -/

def urlParts (url : String) : ShareUrl := (parseUrl url).get rfl

theorem urlParts_base (url : String) : (urlParts url).base = beforeQuery url.toList := rfl

theorem urlParts_params (url : String) :
    (urlParts url).params = formParse (queryText url.toList) := rfl

theorem urlParts_hash (url : String) : (urlParts url).hash = fragmentText url.toList := rfl

def isPlainUrl (url : List Char) : Bool :=
  (url.head?.map Char.isAlpha).getD false && decide ('"' ∉ url)

/-- Texts that start with a letter and have no quotation mark count as URLs. -/
def textPlatform : SharePlatform :=
  { sharePlatform with
    parseUrl := fun url => if isPlainUrl url.toList then some (urlParts url) else none }

theorem textPlatform_parseUrl {url : String} {parsed : ShareUrl}
    (h : textPlatform.parseUrl url = some parsed) :
    isPlainUrl url.toList = true ∧ parsed = urlParts url := by
  unfold textPlatform at h
  dsimp only at h
  split at h
  · next hplain => exact ⟨hplain, (Option.some.inj h).symm⟩
  · cases h

theorem parseUrl_of_plain {url : String} (h : isPlainUrl url.toList = true) :
    textPlatform.parseUrl url = some (urlParts url) := if_pos h

theorem isPlainUrl_iff {url : List Char} :
    isPlainUrl url = true ↔ (∃ c rest, url = c :: rest ∧ c.isAlpha = true) ∧ '"' ∉ url := by
  cases url with
  | nil => simp [isPlainUrl]
  | cons c rest => simp [isPlainUrl]

theorem textPlatform_documented : textPlatform.UrlsDocumented where
  starts url parsed h := by
    obtain ⟨⟨c, rest, hurl, halpha⟩, -⟩ := isPlainUrl_iff.mp (textPlatform_parseUrl h).1
    exact ⟨c, rest, hurl, Or.inl halpha⟩
  scheme url parsed h := by
    obtain ⟨hplain, rfl⟩ := textPlatform_parseUrl h
    obtain ⟨⟨c, rest, hurl, halpha⟩, -⟩ := isPlainUrl_iff.mp hplain
    refine ⟨c, rest.takeWhile fun c => decide (c ≠ '?') && decide (c ≠ '#'), ?_, halpha⟩
    rw [urlParts_base, hurl, beforeQuery, List.takeWhile_cons_of_pos]
    rw [Bool.and_eq_true, decide_eq_true_iff, decide_eq_true_iff]
    constructor
    · rintro rfl
      exact absurd halpha (by decide)
    · rintro rfl
      exact absurd halpha (by decide)
  readsBack base params hash parsed hbase hhash h := by
    obtain ⟨-, rfl⟩ := textPlatform_parseUrl h
    have hsafe : '#' ∉ formSerialize params :=
      not_mem_formSerialize (by decide) (by decide) (by decide) (by decide) (by decide)
    rw [urlParts_params, String.toList_ofList, queryText_eq hbase hsafe hhash, formParse_formSerialize]
  fragment url parsed h := by
    obtain ⟨hplain, rfl⟩ := textPlatform_parseUrl h
    intro hmem
    rw [urlParts_hash] at hmem
    exact (isPlainUrl_iff.mp hplain).2 ((List.dropWhile_sublist _).subset hmem)

/-- The URL of an iframe gets the tenant in its place. -/
theorem dashboardFrame_rewritten :
    let text := "<iframe src=\"https://host/app/home?x=1#/view\" height=\"600\"></iframe>"
    textPlatform.RewritesUrl text (urlParts "https://host/app/home?x=1#/view") "analysts" := by
  intro text
  let url := "https://host/app/home?x=1#/view"
  have hurl : String.ofList (urlPart text.toList).url = url := by decide +kernel
  have hparse : textPlatform.parseUrl (String.ofList (urlPart text.toList).url) =
      some (urlParts url) := by
    rw [hurl]
    exact parseUrl_of_plain (by decide)
  have hother : otherContent (urlParts url) "analysts" (urlPart text.toList).after = none := by
    decide +kernel
  refine (rewritesUrl_iff textPlatform_documented hparse (by decide)).mpr
    ⟨by decide +kernel, by decide +kernel, by decide +kernel, fun _ content again hcontent _ => ?_⟩
  rw [hother] at hcontent
  cases hcontent

/-- The dollar sign at the end of a search is lost with the quotation mark behind it. -/
theorem searchedDollar_lost :
    let text := "https://host/app/discover#/view?_a=(query:'US$')"
    textPlatform.UrlsDocumented ∧ textPlatform.parseUrl text = some (urlParts text) ∧
      (urlParts text).params.lookup "security_tenant" = none ∧
      textPlatform.copied text "analysts" =
        some "https://host/app/discover?security_tenant=analysts#/view?_a=(query:'US)" ∧
      ¬textPlatform.RewritesUrl text (urlParts text) "analysts" := by
  intro text
  have hcopied : textPlatform.copied text "analysts" =
      some "https://host/app/discover?security_tenant=analysts#/view?_a=(query:'US)" := by
    decide +kernel
  refine ⟨textPlatform_documented, parseUrl_of_plain (by decide), by decide, hcopied, ?_⟩
  rintro ⟨hrewritten, -⟩
  rw [hcopied] at hrewritten
  revert hrewritten
  decide

end Sample

end SecurityDashboards
