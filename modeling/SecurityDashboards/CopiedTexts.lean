import SecurityDashboards.Lib.JsReplace
import SecurityDashboards.Lib.WhatwgUrl
import SecurityDashboards.SharedLinks

/-!
# The text that is copied

`processCopyEvent` of `services/shared-link.ts`: it looks for a URL in the copied text, which is the
text itself or the `src` of an iframe, and puts the URL with the tenant in its place.
-/

namespace SecurityDashboards

/-- A part of a text, and what stands before and after it. -/
structure Found where
  before : List Char
  url : List Char
  after : List Char
deriving DecidableEq

namespace Found

def text (found : Found) : List Char := found.before ++ found.url ++ found.after

/-- The same part, in a text with a longer beginning. -/
def behind (start : List Char) (found : Found) : Found :=
  { found with before := start ++ found.before }

end Found

/-! ## `/<iframe[^>]*src="([^"]*)"/i` -/

/-- The text starts with the lower-case pattern, in any case. -/
def startsWithIgnoreCase (pattern text : List Char) : Bool :=
  pattern.isPrefixOf (text.map Char.toLower)

def iframeTag : List Char := "<iframe".toList
def srcAttribute : List Char := "src=\"".toList

/-- `src="([^"]*)"` at the start of the text. -/
def srcHere (text : List Char) : Option Found :=
  if startsWithIgnoreCase srcAttribute text && decide ('"' ∈ text.drop srcAttribute.length) then
    let rest := text.drop srcAttribute.length
    some
      { before := text.take srcAttribute.length
        url := rest.takeWhile (· ≠ '"')
        after := rest.dropWhile (· ≠ '"') }
  else none

/-- `[^>]*src="([^"]*)"` at the start of the text. The first part is greedy, so the last match
counts. -/
def lastSrc : List Char → Option Found
  | [] => none
  | c :: rest =>
    if c = '>' then none
    else ((lastSrc rest).map (Found.behind [c])).or (srcHere (c :: rest))

/-- The regular expression at the start of the text. -/
def iframeHere (text : List Char) : Option Found :=
  if startsWithIgnoreCase iframeTag text then
    (lastSrc (text.drop iframeTag.length)).map (Found.behind (text.take iframeTag.length))
  else none

/-- `regex.exec(text)`: the first match. -/
def execIframe : List Char → Option Found
  | [] => none
  | c :: rest => (iframeHere (c :: rest)).or ((execIframe rest).map (Found.behind [c]))

/-! ## The copy event -/

/-- The part of the text that the code takes for a URL. -/
def urlPart (originalValue : List Char) : Found :=
  let whole : Found := { before := [], url := originalValue, after := [] }
  if startsWithIgnoreCase iframeTag originalValue then (execIframe originalValue).getD whole
  else whole

namespace SharePlatform

variable (platform : SharePlatform)

/-- The new text that `setClipboardAndTarget` gets, if it is called. A text that is no URL throws,
which is ignored. -/
def processCopyEvent (shareUrl targetText : Option String) (userRequestedTenant : String) :
    Option String :=
  match shareUrl, targetText with
  | some shareUrl, some originalValue =>
    if shareUrl = originalValue then
      platform.updateClipboard (String.ofList (urlPart originalValue.toList).url)
        (some originalValue) userRequestedTenant
    else none
  | _, _ => none

/-- The event for a text that was copied from the share panel. -/
def copied (text tenant : String) : Option String :=
  platform.processCopyEvent (some text) (some text) tenant

/-- What is known of `new URL`: a URL starts with its scheme, before which the parser skips control
characters and spaces; serialised parameters are read back; and quotation marks are encoded in a
fragment. -/
structure UrlsDocumented : Prop where
  starts : ∀ url parsed, platform.parseUrl url = some parsed → ∃ c rest, url.toList = c :: rest ∧
    (c.isAlpha = true ∨ Whatwg.isControlOrSpace c = true)
  scheme : ∀ url parsed, platform.parseUrl url = some parsed → ∃ c rest, parsed.base = c :: rest ∧
    c.isAlpha = true
  readsBack : ∀ (base : List Char) (params : QueryParams) (hash : List Char) (parsed : ShareUrl),
    (∀ c ∈ base, c ≠ '?' ∧ c ≠ '#') → (hash = [] ∨ ∃ text, hash = '#' :: text) →
      platform.parseUrl (String.ofList
        (base ++ '?' :: UrlEncoding.formSerialize params ++ hash)) = some parsed →
      parsed.params = params
  fragment : ∀ url parsed, platform.parseUrl url = some parsed → '"' ∉ parsed.hash

/-- The text with the serialised URL in the place of the URL. -/
def rewritten (text : String) (parsed : ShareUrl) (tenant : String) : String :=
  let found := urlPart text.toList
  String.ofList (found.before ++ (parsed.withTenant tenant).toList ++ found.after)

/-- The requirement: nothing but the URL is rewritten, and the new text is left alone. -/
def RewritesUrl (text : String) (parsed : ShareUrl) (tenant : String) : Prop :=
  platform.copied text tenant = some (rewritten text parsed tenant) ∧
    platform.copied (rewritten text parsed tenant) tenant = none

/-! ## When this is so -/

/-- What the regular expression finds instead of the new URL in front of `after`: a later `src`
before the tag ends, or, if its path part has a quotation mark, what stands before that. -/
def otherContent (parsed : ShareUrl) (tenant : String) (after : List Char) : Option (List Char) :=
  match lastSrc ((parsed.withTenant tenant).toList ++ after) with
  | some found => some found.url
  | none => if '"' ∈ parsed.base then some (parsed.base.takeWhile (· ≠ '"')) else none

/-- The URL does not occur in the text before its place, its serialisation has none of the patterns
of a replacement text, and what an iframe shows instead of it afterwards has a tenant or is no
URL. -/
structure Rewritable (text : String) (parsed : ShareUrl) (tenant : String) : Prop where
  first : Js.FirstAt (urlPart text.toList).url (urlPart text.toList).before text.toList
  base : ¬Js.HasPattern parsed.base
  hash : ¬Js.HasPattern parsed.hash
  other : (urlPart text.toList).before ≠ [] → ∀ content url,
    otherContent parsed tenant (urlPart text.toList).after = some content →
      platform.parseUrl (String.ofList content) = some url →
        (url.params.lookup "security_tenant").isSome = true

end SharePlatform

end SecurityDashboards
