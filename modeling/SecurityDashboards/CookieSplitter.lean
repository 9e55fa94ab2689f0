import SecurityDashboards.Lib.Chunks
import SecurityDashboards.Request

/-!
# Split cookies

`session/cookie_splitter.ts`: a value that is too large for one cookie is deflated, encoded and cut
into several cookies. What a request handler sets and clears is collected in the `_states` of the
request and goes to the browser with the response.
-/

namespace SecurityDashboards

structure ExtraAuthStorageOptions where
  cookiePrefix : String
  additionalCookies : ℕ

/-- The `_states` of a request, the latest entry of a name first: the value set, or `none` where the
cookie is cleared. -/
abbrev States := List (String × Option Text)

/-- `Math.floor(MAX_LENGTH_OF_COOKIE_BYTES / ESTIMATED_IRON_COOKIE_OVERHEAD)`, the overhead being
1.5. -/
def maxLengthPerCookie : ℕ := MAX_LENGTH_OF_COOKIE_BYTES * 2 / 3

/-- Where `splitValueIntoCookies` cuts a value of this length. -/
def splitValueAt (length additionalCookies : ℕ) : ℕ :=
  if length > additionalCookies * maxLengthPerCookie then
    (length + additionalCookies - 1) / additionalCookies
  else maxLengthPerCookie

/-- The name of the cookie number `i`, counted from 0. -/
def splitCookieName (cookiePrefix : String) (i : ℕ) : String := cookiePrefix ++ Nat.repr (i + 1)

def splitValueIntoCookies (states : States) (cookiePrefix : String) (value : Text)
    (additionalCookies : ℕ) : States :=
  let size := splitValueAt value.length additionalCookies
  (List.range additionalCookies).foldl (fun states i =>
    let cookieSplitValue := Chunks.chunk size value i
    (splitCookieName cookiePrefix i,
      if cookieSplitValue.isEmpty then none else some cookieSplitValue) :: states) states

def unsplitCookiesIntoValue (request : Request) (states : States) (cookiePrefix : String)
    (additionalCookies : ℕ) : Text :=
  let requestHasNewerCookieState := (states.lookup (splitCookieName cookiePrefix 0)).isSome
  (List.range additionalCookies).flatMap fun i =>
    let cookieName := splitCookieName cookiePrefix i
    if requestHasNewerCookieState then ((states.lookup cookieName).getD none).getD []
    else (request.cookies.split cookieName).getD []

def getExtraAuthStorageValue (runtime : Runtime) (request : Request) (states : States)
    (options : ExtraAuthStorageOptions) : Except JsError String :=
  let compressedContent :=
    if options.additionalCookies > 0 then
      unsplitCookiesIntoValue request states options.cookiePrefix options.additionalCookies
    else []
  (runtime.inflateSync (Buffer.fromBase64 compressedContent)).mapError .error

/-- The content is a header value; `deflateSync` takes strings only. -/
def setExtraAuthStorage (runtime : Runtime) (states : States) (content : HeaderValue)
    (options : ExtraAuthStorageOptions) : Except JsError States :=
  match content with
  | .str content =>
    let compressedContent := Buffer.toBase64 (runtime.deflateSync content)
    .ok (splitValueIntoCookies states options.cookiePrefix compressedContent
      options.additionalCookies)
  | _ => .error (.error runtime.notDeflatable)

/-- Only cookies that came with the request are cleared. -/
def clearSplitCookies (request : Request) (states : States) (options : ExtraAuthStorageOptions) :
    States :=
  (List.range options.additionalCookies).foldl (fun states i =>
    let cookieName := splitCookieName options.cookiePrefix i
    if (request.cookies.split cookieName).any (!·.isEmpty) then (cookieName, none) :: states
    else states) states

/-- The browser's split cookies after a response with these states. -/
def Browser.applyStates (browser : Browser) (states : States) : Browser :=
  { browser with
    split := fun name =>
      match states.lookup name with
      | some entry => entry
      | none => browser.split name }

/-- The split cookies of the browser hold the content `s`. -/
def Browser.Holds (browser : Browser) (runtime : Runtime) (options : ExtraAuthStorageOptions)
    (s : String) : Prop :=
  let value := Buffer.toBase64 (runtime.deflateSync s)
  let size := splitValueAt value.length options.additionalCookies
  ∀ i < options.additionalCookies,
    (browser.split (splitCookieName options.cookiePrefix i)).getD [] = Chunks.chunk size value i

end SecurityDashboards
