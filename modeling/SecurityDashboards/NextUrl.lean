import SecurityDashboards.Lib.JsString
import SecurityDashboards.Lib.UrlEncoding
import SecurityDashboards.Request

/-!
# The server, and where it sends requests without authentication

`Server` collects what an authentication type is constructed with. The rest are the functions that
build the redirect locations and validate where a login leads: `utils/next_url.ts` and the
`generateNextUrl` of two types.
-/

namespace SecurityDashboards

/-- Functions of the platform around the plugin. -/
structure Platform where
  /-- `getRedirectUrl({ request, basePath, nextUrl })` -/
  getRedirectUrl : Request → String → String → String
  encodeUriQuery : String → String
  /-- `parse(request.url.toString(), true).path`, `none` also when it throws. -/
  parsedPath : Url → Option String
  /-- What `get` of lodash finds under a name that it reads as a path. -/
  deepGet : HeaderObject → String → HeaderValue

/-- `path` of `url.parse` on a URL whose parts need no other repair. -/
def legacyPath (url : Url) : String :=
  String.ofList (UrlEncoding.percentEncode Js.isAutoEscaped (url.pathname ++ url.search).toList)

/-- What the authentication types are constructed with. -/
structure Server where
  config : SecurityPluginConfig
  runtime : Runtime
  platform : Platform
  serverBasePath : String := ""
  /-- The listener uses TLS. -/
  derivedCookieSecure : Bool := false

/-- `isPageRequest` -/
def isPageRequest (request : Request) : Bool :=
  let path := if request.url.pathname = "" then "/" else request.url.pathname
  Js.startsWith path "/app/" || path == "/" || Js.startsWith path "/goto/"

def composeNextUrlQueryParam (server : Server) (request : Request) : String :=
  match server.platform.parsedPath request.url with
  | none => ""
  | some nextUrl =>
    if nextUrl ≠ "" ∧ nextUrl ≠ "/" then
      "nextUrl=" ++ server.platform.encodeUriQuery
        (server.platform.getRedirectUrl request server.serverBasePath nextUrl)
    else ""

/-- The `path` in `generateNextUrl` of the OpenID and the SAML type, which differ in the path they
fall back to and in the function they call `escape`. -/
def generatedPath (server : Server) (fallbackPath : String) (request : Request) : String :=
  let nextUrl := if request.url.pathname = "" then fallbackPath else request.url.pathname
  let path := server.platform.getRedirectUrl request server.serverBasePath nextUrl
  path ++ request.url.search

/-- The legacy function `escape`. -/
def OpenIdAuthentication.generateNextUrl (server : Server) (request : Request) : String :=
  Js.escape (generatedPath server "/app/opensearch-dashboards" request)

/-- `escape` is imported from `querystring`. -/
def SamlAuthentication.generateNextUrl (server : Server) (request : Request) : String :=
  Js.querystringEscape (generatedPath server "/app/wz-home" request)

/-! ## Validation -/

def INVALID_NEXT_URL_PARAMETER_MESSAGE : String := "Invalid nextUrl parameter."

/-- `url.split(/\?|#/)[0]` -/
def urlPath (url : String) : String :=
  String.ofList (url.toList.takeWhile fun c => c ≠ '?' && c ≠ '#')

/-- No character of the text ends the path of a URL. -/
def NoPathEnd (s : String) : Prop := ∀ c ∈ s.toList, c ≠ '?' ∧ c ≠ '#'

/-- `[\/a-zA-Z0-9-_]` -/
def isNextUrlChar (c : Char) : Bool := c.isAlphanum || c = '/' || c = '-' || c = '_'

/-- The text comes through the legacy `escape` and the decoder of a form: it is ASCII without plus
signs. -/
def ComesThroughEscape (s : String) : Prop := ∀ c ∈ s.toList, c.toNat < 128 ∧ c ≠ '+'

/-- The regular expression of `validateNextUrl`: a slash, a letter or underscore, and one or more
further characters. -/
def isNextUrlPath (s : String) : Bool :=
  match s.toList with
  | c :: d :: rest =>
    c = '/' && (d.isAlpha || d = '_') && !rest.isEmpty && rest.all isNextUrlChar
  | _ => false

/-- The error message, if the URL is invalid. -/
def validateNextUrl (url basePath : Option String) : Option String :=
  match url.filter (· != "") with
  | none => none
  | some url =>
    let path := urlPath url
    let bp := basePath.getD ""
    if !Js.startsWith path bp then some INVALID_NEXT_URL_PARAMETER_MESSAGE
    else
      let pathMinusBase := Js.replace path bp ""
      if (pathMinusBase != "" && !Js.startsWith pathMinusBase "/") ||
          (decide (Js.length pathMinusBase ≥ 2) && !isNextUrlPath pathMinusBase) then
        some INVALID_NEXT_URL_PARAMETER_MESSAGE
      else none

/-- What may follow the base path, as the comment above the function describes it: a slash, then a
letter or underscore, then any number of further characters. -/
def DocumentedRest (rest : String) : Prop :=
  rest = "" ∨ rest = "/" ∨ ∃ d l, rest.toList = '/' :: d :: l ∧
    (d.isAlpha = true ∨ d = '_') ∧ ∀ c ∈ l, isNextUrlChar c = true

/-- The path of a URL that the comment permits. -/
def DocumentedPath (basePath path : String) : Prop :=
  ∃ rest, path = basePath ++ rest ∧ DocumentedRest rest

/-- The path is the base path with a slash and a single letter or underscore. -/
def IsOneLetterPath (basePath path : String) : Prop :=
  ∃ d, path = basePath ++ String.ofList ['/', d] ∧ (d.isAlpha = true ∨ d = '_')

def isCookieSecure (server : Server) : Bool :=
  server.config.cookie.secure.getD server.derivedCookieSecure

def clearOldVersionCookieValue (server : Server) : String :=
  if isCookieSecure server then
    "security_authentication=; Max-Age=0; Expires=Thu, 01 Jan 1970 00:00:00 GMT; Secure; " ++
      "HttpOnly; Path=/"
  else
    "security_authentication=; Max-Age=0; Expires=Thu, 01 Jan 1970 00:00:00 GMT; HttpOnly; Path=/"

end SecurityDashboards
