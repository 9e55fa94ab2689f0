import SecurityDashboards.Runtime
import SecurityDashboards.SecurityCookie

/-!
# Requests and the browser's cookies
-/

namespace SecurityDashboards

/-- The cookies a browser holds for the server: the session cookie, which is opaque to the browser,
and the split cookies by name. -/
structure Browser where
  session : Option SecuritySessionCookie := none
  split : String → Option Text := fun _ => none

/-- `request.url` -/
structure Url where
  pathname : String
  search : String := ""
  searchParams : List (String × String) := []

/-- `url.searchParams.get(name)`: the first parameter of that name. -/
def Url.param (url : Url) (name : String) : Option String := url.searchParams.lookup name

/-- What `request.query` has under a name: a repeated parameter makes an array. -/
inductive QueryValue where
  | undefined
  | str (s : String)
  | array (values : List String)
deriving DecidableEq

/-- `request.query[name]` -/
def Url.query (url : Url) (name : String) : QueryValue :=
  match (url.searchParams.filter (·.1 = name)).map Prod.snd with
  | [] => .undefined
  | [s] => .str s
  | values => .array values

/-- `request.query[name]` of a query that the schema of the route lets through: a string, or
nothing. -/
def Url.queryString (url : Url) (name : String) : Option String :=
  match url.query name with
  | .str s => some s
  | _ => none

/-- A request as the authentication handler sees it. -/
structure Request where
  url : Url
  /-- The header names are in lower case, as the HTTP server delivers them. -/
  headers : Js.Assigned String := .empty
  /-- The cookies sent along. -/
  cookies : Browser := {}
  /-- `Date.now()` while the request is handled. -/
  now : ℕ := 0
  /-- The message of the error that reading the session storage throws, if it throws. -/
  storageError : Option String := none

/-- `request.headers[name]` -/
def Request.header (request : Request) (name : String) : HeaderValue :=
  match request.headers.own name with
  | some s => .str s
  | none => if name ∈ Js.objectPrototype then .inherited else .undefined

/-- `sessionStorageFactory.asScoped(request).get()`: the session cookie of the request if it passes
its validation. -/
def Request.session (request : Request) : Except JsError (Option SecuritySessionCookie) :=
  match request.storageError with
  | some message => .error (.error message)
  | none => .ok (request.cookies.session.filter fun c => c.validate request.now)

end SecurityDashboards
