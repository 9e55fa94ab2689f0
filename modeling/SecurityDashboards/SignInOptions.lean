import SecurityDashboards.AuthTypes.Multi
import SecurityDashboards.LoginPages

/-!
# Sign-in options

What `auth.type` may be (`server/index.ts`), and what the login page offers for it
(`apps/login/login-page.tsx`).
-/

namespace SecurityDashboards

def ANONYMOUS : String := "anonymous"

/-- The value of `auth.type`, a text or an array of texts. -/
inductive AuthOptions where
  | text (option : String)
  | array (options : List String)

/-- The types that the server reads from the value. -/
def AuthOptions.types : AuthOptions → List String
  | text option => [option]
  | array options => options

section Options

variable (runtime : Runtime)

/-! ## The schema -/

def supportedAuthTypes : List String :=
  ["", BASIC, "jwt", "openid", SAML, "proxy", "kerberos", "proxycache"]

/-- The message of the error that is thrown for the first type that is not supported. -/
def validateAuthType (value : List String) : Except String Unit :=
  match value.find? fun authVal => !supportedAuthTypes.contains (runtime.toLowerCase authVal) with
  | some authVal => .error ("Unsupported authentication type: " ++ authVal ++
      ". Allowed auth.type are " ++ ",".intercalate supportedAuthTypes ++ ".")
  | none => .ok ()

/-- The `validate` functions of `auth.type`. -/
def validateAuthOptions : AuthOptions → Except String Unit
  | .text value => validateAuthType runtime [value]
  | .array value =>
    if value.isEmpty then
      .error ("Authentication type is not configured properly. " ++
        "At least one authentication type must be selected.")
    else if value.length > 1 && !(value.any fun element => runtime.toLowerCase element == BASIC) then
      .error "Authentication type is not configured properly. basicauth is mandatory."
    else validateAuthType runtime value

/-! ## The login page -/

inductive FormRow where
  | username
  | password
  | logIn
  | separator
  | loginButton (authType : String) (href : String)
deriving DecidableEq

/-- What the login page reads of the configuration and of its location. -/
structure LoginPageProps where
  serverBasePath : String
  anonymous_auth_enabled : Bool
  page : Whatwg.Location

/-- The options that get a form or a button. -/
def authOpts (options : AuthOptions) : List String :=
  let authOpts := match options with
    | .text options => if options != "" then [runtime.toLowerCase options] else []
    | .array options => if options == [""] then [] else options
  let authOpts := if authOpts.length = 0 then [BASIC] else authOpts
  authOpts.filter fun auth => auth != PROXY && auth != JWT

variable (props : LoginPageProps)

def renderLoginButton (authType loginEndPoint : String) : FormRow :=
  .loginButton authType (props.serverBasePath ++ loginEndPoint)

/-- What the loop of `formOptions` adds to `formBody` for an option. -/
def formBody (several : Bool) (authOpt : String) : List FormRow :=
  if runtime.toLowerCase authOpt = BASIC then
    [.username, .password, .logIn] ++
      (if props.anonymous_auth_enabled then [renderLoginButton props ANONYMOUS ANONYMOUS_AUTH_LOGIN]
        else []) ++
      if several then [.separator] else []
  else []

/-- What it adds to `formBodyOp`. -/
def formBodyOp (authOpt : String) : List FormRow :=
  let nextUrl := extractNextUrlFromWindowLocation props.page
  if runtime.toLowerCase authOpt = OPEN_ID then
    [renderLoginButton props OPEN_ID (OPENID_AUTH_LOGIN_WITH_FRAGMENT ++ nextUrl)]
  else if runtime.toLowerCase authOpt = SAML then
    [renderLoginButton props SAML (SAML_AUTH_LOGIN_WITH_FRAGMENT ++ nextUrl)]
  else []

/-- The `loginError` that it sets; there is one for the options of no case. -/
def loginError (authOpt : String) : Option String :=
  if [BASIC, OPEN_ID, SAML].contains (runtime.toLowerCase authOpt) then none
  else some ("Authentication Type: " ++ authOpt ++ " is not supported for multiple authentication.")

/-- The state of the page that a render reads and may set. -/
structure LoginState where
  loginFailed : Bool := false
  loginError : String := ""

/-- What `formOptions` returns, and the state that it sets last. It is called while the page renders. -/
def formOptions (options : AuthOptions) : List FormRow × Option LoginState :=
  let opts := authOpts runtime options
  (opts.flatMap (formBody runtime props (decide (opts.length > 1))) ++
      opts.flatMap (formBodyOp runtime props),
    (opts.filterMap (loginError runtime)).getLast?.map fun loginError =>
      { loginFailed := true, loginError })

/-- The form of the page, with the text of its error. -/
structure LoginForm where
  rows : List FormRow
  errorLabel : Option String
deriving DecidableEq

/-- The message of the error that React throws. -/
def tooManyRerenders : String :=
  "Too many re-renders. React limits the number of renders to prevent an infinite loop."

/-- A render of `LoginPage`. After one that has set state, React renders the page again at once, but
not more often than a limit says. -/
def LoginPage (options : AuthOptions) : ℕ → LoginState → Except String LoginForm
  | 0, _ => .error tooManyRerenders
  | renders + 1, state =>
    match formOptions runtime props options with
    | (_, some state) => LoginPage options renders state
    | (rows, none) =>
      .ok { rows, errorLabel := if state.loginFailed then some state.loginError else none }

/-- An array names the proxy or the JWT type in other than lower case letters. -/
def CapitalizesHidden (options : AuthOptions) : Prop :=
  ∃ texts, options = .array texts ∧ ∃ text ∈ texts,
    (runtime.toLowerCase text = PROXY ∨ runtime.toLowerCase text = JWT) ∧
      runtime.toLowerCase text ≠ text

end Options

/-- The types that a server accepts logins of. -/
def Scheme.types : Scheme → List AuthType
  | single authType => [authType]
  | multiple authHandlers => authHandlers

end SecurityDashboards
