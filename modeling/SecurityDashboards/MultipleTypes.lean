import SecurityDashboards.Sessions

/-!
# One type among several

A server may offer several authentication types at once. A browser that has a session of one of them
should not notice the others: for its requests, `MultipleAuthentication` should be the type of the
session.
-/

namespace SecurityDashboards

/-- The same answer to a request, with whatever cookies it comes, save that each authentication sends an
unauthenticated request to a place of its own. -/
inductive SameAnswer (self self' : AuthenticationType) (request : Request) :
    Except JsError AuthResult → Except JsError AuthResult → Prop where
  | same (result : Except JsError AuthResult) : SameAnswer self self' request result result
  | refused (cookies : Browser) (now : ℕ) : SameAnswer self self' request
      (.ok (.refused (self.handleUnauthedRequest { request with cookies, now })))
      (.ok (.refused (self'.handleUnauthedRequest { request with cookies, now })))

/-- The cookie names the type, in any spelling. -/
def SecuritySessionCookie.Names (server : Server) (authType : AuthType)
    (cookie : SecuritySessionCookie) : Prop :=
  cookie.authType.map server.runtime.toLowerCase = some authType.key

/-- The browser has a session of the type, or none. -/
def Browser.OfType (server : Server) (authType : AuthType) (browser : Browser) : Prop :=
  ∀ cookie, browser.session = some cookie → cookie.Names server authType

/-- The request has no authentication data of its own for any of the types. Cookies that change in
another way are those of a session of the type. -/
def BySession (server : Server) (authHandlers : List AuthType) (authType : AuthType) :
    Event → History → Prop
  | .visit v, s =>
    (MultipleAuthentication server v.environment authHandlers).requestIncludesAuthInfo (v.sent s) =
      false
  | .replaced browser, _ => browser.OfType server authType

/-- The answers to a request, if the event is one. -/
def AnswersAlike (server : Server) (authHandlers : List AuthType) (authType : AuthType)
    (event : Event) (answer answer' : Option (Except JsError AuthResult)) : Prop :=
  match event, answer, answer' with
  | .visit v, some result, some result' =>
    SameAnswer (MultipleAuthentication server v.environment authHandlers)
      (authType.handler server v.environment) v.request result result'
  | .replaced _, none, none => True
  | _, _, _ => False

end SecurityDashboards
