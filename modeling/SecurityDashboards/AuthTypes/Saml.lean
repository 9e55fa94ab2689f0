import SecurityDashboards.AuthTypes.ExtraStorage

/-!
# SAML authentication

`auth/types/saml/saml_auth.ts`
-/

namespace SecurityDashboards

namespace SamlAuthentication

variable (server : Server)

def getExtraAuthStorageOptions : ExtraAuthStorageOptions where
  cookiePrefix := server.config.saml.extra_storage.cookie_prefix
  additionalCookies := server.config.saml.extra_storage.additional_cookies

def requestIncludesAuthInfo (request : Request) : Bool := (request.header AUTH_HEADER_NAME).truthy

def getCookie (request : Request) (authInfo : AuthInfo) :
    Proc Queue JsError SecuritySessionCookie := do
  ExtraStorage.store server (getExtraAuthStorageOptions server) (request.header AUTH_HEADER_NAME)
  pure
    { username := authInfo.user_name
      credentials := some { authHeaderValueExtra := true }
      authType := some SAML
      expiryTime := some (request.now + server.config.session.ttl) }

def isValidCookie (cookie : SecuritySessionCookie) (request : Request) (queue : Queue) : Bool :=
  cookie.authType == some SAML && truthyString cookie.username && truthyNumber cookie.expiryTime &&
    ExtraStorage.hasAuthHeaderValue server (getExtraAuthStorageOptions server) request cookie queue

def handleUnauthedRequest (request : Request) : Refusal :=
  if isPageRequest request then
    .redirected
      (server.serverBasePath ++ "/auth/saml/captureUrlFragment?nextUrl=" ++
        generateNextUrl server request)
      (some (clearOldVersionCookieValue server))
  else .unauthorized none

def buildAuthHeaderFromCookie (cookie : SecuritySessionCookie) (request : Request)
    (queue : Queue) : HeaderObject :=
  if cookie.credentials.any (·.authHeaderValueExtra) then
    Js.Assigned.empty.set AUTH_HEADER_NAME (.str
      (ExtraStorage.value server (getExtraAuthStorageOptions server) request cookie queue))
  else Js.Assigned.empty.set AUTH_HEADER_NAME
    ((cookie.credentials.map (·.authHeaderValue)).getD .undefined)

end SamlAuthentication

/-- The expiry time is set by the IdP, and keeping a session alive does not change it. -/
def SamlAuthentication (server : Server) : AuthenticationType where
  requestIncludesAuthInfo := SamlAuthentication.requestIncludesAuthInfo
  getAdditionalAuthHeader _ := .ok .empty
  getCookie := SamlAuthentication.getCookie server
  isValidCookie cookie request := do
    pure (SamlAuthentication.isValidCookie server cookie request (← get), cookie)
  getKeepAliveExpiry cookie _ := pure cookie.expiryTime
  buildAuthHeaderFromCookie cookie request := do
    pure (SamlAuthentication.buildAuthHeaderFromCookie server cookie request (← get))
  handleUnauthedRequest := SamlAuthentication.handleUnauthedRequest server

end SecurityDashboards
