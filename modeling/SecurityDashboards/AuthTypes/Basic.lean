import SecurityDashboards.AuthenticationType

/-!
# Basic authentication

`auth/types/basic/basic_auth.ts`
-/

namespace SecurityDashboards

namespace BasicAuthentication

variable (server : Server)

def requestIncludesAuthInfo (request : Request) : Bool := (request.header AUTH_HEADER_NAME).truthy

def getCookie (request : Request) (authInfo : AuthInfo) : SecuritySessionCookie :=
  if server.config.auth.anonymous_auth_enabled &&
      authInfo.user_name == some OPENDISTRO_SECURITY_ANONYMOUS then
    { username := authInfo.user_name
      authType := some BASIC
      expiryTime := some (request.now + server.config.session.ttl)
      isAnonymousAuth := true }
  else
    { username := authInfo.user_name
      credentials := some { authHeaderValue := request.header AUTH_HEADER_NAME }
      authType := some BASIC
      expiryTime := some (request.now + server.config.session.ttl) }

def isValidCookie (cookie : SecuritySessionCookie) : Bool :=
  cookie.authType == some BASIC && truthyNumber cookie.expiryTime &&
    ((truthyString cookie.username && cookie.credentials.any (·.authHeaderValue.truthy)) ||
      (server.config.auth.anonymous_auth_enabled && cookie.isAnonymousAuth))

def handleUnauthedRequest (request : Request) : Refusal :=
  if isPageRequest request then
    let nextUrlParam := composeNextUrlQueryParam server request
    if server.config.auth.anonymous_auth_enabled then
      .redirected (server.serverBasePath ++ ANONYMOUS_AUTH_LOGIN ++ "?" ++ nextUrlParam) none
    else .redirected (server.serverBasePath ++ LOGIN_PAGE_URI ++ "?" ++ nextUrlParam) none
  else .unauthorized (some "Authentication required")

def buildAuthHeaderFromCookie (cookie : SecuritySessionCookie) : HeaderObject :=
  if server.config.auth.anonymous_auth_enabled && cookie.isAnonymousAuth then .empty
  else Js.Assigned.empty.set "authorization"
    ((cookie.credentials.map (·.authHeaderValue)).getD .undefined)

end BasicAuthentication

def BasicAuthentication (server : Server) : AuthenticationType where
  requestIncludesAuthInfo := BasicAuthentication.requestIncludesAuthInfo
  getAdditionalAuthHeader _ := .ok .empty
  getCookie request authInfo := pure (BasicAuthentication.getCookie server request authInfo)
  isValidCookie cookie _ := pure (BasicAuthentication.isValidCookie server cookie, cookie)
  getKeepAliveExpiry _ request := pure (some (request.now + server.config.session.ttl))
  buildAuthHeaderFromCookie cookie _ :=
    pure (BasicAuthentication.buildAuthHeaderFromCookie server cookie)
  handleUnauthedRequest := BasicAuthentication.handleUnauthedRequest server

end SecurityDashboards
