import SecurityDashboards.Lib.JsString
import SecurityDashboards.Runtime

/-!
# The token endpoint

The part of `openid/helper.ts` that the exchange of a code and the refresh of a token use.
-/

namespace SecurityDashboards

/-- `TokenResponse`, as far as the code reads it. -/
structure TokenResponse where
  idToken : Option String := none
  refreshToken : Option String := none
  expiresIn : Option ℚ := none
deriving DecidableEq

/-- The parameters of a refresh. -/
structure TokenQuery where
  grant_type : String
  client_id : Option String
  client_secret : String
  refresh_token : String
deriving DecidableEq

/-- An HTTP response of the endpoint. The payload is what `parseTokenResponse` makes of it. -/
structure TokenHttpResponse where
  statusCode : Option ℕ
  statusMessage : String := ""
  payload : Except String TokenResponse

/-- `post` is the call of the HTTP client, which may fail. -/
def callTokenEndpoint {Query : Type} (post : Query → Except String TokenHttpResponse)
    (query : Query) : Except JsError TokenResponse :=
  match post query with
  | .error message => .error (.error message)
  | .ok response =>
    match response.statusCode with
    | none =>
      .error (.error ("Failed calling token endpoint: undefined " ++ response.statusMessage))
    | some statusCode =>
      if statusCode < 200 ∨ statusCode > 299 then
        .error (.error ("Failed calling token endpoint: " ++ Nat.repr statusCode ++ " " ++
          response.statusMessage))
      else match response.payload with
        | .error message => .error (.error message)
        | .ok tokens => .ok tokens

/-- `getExpirationDate` of the OpenID helper; a missing time is `NaN`. -/
def tokenExpirationDate (runtime : Runtime) (now : ℕ) (tokenResponse : Option TokenResponse) :
    Except JsError (Option ℚ) :=
  match tokenResponse with
  | none => .error (.error "Invalid token")
  | some tokenResponse =>
    match tokenResponse.idToken.filter (· != "") with
    | some idToken =>
      match Js.split idToken '.' with
      | [_, payload, _] =>
        match runtime.payloadExp payload with
        | .ok exp => .ok (exp.toNumber.map (· * 1000))
        | .error message => .error (.error message)
      | _ => .error (.error "Invalid token")
    | none => .ok (tokenResponse.expiresIn.map (now + · * 1000))

end SecurityDashboards
