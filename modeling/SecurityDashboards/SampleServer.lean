import SecurityDashboards.AuthRoutes.Common

/-!
# A sample server

A concrete runtime on which the theorems can be tried. It knows two bearer tokens, with the bytes that
the real compression gives for them, and the payloads of these tokens; all other strings are encoded
character by character.
-/

namespace SecurityDashboards

namespace Sample

/-- A token that expires at second 2. -/
def token : String := "eyJhbGciOiJIUzI1NiJ9.eyJleHAiOjJ9.c2ln"

/-- A token that expires at second 9. -/
def laterToken : String := "eyJhbGciOiJIUzI1NiJ9.eyJleHAiOjl9.c2ln"

def toText (s : String) : Text := s.toList.map fun c => UInt16.ofNat c.toNat

def tokenText : Text :=
  toText "eJxzSk0sSi1SSK30ykhyT870z/TyDK3yNPTL9LLUS630ykn1cMz0z/Ky1Es2yskDAGZiDzc="

/-- The compressed header of the token. -/
def tokenBytes : Bytes :=
  [120, 156, 115, 74, 77, 44, 74, 45, 82, 72, 173, 244, 202, 72, 114, 79, 206, 244, 207, 244, 242, 12,
    173, 242, 52, 244, 203, 244, 178, 212, 75, 173, 244, 202, 73, 245, 112, 204, 244, 207, 242, 178,
    212, 75, 54, 202, 201, 3, 0, 102, 98, 15, 55]

def laterTokenBytes : Bytes :=
  [120, 156, 115, 74, 77, 44, 74, 45, 82, 72, 173, 244, 202, 72, 114, 79, 206, 244, 207, 244, 242, 12,
    173, 242, 52, 244, 203, 244, 178, 212, 75, 173, 244, 202, 73, 245, 112, 204, 244, 207, 202, 177,
    212, 75, 54, 202, 201, 3, 0, 103, 80, 15, 89]

/-- The bytes of any other string, in a form that no compressed text has. -/
def encode (s : String) : Bytes :=
  0 :: s.toList.flatMap fun c => [UInt8.ofNat (c.toNat / 65536), UInt8.ofNat (c.toNat / 256 % 256),
    UInt8.ofNat (c.toNat % 256)]

def decodeChars : Bytes → List Char
  | high :: middle :: low :: rest =>
    Char.ofNat (high.toNat * 65536 + middle.toNat * 256 + low.toNat) :: decodeChars rest
  | _ => []

theorem decodeChars_encode (l : List Char) :
    decodeChars (l.flatMap fun c => [UInt8.ofNat (c.toNat / 65536),
      UInt8.ofNat (c.toNat / 256 % 256), UInt8.ofNat (c.toNat % 256)]) = l := by
  induction l with
  | nil => rfl
  | cons c l ih =>
    have hlt : c.toNat < 1114112 := by
      have hvalid := c.valid
      simp only [UInt32.isValidChar, Nat.isValidChar] at hvalid
      simp only [Char.toNat]
      omega
    have hbyte : ∀ n < 256, (UInt8.ofNat n).toNat = n := by
      intro n hn
      rw [UInt8.toNat_ofNat']
      omega
    have hc : c.toNat / 65536 * 65536 + c.toNat / 256 % 256 * 256 + c.toNat % 256 = c.toNat := by omega
    simp only [List.flatMap_cons, List.cons_append, List.nil_append, decodeChars,
      hbyte (c.toNat / 65536) (by omega), hbyte (c.toNat / 256 % 256) (by omega),
      hbyte (c.toNat % 256) (by omega), hc, ih, Char.ofNat_toNat]

def deflateSync (s : String) : Bytes :=
  if s = "Bearer " ++ token then tokenBytes
  else if s = "Bearer " ++ laterToken then laterTokenBytes
  else encode s

def inflateSync (buffer : Bytes) : Except String String :=
  if buffer = tokenBytes then .ok ("Bearer " ++ token)
  else if buffer = laterTokenBytes then .ok ("Bearer " ++ laterToken)
  else if buffer.head? = some 0 then .ok (String.ofList (decodeChars buffer.tail))
  else .error "unexpected end of file"

theorem inflate_deflate (s : String) : inflateSync (deflateSync s) = .ok s := by
  rw [deflateSync]
  by_cases h : s = "Bearer " ++ token
  · rw [if_pos h, h]
    rfl
  · by_cases h' : s = "Bearer " ++ laterToken
    · rw [if_neg h, if_pos h', h']
      rfl
    · have hne : ∀ buffer : Bytes, buffer.head? ≠ some 0 → encode s ≠ buffer := by
        rintro buffer hbuffer rfl
        exact hbuffer rfl
      have htoken : encode s ≠ tokenBytes := hne tokenBytes (by decide)
      have hlater : encode s ≠ laterTokenBytes := hne laterTokenBytes (by decide)
      have hchars : String.ofList (decodeChars (encode s).tail) = s := by
        rw [encode, List.tail_cons, decodeChars_encode, String.ofList_toList]
      rw [if_neg h, if_neg h', inflateSync, if_neg htoken, if_neg hlater, hchars]
      exact if_pos rfl

def runtime : Runtime where
  toLowerCase := asciiToLowerCase
  toLowerCase_ascii _ _ := rfl
  deflateSync := deflateSync
  notDeflatable := "The \"buffer\" argument must be of type string"
  inflateSync := inflateSync
  inflate_deflate := inflate_deflate
  inflate_empty := rfl
  parseExp text :=
    if text = "\x7b\x22exp\x22:2\x7d" then .ok (.num 2)
    else if text = "\x7b\x22exp\x22:9\x7d" then .ok (.num 9)
    else .error "Unexpected token"
  firstDigit q := q.num.sign

def platform : Platform where
  getRedirectUrl _ basePath nextUrl := basePath ++ nextUrl
  encodeUriQuery := Js.encodeURIComponent
  parsedPath url := some (legacyPath url)
  deepGet _ _ := .undefined

def server (config : SecurityPluginConfig) : Server where
  config := config
  runtime := runtime
  platform := platform

/-! ## A login with a token -/

/-- The JWT type reads the header `authorization`, as the OpenID type does. -/
def bearerServer : Server := server { jwt := some {} }

/-- The token is expected in a header of another name. -/
def customServer : Server := server { jwt := some { header := "X-Auth-Token" } }

/-- A request with the token in the header of this name, at second 1. -/
def tokenRequest (header : String) : Request where
  url := { pathname := "/api/status" }
  headers := Js.Assigned.empty.set header ("Bearer " ++ token)
  now := 1000

def bearerRequest : Request := tokenRequest "authorization"

def customRequest : Request := tokenRequest "x-auth-token"

def alice : AuthInfo := { user_name := some "alice" }

/-- The backend knows alice. -/
def aliceBackend : Environment where
  authinfo _ _ _ := .ok alice
  dashboardsinfo _ _ _ := .ok {}
  tokenEndpoint _ := .error "Service Unavailable"

/-- The routes of a server with alice's backend. -/
def setup (server : Server) : RouteSetup where
  server := server
  environment := aliceBackend
  exchangeCode _ := .error "Service Unavailable"
  authToken _ := .error "Service Unavailable"
  samlChallenge _ := none
  stringify _ := ""
  urlWithParams endpoint _ := some endpoint

/-- The IdP gives out a token, and the backend knows it. -/
def loginSetup : RouteSetup :=
  { setup (server {}) with
    exchangeCode := fun _ => .ok { statusCode := some 200, payload := .ok { idToken := some token } }
    authToken := fun _ => .ok (some ("bearer " ++ token))
    samlChallenge := fun _ => some
      { message := "Authentication finally failed"
        wwwAuthenticateDirective :=
          some "X-Security-IdP location=\"https://idp/sso\" requestId=\"request-1\"" } }

end Sample

end SecurityDashboards
