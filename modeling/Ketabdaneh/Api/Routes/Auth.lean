import Ketabdaneh.Api.Accounts
import Ketabdaneh.Api.Services.Auth
import Ketabdaneh.Library.Python.Uuid

namespace Api

open Python Text

structure HTTPException where
  status : Nat
  detail : Str
  headers : List (Str × Str) := []

/-- What leaves a dependency: an answer, or an error that the server answers with 500. -/
inductive Raised where
  | http (exception : HTTPException)
  | unhandled

def GENERIC_401_DETAIL : Str :=
  ofString "Not authenticated"

def unauthorized : HTTPException where
  status := 401
  detail := GENERIC_401_DETAIL
  headers := [(ofString "WWW-Authenticate", ofString "Bearer")]

structure HTTPAuthorizationCredentials where
  scheme : Str
  credentials : Str

def getCurrentUser (jwt : PyJWT) (settings : AuthSettings)
    (credentials : Option HTTPAuthorizationCredentials) (db : Accounts) : Except Raised User :=
  match credentials with
  | none => .error (.http unauthorized)
  | some credentials =>
    -- no letter outside ASCII becomes one of these letters
    if asciiLower credentials.scheme ≠ ofString "bearer" then
      .error (.http unauthorized)
    else
      match resolveTokenSubject jwt settings credentials.credentials with
      | .error .invalidToken => .error (.http unauthorized)
      | .error .insecureSecret => .error .unhandled
      | .error .other => .error .unhandled
      | .ok subject =>
        match uuid subject with
        | none => .error (.http unauthorized)
        | some userId =>
          match db.users.get? userId with
          | none => .error (.http unauthorized)
          | some user => if user.active then .ok user else .error (.http unauthorized)

/-- The body of a login: texts that are not empty, and that pydantic could read as UTF-8. -/
structure LoginRequest where
  username : Str
  password : Str
  username_ne_nil : username ≠ []
  password_ne_nil : password ≠ []
  encodable_username : encodable username = true
  encodable_password : encodable password = true

structure TokenResponse where
  accessToken : Str
  tokenType : Str := ofString "bearer"
  expiresIn : Int

def loginRejected : HTTPException where
  status := 401
  detail := GENERIC_AUTH_FAILURE
  headers := [(ofString "WWW-Authenticate", ofString "Bearer")]

/-- The salt and the time are drawn by the libraries; `commits` is whether PostgreSQL takes a commit. -/
def login (jwt : JwtCodec) (hasher : PasswordHasher) (salt : Salt) (commits : Bool) (now : Nat)
    (settings : Config.Settings) (payload : LoginRequest) (db : Accounts)
    : Except Raised TokenResponse :=
  let authenticated := Transaction.call accountSchema.apply db
    (authenticate hasher salt commits settings.auth payload.username payload.password)
  match authenticated.outcome with
  | .error .authentication => .error (.http loginRejected)
  | .error _ => .error .unhandled
  | .ok user =>
    match issueAccessToken jwt settings now user with
    | .error _ => .error .unhandled
    | .ok (token, expiresIn) => .ok { accessToken := token, expiresIn }

end Api
