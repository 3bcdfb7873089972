import Ketabdaneh.Api.AccountSession
import Ketabdaneh.Api.Core.Config
import Ketabdaneh.Library.Python.Uuid
import Ketabdaneh.Library.Text.CaseFold
import Ketabdaneh.Library.Text.Decimal

namespace Api

open Python Text Transaction

def MIN_PASSWORD_LENGTH : Nat :=
  8

def GENERIC_AUTH_FAILURE : Str :=
  ofString "Invalid username or password"

/-- The text of what a service raises, where that is an exception of its own. -/
def AccountError.text : AccountError → Option Str
  | .emptyUsername => some (ofString "Username must not be empty.")
  | .passwordPolicy =>
    some (ofString "Password must be at least " ++ decimal MIN_PASSWORD_LENGTH
      ++ ofString " characters.")
  | .usernameTaken username => some (ofString "Username already exists: " ++ username)
  | .authentication => some GENERIC_AUTH_FAILURE
  | .insecureSecret =>
    some (ofString ("AUTH_SECRET_KEY is the insecure placeholder. Set a real secret "
      ++ "in the environment (see .env.example)."))
  | .userNotFound username => some (ofString "User not found: " ++ username)
  | .unknownApplicationRole code => some (ofString "Unknown application role: " ++ code)
  | .roleAlreadyGranted username roleCode =>
    some (ofString "User " ++ username ++ ofString " already has role " ++ roleCode)
  | .hashing => none
  | .database => none

def normalizeUsername (username : Str) : Str :=
  casefold (strip username)

structure AuthSettings where
  authSecretKey : Str
  authAlgorithm : Str := ofString "HS256"
  authAllowInsecureDevSecret : Bool := true

/-- What the services read of the settings of the application. -/
def Config.Settings.auth (settings : Config.Settings) : AuthSettings where
  authSecretKey := settings.authSecretKey
  authAlgorithm := settings.authAlgorithm
  authAllowInsecureDevSecret := settings.authAllowInsecureDevSecret

def ensureSecureAuthSecret (settings : AuthSettings) : Except TokenError Unit :=
  if settings.authSecretKey = AUTH_SECRET_PLACEHOLDER ∧ !settings.authAllowInsecureDevSecret then
    .error .insecureSecret
  else
    .ok ()

def DUMMY_HASH : Str :=
  ofString "$argon2id$v=19$m=65536,t=3,p=4$dGVzdA$dGVzdA"

section

open AccountService

variable (hasher : PasswordHasher) (salt : Salt) (commits : Bool)

/-- The user of the credentials; their hash is made anew if it was made with other parameters. -/
def authenticate (settings : AuthSettings) (username password : Str) : AccountService User :=
  match ensureSecureAuthSecret settings with
  | .error _ => .throw .insecureSecret
  | .ok () => do
    let canonical := normalizeUsername username
    let found ← scalar [canonical] fun db => db.userNamed? canonical
    match found with
    | none =>
      let _ ← perform (verifyPassword hasher DUMMY_HASH password)
      .throw .authentication
    | some user =>
      let verified ← perform (verifyPassword hasher user.passwordHash password)
      if !verified then
        .throw .authentication
      else if !user.active then
        .throw .authentication
      else
        match passwordNeedsRehash hasher user.passwordHash with
        | none => .throw .hashing
        | some false => return user
        | some true =>
          let hashed ← perform (hashPassword hasher salt password)
          match hashed with
          | none => .throw .hashing
          | some passwordHash =>
            add (.setPasswordHash user.id passwordHash)
            commit commits
            return { user with passwordHash }

def createUser (username password : Str) (active : Bool) (id : UUID) : AccountService User :=
  let canonical := normalizeUsername username
  if canonical = [] then
    .throw .emptyUsername
  else if password.length < MIN_PASSWORD_LENGTH then
    .throw .passwordPolicy
  else do
    let existing ← scalar [canonical] fun db => db.userNamed? canonical
    match existing with
    | some _ => .throw (.usernameTaken canonical)
    | none =>
      let hashed ← perform (hashPassword hasher salt password)
      match hashed with
      | none => .throw .hashing
      | some passwordHash =>
        let user : User := ⟨id, canonical, passwordHash, active⟩
        add (.newUser user)
        commit commits
        return user

end

def issueAccessToken (jwt : JwtCodec) (settings : Config.Settings) (now : Nat) (user : User)
    : Except TokenError (Str × Int) :=
  match timedelta settings.accessTokenExpireMinutes with
  | none => .error .other
  | some expiresDelta =>
    createAccessToken jwt now (uuidText user.id) settings.authSecretKey settings.authAlgorithm
      expiresDelta

def resolveTokenSubject (jwt : PyJWT) (settings : AuthSettings) (token : Str)
    : Except TokenError Str := do
  ensureSecureAuthSecret settings
  decodeAccessToken jwt token settings.authSecretKey settings.authAlgorithm

end Api
