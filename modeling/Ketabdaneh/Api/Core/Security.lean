import Ketabdaneh.Library.Python.DateTime
import Ketabdaneh.Library.Python.Division
import Ketabdaneh.Library.Python.Value

/-!
This module contains the hashing of passwords and the verification of access tokens. The libraries
are parameters: argon2-cffi, and PyJWT, which checks the signature and the registered claims.
-/

namespace Api

open Python Text

/-- What a call of the password library comes to, and how often it computed Argon2 over its memory. -/
structure Computed (α : Type) where
  value : α
  computations : Nat := 0

inductive VerifyError where
  | mismatch
  | other

abbrev Salt :=
  Fin (2 ^ 128)

/-- The hasher with its default parameters; `none` is an exception. -/
structure PasswordHasher where
  hash (salt : Salt) (password : Str) : Computed (Option Str)
  verify (passwordHash password : Str) : Computed (Except VerifyError Bool)
  checkNeedsRehash (passwordHash : Str) : Option Bool

def hashPassword (hasher : PasswordHasher) (salt : Salt) (password : Str) : Computed (Option Str) :=
  hasher.hash salt password

def verifyPassword (hasher : PasswordHasher) (passwordHash password : Str) : Computed Bool :=
  let verified := hasher.verify passwordHash password
  match verified.value with
  | .ok matched => { verified with value := matched }
  | .error .mismatch => { verified with value := false }
  -- a malformed hash, or a failed verification
  | .error .other => { verified with value := false }

def passwordNeedsRehash (hasher : PasswordHasher) (passwordHash : Str) : Option Bool :=
  hasher.checkNeedsRehash passwordHash

inductive JwtError where
  | pyJWTError
  | other

/-- PyJWT at the time of a request: the claims of a token. -/
structure PyJWT where
  decode (token key : Str) (algorithms require : List Str) : Except JwtError Dict

/-- PyJWT, and what it is when the clock reads so many seconds. -/
structure JwtCodec where
  encode (payload : Dict) (key algorithm : Str) : Except JwtError Str
  decoder (clock : Rat) : PyJWT

def JWT_ALGORITHMS : List Str :=
  [ofString "HS256"]

def SUBJECT_CLAIM : Str :=
  ofString "sub"

def TOKEN_TYPE_CLAIM : Str :=
  ofString "typ"

def ACCESS_TOKEN_TYPE : Str :=
  ofString "access"

def EXPIRY_CLAIM : Str :=
  ofString "exp"

inductive TokenError where
  | invalidToken
  | insecureSecret
  | other

def IAT_CLAIM : Str :=
  ofString "iat"

/-- The microseconds of `timedelta(minutes=minutes)`, if that is not too long. -/
def timedelta (minutes : Int) : Option Int :=
  let microseconds := minutes * 60000000
  let days := microseconds / 86400000000
  if -999999999 ≤ days ∧ days ≤ 999999999 then some microseconds else none

/-- `t.timestamp()`, by the microseconds of the instant. -/
def timestamp (microseconds : Int) : Rat :=
  trueDiv microseconds 1000000

def accessPayload (subject : Str) (iat exp : Int) : Dict where
  items := [(.str SUBJECT_CLAIM, .str subject), (.str TOKEN_TYPE_CLAIM, .str ACCESS_TOKEN_TYPE),
    (.str IAT_CLAIM, .int iat), (.str EXPIRY_CLAIM, .int exp)]
  wellFormed := rfl

/-- A token and the seconds it is for, at a time in microseconds. -/
def createAccessToken (jwt : JwtCodec) (now : Nat) (subject secretKey algorithm : Str)
    (expiresDelta : Int) : Except TokenError (Str × Int) :=
  match (DateTime.ofInstant (now + expiresDelta)).bind DateTime.instant with
  | none => .error .other
  | some expiresAt =>
    let payload := accessPayload subject (truncate (timestamp now)) (truncate (timestamp expiresAt))
    match jwt.encode payload secretKey algorithm with
    | .error _ => .error .other
    | .ok token => .ok (token, truncate (trueDiv expiresDelta 1000000))

def decodeAccessToken (jwt : PyJWT) (token secretKey algorithm : Str) : Except TokenError Str :=
  let algorithms := if algorithm ∈ JWT_ALGORITHMS then JWT_ALGORITHMS else [algorithm]
  match jwt.decode token secretKey algorithms [EXPIRY_CLAIM, SUBJECT_CLAIM] with
  | .error .pyJWTError => .error .invalidToken
  | .error .other => .error .other
  | .ok payload =>
    let type := (Value.get? payload.items TOKEN_TYPE_CLAIM).getD (.str ACCESS_TOKEN_TYPE)
    if !type.eq (.str ACCESS_TOKEN_TYPE) then
      -- a token of another type
      .error .invalidToken
    else
      match (Value.get? payload.items SUBJECT_CLAIM).getD .None with
      | .str subject => if subject = [] then .error .invalidToken else .ok subject
      | _ => .error .invalidToken

theorem algorithms_eq (algorithm : Str)
    : (if algorithm ∈ JWT_ALGORITHMS then JWT_ALGORITHMS else [algorithm]) = [algorithm] := by
  split
  . next h =>
    rw [JWT_ALGORITHMS, List.mem_singleton] at h
    rw [JWT_ALGORITHMS, h]
  . rfl

end Api
