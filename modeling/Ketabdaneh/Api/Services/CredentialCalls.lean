import Ketabdaneh.Api.Services.Auth

/-!
This module contains calls that create users and log them in, each in a session of its own, made one
after the other.
-/

namespace Api

open Text

/-- A call, with what is drawn for its row and whether PostgreSQL takes its commit. -/
inductive CredentialCall where
  | createUser (username password : Str) (active : Bool) (id : UUID) (salt : Salt) (commits : Bool)
  | authenticate (settings : AuthSettings) (username password : Str) (salt : Salt) (commits : Bool)

/-- What a user was created with. -/
structure Credential where
  username : Str
  password : Str
  active : Bool
  deriving DecidableEq

namespace CredentialCall

variable (hasher : PasswordHasher)

def service : CredentialCall → AccountService User
  | createUser username password active id salt commits =>
    Api.createUser hasher salt commits username password active id
  | authenticate settings username password salt commits =>
    Api.authenticate hasher salt commits settings username password

def perform (db : Accounts) (call : CredentialCall)
    : Transaction.Result Accounts Work AccountError User :=
  Transaction.call accountSchema.apply db (call.service hasher)

def after (db : Accounts) (call : CredentialCall) : Accounts :=
  (call.perform hasher db).store

def created (db : Accounts) (call : CredentialCall) : List Credential :=
  match call with
  | createUser username password active _ _ _ =>
    match (call.perform hasher db).outcome with
    | .ok _ => [⟨username, password, active⟩]
    | .error _ => []
  | authenticate .. => []

end CredentialCall

namespace Accounts

def afterCredentials (hasher : PasswordHasher) (db : Accounts) (calls : List CredentialCall)
    : Accounts :=
  calls.foldl (CredentialCall.after hasher) db

/-- What the calls have created, from first to last. -/
def credentials (hasher : PasswordHasher) (db : Accounts) : List CredentialCall → List Credential
  | [] => []
  | call :: calls => call.created hasher db ++ credentials hasher (call.after hasher db) calls

/-- The credentials are accepted, where the database takes the commit of a new hash. -/
def Authenticates (hasher : PasswordHasher) (db : Accounts) (settings : AuthSettings) (salt : Salt)
    (username password : Str) : Prop :=
  ∃ user, ((CredentialCall.authenticate settings username password salt true).perform hasher
    db).outcome = .ok user

end Accounts

end Api
