import Ketabdaneh.Api.Services.Authz

/-!
This module contains calls of the services for users and grants, each in a session of its own, made
one after the other.
-/

namespace Api

open Text

/-- A call, with what is drawn for its row and whether PostgreSQL takes its commit. -/
inductive AccountCall where
  | createUser (username password : Str) (active : Bool) (id : UUID) (salt : Salt) (commits : Bool)
  | assignApplicationRole (username roleCode : Str) (commits : Bool)

namespace AccountCall

variable (hasher : PasswordHasher)

def service : AccountCall → AccountService User
  | createUser username password active id salt commits =>
    Api.createUser hasher salt commits username password active id
  | assignApplicationRole username roleCode commits =>
    Api.assignApplicationRole username roleCode commits

def perform (db : Accounts) (call : AccountCall)
    : Transaction.Result Accounts Work AccountError User :=
  Transaction.call accountSchema.apply db (call.service hasher)

def after (db : Accounts) (call : AccountCall) : Accounts :=
  (call.perform hasher db).store

end AccountCall

def Accounts.afterAll (hasher : PasswordHasher) (db : Accounts) (calls : List AccountCall)
    : Accounts :=
  calls.foldl (AccountCall.after hasher) db

end Api
