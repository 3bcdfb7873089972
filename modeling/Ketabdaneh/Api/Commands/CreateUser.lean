import Ketabdaneh.Api.Commands.Console

/-!
This module contains the command that creates a user, who may be granted a role at once.
-/

namespace Api

namespace CreateUser

open Text Transaction Command

/-- The arguments, what is typed, what is drawn for the row, and which commits PostgreSQL takes. -/
structure Invocation where
  username : Str
  role : Option Str
  password : Option Str
  confirm : Option Str
  id : UUID
  salt : Salt
  commits : Bool
  commitsRole : Bool

variable (terminal : Terminal) (hasher : PasswordHasher) (args : Invocation)

/-- Before the password is asked for. -/
def validateRole : Command (Except Nat (Option ApplicationRole)) := do
  match args.role with
  | none => return .ok none
  | some code =>
    match ← terminal.call [code] [] (getApplicationRoleByCode code) with
    | none =>
      let roles ← terminal.listApplicationRoles
      fail (unknownApplicationRoleText code roles) 1
    | some role => return .ok (some role)

def create (role : Option ApplicationRole) (password : Str)
    : Command (Except Nat (User × Option ApplicationRole)) := do
  let user ← terminal.call [normalizeUsername args.username] password
    (createUser hasher args.salt args.commits args.username password true args.id)
  match role with
  | none => return .ok (user, none)
  | some role =>
    let _ ← terminal.call [normalizeUsername args.username, role.code] []
      (assignApplicationRole args.username role.code args.commitsRole)
    return .ok (user, some role)

def prompt (role : Option ApplicationRole) : Command (Except Nat (User × Option ApplicationRole)) := do
  let password ←
    getpass (ofString "Password for " ++ terminal.repr args.username ++ ofString ": ") args.password
  let confirm ← getpass (ofString "Confirm password: ") args.confirm
  if password ≠ confirm then
    fail (ofString "Passwords do not match.") 1
  else
    create terminal hasher args role password

def body : Command (Except Nat (User × Option ApplicationRole)) := do
  match ← validateRole terminal args with
  | .error status => return .error status
  | .ok role => prompt terminal hasher args role

/-- What the command prints is who was created, not the password or its hash. -/
def finish : Except Nat (User × Option ApplicationRole) → Command Nat
  | .error status => return status
  | .ok (user, role) => do
    let suffix := match role with
      | some role => ofString " (role: " ++ role.code ++ ofString ")"
      | none => []
    tell (.stdout (ofString "Created user " ++ terminal.repr user.username ++ ofString " (id="
      ++ Python.uuidText user.id ++ ofString ", active="
      ++ ofString (if user.active then "True" else "False") ++ ofString ")" ++ suffix))
    return 0

def caught (e : CommandError) : Command Nat :=
  match e with
  | .service (.usernameTaken username) => do
    tell (.stderr (ofString "Username already exists: " ++ username))
    return 1
  | e =>
    -- a `PasswordPolicyError` and a `RoleAlreadyGrantedError` are written as any other `ValueError`
    match e.valueError? with
    | some text => do
      tell (.stderr text)
      return 1
    | none => .throw e

def main : Command Nat :=
  (body terminal hasher args).handle id (finish terminal) caught

end CreateUser

end Api
