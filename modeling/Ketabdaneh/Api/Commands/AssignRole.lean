import Ketabdaneh.Api.Commands.Console

/-!
This module contains the command that grants a role to a user, or lists who holds which.
-/

namespace Api

namespace AssignRole

open Text Transaction Command

/-- The arguments, and whether PostgreSQL takes the commit. -/
structure Invocation where
  list : Bool
  username : Option Str
  roleCode : Option Str
  commits : Bool

variable (terminal : Terminal)

/-- `f"{s:width}"` -/
def padEnd (width : Nat) (s : Str) : Str :=
  s ++ List.replicate (width - s.length) (cp ' ')

def holders (db : Accounts) (roleId : UUID) : List Str :=
  ((db.userApplicationRoles.rows.filter fun grant => grant.applicationRoleId = roleId).filterMap
    fun grant => (db.users.get? grant.userId).map User.username).mergeSort fun a b =>
      (terminal.collate a b).isLE

def roleLine (role : ApplicationRole) (holders : List Str) : Str :=
  let who := if holders = [] then ofString "(nobody)" else (ofString ", ").intercalate holders
  padEnd 10 role.code ++ ofString " " ++ padEnd 14 role.name ++ ofString " " ++ who

def printRoles : List ApplicationRole → Command Unit
  | [] => return
  | role :: roles => do
    let holders ← .query fun db => holders terminal db role.id
    tell (.stdout (roleLine role holders))
    printRoles roles

/-- List application roles and who currently holds them. -/
def printState : Command Unit := do
  let roles ← terminal.listApplicationRoles
  printRoles terminal roles

def grantedCodes (db : Accounts) (userId : UUID) : List Str :=
  ((db.userApplicationRoles.rows.filter fun grant => grant.userId = userId).filterMap
    fun grant => (db.applicationRoles.get? grant.applicationRoleId).map ApplicationRole.code).mergeSort
      fun a b => (terminal.collate a b).isLE

variable (args : Invocation)

/-- The user comes with all the roles held then. -/
def grant (username roleCode : Str) : Command (Except Nat (User × List Str)) := do
  let user ← terminal.call [normalizeUsername username, roleCode] []
    (assignApplicationRole username roleCode args.commits)
  let granted ← .query fun db => grantedCodes terminal db user.id
  return .ok (user, granted)

def body : Command (Except Nat (User × List Str)) := do
  if args.list then
    printState terminal
    return .error 0
  else
    let username := args.username.getD []
    let roleCode := args.roleCode.getD []
    if username = [] ∨ roleCode = [] then
      fail (ofString "Usage: python -m app.assign_role <username> <role_code> (or --list)") 2
    else
      grant terminal args username roleCode

def finish : Except Nat (User × List Str) → Command Nat
  | .error status => return status
  | .ok (user, granted) => do
    tell (.stdout (terminal.repr user.username ++ ofString " now holds: "
      ++ (ofString ", ").intercalate granted))
    return 0

def caught (e : CommandError) : Command Nat :=
  match e with
  | .service (.userNotFound username) => do
    tell (.stderr (ofString "User not found: " ++ username))
    return 1
  | .service (.unknownApplicationRole _) => do
    let roles ← terminal.listApplicationRoles
    tell (.stderr (unknownApplicationRoleText (args.roleCode.getD []) roles))
    return 1
  | .service (.roleAlreadyGranted username roleCode) => do
    tell (.stdout (ofString "Nothing to do — " ++ username ++ ofString " already has role "
      ++ roleCode ++ ofString "."))
    return 0
  | e => .throw e

def main : Command Nat :=
  (body terminal args).handle id (finish terminal) (caught terminal args)

end AssignRole

end Api
