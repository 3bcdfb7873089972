import Ketabdaneh.Api.Services.Auth

namespace Api

open Text Transaction

def userPermissionCodes (db : Accounts) (user : User) : List Str :=
  db.permissions.rows.flatMap fun permission =>
    (db.applicationRolePermissions.rows.filter fun link =>
      link.permissionId = permission.id).flatMap fun link =>
        (db.userApplicationRoles.rows.filter fun grant =>
          grant.applicationRoleId = link.applicationRoleId && grant.userId = user.id).map fun _ =>
            permission.code

def userHasPermission (db : Accounts) (user : User) (permission : Str) : Bool :=
  permission ∈ userPermissionCodes db user

section

open AccountService

def getApplicationRoleByCode (code : Str) : AccountService (Option ApplicationRole) :=
  scalar [code] fun db => db.roleCoded? code

def assignApplicationRole (username roleCode : Str) (commits : Bool) : AccountService User := do
  let canonical := normalizeUsername username
  let found ← scalar [canonical] fun db => db.userNamed? canonical
  match found with
  | none => .throw (.userNotFound username)
  | some user =>
    match ← getApplicationRoleByCode roleCode with
    | none => .throw (.unknownApplicationRole roleCode)
    | some role =>
      let grant : UserApplicationRole := ⟨user.id, role.id⟩
      match ← scalar [] fun db => db.userApplicationRoles.get? grant.key with
      | some _ => .throw (.roleAlreadyGranted canonical roleCode)
      | none =>
        add (.newGrant grant)
        commit commits
        return user

end

end Api
