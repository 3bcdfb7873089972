import Ketabdaneh.Api.Database

/-!
This module contains the tables for users and what they are allowed to do, with their constraints.
No other table refers to them.
-/

namespace Api

open Text

structure User where
  id : UUID
  username : Str
  passwordHash : Str
  active : Bool

structure ApplicationRole where
  id : UUID
  code : Str
  name : Str

structure Permission where
  id : UUID
  code : Str
  name : Str

structure ApplicationRolePermission where
  applicationRoleId : UUID
  permissionId : UUID

def ApplicationRolePermission.key (link : ApplicationRolePermission) : UUID × UUID :=
  (link.applicationRoleId, link.permissionId)

structure UserApplicationRole where
  userId : UUID
  applicationRoleId : UUID

def UserApplicationRole.key (grant : UserApplicationRole) : UUID × UUID :=
  (grant.userId, grant.applicationRoleId)

structure Accounts where
  users : Table User User.id := {}
  applicationRoles : Table ApplicationRole ApplicationRole.id
  permissions : Table Permission Permission.id
  applicationRolePermissions : Table ApplicationRolePermission ApplicationRolePermission.key
  userApplicationRoles : Table UserApplicationRole UserApplicationRole.key := {}
  uq_users_username : (users.rows.map User.username).Nodup := by simp
  uq_application_roles_code : (applicationRoles.rows.map ApplicationRole.code).Nodup
  uq_application_roles_name : (applicationRoles.rows.map ApplicationRole.name).Nodup
  uq_permissions_code : (permissions.rows.map Permission.code).Nodup
  uq_permissions_name : (permissions.rows.map Permission.name).Nodup
  fk_application_role_permissions_application_role_id :
    ∀ link ∈ applicationRolePermissions.rows,
      link.applicationRoleId ∈ applicationRoles.rows.map ApplicationRole.id
  fk_application_role_permissions_permission_id :
    ∀ link ∈ applicationRolePermissions.rows,
      link.permissionId ∈ permissions.rows.map Permission.id
  fk_user_application_roles_user_id :
    ∀ grant ∈ userApplicationRoles.rows, grant.userId ∈ users.rows.map User.id := by simp
  fk_user_application_roles_application_role_id :
    ∀ grant ∈ userApplicationRoles.rows,
      grant.applicationRoleId ∈ applicationRoles.rows.map ApplicationRole.id := by simp

end Api
