import Ketabdaneh.Api.Accounts
import Ketabdaneh.Library.ReferenceTable

/-!
This module contains the migration that creates the tables of application roles and permissions and
seeds which role contains which permission.
-/

namespace Api

open Text

namespace Accounts

def applicationRoleTable (db : Accounts)
    : ReferenceTable ApplicationRole ApplicationRole.id ApplicationRole.code ApplicationRole.name where
  rows := db.applicationRoles.rows
  pk := db.applicationRoles.nodup
  uq_code := db.uq_application_roles_code
  uq_name := db.uq_application_roles_name

/-- PostgreSQL refuses where a row refers to an application role that is not there. -/
def withApplicationRoles (db : Accounts)
    (table : ReferenceTable ApplicationRole ApplicationRole.id ApplicationRole.code
      ApplicationRole.name)
    : Option Accounts :=
  if h : (∀ link ∈ db.applicationRolePermissions.rows,
        link.applicationRoleId ∈ table.rows.map ApplicationRole.id)
      ∧ ∀ grant ∈ db.userApplicationRoles.rows,
        grant.applicationRoleId ∈ table.rows.map ApplicationRole.id then
    some { db with
      applicationRoles := { rows := table.rows, nodup := table.pk }
      uq_application_roles_code := table.uq_code
      uq_application_roles_name := table.uq_name
      fk_application_role_permissions_application_role_id := h.1
      fk_user_application_roles_application_role_id := h.2
    }
  else
    none

theorem withApplicationRoles_eq_some {db db' : Accounts}
    {table : ReferenceTable ApplicationRole ApplicationRole.id ApplicationRole.code
      ApplicationRole.name}
    (h : db.withApplicationRoles table = some db')
    : db'.applicationRoleTable = table
        ∧ ∀ table', db'.withApplicationRoles table' = db.withApplicationRoles table' := by
  unfold withApplicationRoles at h
  split at h
  . rw [← Option.some.inj h]
    exact ⟨rfl, fun _ => rfl⟩
  . contradiction

def permissionTable (db : Accounts)
    : ReferenceTable Permission Permission.id Permission.code Permission.name where
  rows := db.permissions.rows
  pk := db.permissions.nodup
  uq_code := db.uq_permissions_code
  uq_name := db.uq_permissions_name

def withPermissions (db : Accounts)
    (table : ReferenceTable Permission Permission.id Permission.code Permission.name)
    : Option Accounts :=
  if h : ∀ link ∈ db.applicationRolePermissions.rows,
      link.permissionId ∈ table.rows.map Permission.id then
    some { db with
      permissions := { rows := table.rows, nodup := table.pk }
      uq_permissions_code := table.uq_code
      uq_permissions_name := table.uq_name
      fk_application_role_permissions_permission_id := h
    }
  else
    none

theorem withPermissions_eq_some {db db' : Accounts}
    {table : ReferenceTable Permission Permission.id Permission.code Permission.name}
    (h : db.withPermissions table = some db')
    : db'.permissionTable = table
        ∧ ∀ table', db'.withPermissions table' = db.withPermissions table' := by
  unfold withPermissions at h
  split at h
  . rw [← Option.some.inj h]
    exact ⟨rfl, fun _ => rfl⟩
  . contradiction

def applicationRolePart
    : ReferenceTable.Part Accounts ApplicationRole.id ApplicationRole.code ApplicationRole.name where
  get := applicationRoleTable
  set := withApplicationRoles
  get_set := by
    intro db db' table h
    exact (withApplicationRoles_eq_some h).1
  set_get := by
    intro db
    unfold withApplicationRoles
    exact dif_pos ⟨db.fk_application_role_permissions_application_role_id,
      db.fk_user_application_roles_application_role_id⟩
  set_set := by
    intro db db' table table' h
    exact (withApplicationRoles_eq_some h).2 table'
  isSome_set := by
    intro db table hrows
    have hids := List.map_subset ApplicationRole.id hrows
    unfold withApplicationRoles
    rw [dif_pos]
    . rfl
    . constructor
      . intro link hlink
        exact hids (db.fk_application_role_permissions_application_role_id link hlink)
      . intro grant hgrant
        exact hids (db.fk_user_application_roles_application_role_id grant hgrant)

def permissionPart
    : ReferenceTable.Part Accounts Permission.id Permission.code Permission.name where
  get := permissionTable
  set := withPermissions
  get_set := by
    intro db db' table h
    exact (withPermissions_eq_some h).1
  set_get := by
    intro db
    unfold withPermissions
    exact dif_pos db.fk_application_role_permissions_permission_id
  set_set := by
    intro db db' table table' h
    exact (withPermissions_eq_some h).2 table'
  isSome_set := by
    intro db table hrows
    unfold withPermissions
    rw [dif_pos]
    . rfl
    . intro link hlink
      exact List.map_subset Permission.id hrows
        (db.fk_application_role_permissions_permission_id link hlink)

/-- `INSERT … ON CONFLICT (application_role_id, permission_id) DO NOTHING`. -/
def insertApplicationRolePermissions (db : Accounts) (links : List ApplicationRolePermission)
    : Option Accounts :=
  let table := db.applicationRolePermissions.insertMissing links
  if h : (∀ link ∈ table.rows,
        link.applicationRoleId ∈ db.applicationRoles.rows.map ApplicationRole.id)
      ∧ ∀ link ∈ table.rows, link.permissionId ∈ db.permissions.rows.map Permission.id then
    some { db with
      applicationRolePermissions := table
      fk_application_role_permissions_application_role_id := h.1
      fk_application_role_permissions_permission_id := h.2
    }
  else
    none

end Accounts

def SEED_APPLICATION_ROLES : List ApplicationRole :=
  [
    ⟨0xd4a1f2b3_7c8e_4f5a_9b0c_1e2d3f4a5b6c, ofString "admin", ofString "Administrator"⟩,
    ⟨0xe5b2a3c4_8d9f_4a6b_8c1d_2f3a4b5c6d7e, ofString "manager", ofString "Manager"⟩,
    ⟨0xf6c3b4d5_9e0a_4b7c_9d2e_3a4b5c6d7e8f, ofString "operator", ofString "Operator"⟩
  ]

def SEED_PERMISSIONS : List Permission :=
  [
    ⟨0xb1d2e3f4_5a6b_4c7d_8e9f_0a1b2c3d4e5f, ofString "roles:read",
      ofString "Read reference roles"⟩,
    ⟨0xc2e3f4a5_6b7c_4d8e_9f0a_1b2c3d4e5f6a, ofString "people:read", ofString "Read people"⟩,
    ⟨0xd3f4a5b6_7c8d_4e9f_0a1b_2c3d4e5f6a7b, ofString "people:create", ofString "Create people"⟩,
    ⟨0xe4a5b6c7_8d9e_4f0a_1b2c_3d4e5f6a7b8c, ofString "events:read", ofString "Read events"⟩,
    ⟨0xf5b6c7d8_9e0a_4a1b_2c3d_4e5f6a7b8c9d, ofString "events:create", ofString "Create events"⟩,
    ⟨0xa6c7d8e9_0f1a_4b2c_3d4e_5f6a7b8c9d0e, ofString "assignments:read",
      ofString "Read event assignments"⟩,
    ⟨0xb7d8e9f0_1a2b_4c3d_4e5f_6a7b8c9d0e1f, ofString "assignments:create",
      ofString "Create event assignments"⟩
  ]

def SEED_APPLICATION_ROLE_PERMISSIONS : List ApplicationRolePermission :=
  [
    -- admin
    ⟨0xd4a1f2b3_7c8e_4f5a_9b0c_1e2d3f4a5b6c, 0xb1d2e3f4_5a6b_4c7d_8e9f_0a1b2c3d4e5f⟩,
    ⟨0xd4a1f2b3_7c8e_4f5a_9b0c_1e2d3f4a5b6c, 0xc2e3f4a5_6b7c_4d8e_9f0a_1b2c3d4e5f6a⟩,
    ⟨0xd4a1f2b3_7c8e_4f5a_9b0c_1e2d3f4a5b6c, 0xd3f4a5b6_7c8d_4e9f_0a1b_2c3d4e5f6a7b⟩,
    ⟨0xd4a1f2b3_7c8e_4f5a_9b0c_1e2d3f4a5b6c, 0xe4a5b6c7_8d9e_4f0a_1b2c_3d4e5f6a7b8c⟩,
    ⟨0xd4a1f2b3_7c8e_4f5a_9b0c_1e2d3f4a5b6c, 0xf5b6c7d8_9e0a_4a1b_2c3d_4e5f6a7b8c9d⟩,
    ⟨0xd4a1f2b3_7c8e_4f5a_9b0c_1e2d3f4a5b6c, 0xa6c7d8e9_0f1a_4b2c_3d4e_5f6a7b8c9d0e⟩,
    ⟨0xd4a1f2b3_7c8e_4f5a_9b0c_1e2d3f4a5b6c, 0xb7d8e9f0_1a2b_4c3d_4e5f_6a7b8c9d0e1f⟩,
    -- manager
    ⟨0xe5b2a3c4_8d9f_4a6b_8c1d_2f3a4b5c6d7e, 0xb1d2e3f4_5a6b_4c7d_8e9f_0a1b2c3d4e5f⟩,
    ⟨0xe5b2a3c4_8d9f_4a6b_8c1d_2f3a4b5c6d7e, 0xc2e3f4a5_6b7c_4d8e_9f0a_1b2c3d4e5f6a⟩,
    ⟨0xe5b2a3c4_8d9f_4a6b_8c1d_2f3a4b5c6d7e, 0xd3f4a5b6_7c8d_4e9f_0a1b_2c3d4e5f6a7b⟩,
    ⟨0xe5b2a3c4_8d9f_4a6b_8c1d_2f3a4b5c6d7e, 0xe4a5b6c7_8d9e_4f0a_1b2c_3d4e5f6a7b8c⟩,
    ⟨0xe5b2a3c4_8d9f_4a6b_8c1d_2f3a4b5c6d7e, 0xf5b6c7d8_9e0a_4a1b_2c3d_4e5f6a7b8c9d⟩,
    ⟨0xe5b2a3c4_8d9f_4a6b_8c1d_2f3a4b5c6d7e, 0xa6c7d8e9_0f1a_4b2c_3d4e_5f6a7b8c9d0e⟩,
    ⟨0xe5b2a3c4_8d9f_4a6b_8c1d_2f3a4b5c6d7e, 0xb7d8e9f0_1a2b_4c3d_4e5f_6a7b8c9d0e1f⟩,
    -- operator
    ⟨0xf6c3b4d5_9e0a_4b7c_9d2e_3a4b5c6d7e8f, 0xb1d2e3f4_5a6b_4c7d_8e9f_0a1b2c3d4e5f⟩,
    ⟨0xf6c3b4d5_9e0a_4b7c_9d2e_3a4b5c6d7e8f, 0xc2e3f4a5_6b7c_4d8e_9f0a_1b2c3d4e5f6a⟩,
    ⟨0xf6c3b4d5_9e0a_4b7c_9d2e_3a4b5c6d7e8f, 0xe4a5b6c7_8d9e_4f0a_1b2c_3d4e5f6a7b8c⟩,
    ⟨0xf6c3b4d5_9e0a_4b7c_9d2e_3a4b5c6d7e8f, 0xf5b6c7d8_9e0a_4a1b_2c3d_4e5f6a7b8c9d⟩,
    ⟨0xf6c3b4d5_9e0a_4b7c_9d2e_3a4b5c6d7e8f, 0xa6c7d8e9_0f1a_4b2c_3d4e_5f6a7b8c9d0e⟩,
    ⟨0xf6c3b4d5_9e0a_4b7c_9d2e_3a4b5c6d7e8f, 0xb7d8e9f0_1a2b_4c3d_4e5f_6a7b8c9d0e1f⟩
  ]

/-- The three inserts, in the one transaction of the migration. -/
def insertSeedAuthorizationData (db : Accounts) : Option Accounts := do
  let db ← Accounts.applicationRolePart.insertAll? SEED_APPLICATION_ROLES db
  let db ← Accounts.permissionPart.insertAll? SEED_PERMISSIONS db
  db.insertApplicationRolePermissions SEED_APPLICATION_ROLE_PERMISSIONS

/-- The users before there are any roles to grant to them. -/
structure Users where
  users : Table User User.id := {}
  uq_users_username : (users.rows.map User.username).Nodup := by simp

/-- The tables are created empty. -/
def Users.withAuthorizationTables (db : Users) : Accounts where
  users := db.users
  applicationRoles := Table.empty
  permissions := Table.empty
  applicationRolePermissions := Table.empty
  userApplicationRoles := Table.empty
  uq_users_username := db.uq_users_username
  uq_application_roles_code := List.nodup_nil
  uq_application_roles_name := List.nodup_nil
  uq_permissions_code := List.nodup_nil
  uq_permissions_name := List.nodup_nil
  fk_application_role_permissions_application_role_id := List.forall_mem_nil _
  fk_application_role_permissions_permission_id := List.forall_mem_nil _
  fk_user_application_roles_user_id := List.forall_mem_nil _
  fk_user_application_roles_application_role_id := List.forall_mem_nil _

namespace ApplicationAuthorization

def upgrade (db : Users) : Option Accounts :=
  insertSeedAuthorizationData db.withAuthorizationTables

/-- The four tables are dropped with all that is in them. -/
def downgrade (db : Accounts) : Users where
  users := db.users
  uq_users_username := db.uq_users_username

end ApplicationAuthorization

end Api
