import Ketabdaneh.Api.Database
import Ketabdaneh.Library.ReferenceTable

/-!
This module contains the migrations that seed the roles and the responsibilities.
-/

namespace Api

open Text

namespace Database

def roleTable (db : Database) : ReferenceTable Role Role.id Role.code Role.name where
  rows := db.roles.rows
  pk := db.roles.nodup
  uq_code := db.uq_roles_code
  uq_name := db.uq_roles_name

/-- PostgreSQL refuses where a row refers to a role that is not there. -/
def withRoles (db : Database) (table : ReferenceTable Role Role.id Role.code Role.name)
    : Option Database :=
  if h : ∀ link ∈ db.personRoles.rows, link.roleId ∈ table.rows.map Role.id then
    some { db with
      roles := { rows := table.rows, nodup := table.pk }
      uq_roles_code := table.uq_code
      uq_roles_name := table.uq_name
      fk_person_roles_role_id := h
    }
  else
    none

theorem withRoles_eq_some {db db' : Database}
    {table : ReferenceTable Role Role.id Role.code Role.name}
    (h : db.withRoles table = some db')
    : db'.roleTable = table ∧ ∀ table', db'.withRoles table' = db.withRoles table' := by
  unfold withRoles at h
  split at h
  . rw [← Option.some.inj h]
    exact ⟨rfl, fun _ => rfl⟩
  . contradiction

def responsibilityTable (db : Database)
    : ReferenceTable EventResponsibility EventResponsibility.id EventResponsibility.code
        EventResponsibility.name where
  rows := db.responsibilities.rows
  pk := db.responsibilities.nodup
  uq_code := db.uq_event_responsibilities_code
  uq_name := db.uq_event_responsibilities_name

def withResponsibilities (db : Database)
    (table : ReferenceTable EventResponsibility EventResponsibility.id EventResponsibility.code
      EventResponsibility.name)
    : Option Database :=
  if h : ∀ row ∈ db.eventAssignments.rows,
      row.responsibilityId ∈ table.rows.map EventResponsibility.id then
    some { db with
      responsibilities := { rows := table.rows, nodup := table.pk }
      uq_event_responsibilities_code := table.uq_code
      uq_event_responsibilities_name := table.uq_name
      fk_event_assignments_responsibility_id := h
    }
  else
    none

theorem withResponsibilities_eq_some {db db' : Database}
    {table : ReferenceTable EventResponsibility EventResponsibility.id EventResponsibility.code
      EventResponsibility.name}
    (h : db.withResponsibilities table = some db')
    : db'.responsibilityTable = table
        ∧ ∀ table', db'.withResponsibilities table' = db.withResponsibilities table' := by
  unfold withResponsibilities at h
  split at h
  . rw [← Option.some.inj h]
    exact ⟨rfl, fun _ => rfl⟩
  . contradiction

def rolePart : ReferenceTable.Part Database Role.id Role.code Role.name where
  get := roleTable
  set := withRoles
  get_set := by
    intro db db' table h
    exact (withRoles_eq_some h).1
  set_get := by
    intro db
    unfold withRoles
    exact dif_pos db.fk_person_roles_role_id
  set_set := by
    intro db db' table table' h
    exact (withRoles_eq_some h).2 table'
  isSome_set := by
    intro db table hrows
    unfold withRoles
    rw [dif_pos]
    . rfl
    . intro link hlink
      exact List.map_subset Role.id hrows (db.fk_person_roles_role_id link hlink)

def responsibilityPart : ReferenceTable.Part Database EventResponsibility.id
    EventResponsibility.code EventResponsibility.name where
  get := responsibilityTable
  set := withResponsibilities
  get_set := by
    intro db db' table h
    exact (withResponsibilities_eq_some h).1
  set_get := by
    intro db
    unfold withResponsibilities
    exact dif_pos db.fk_event_assignments_responsibility_id
  set_set := by
    intro db db' table table' h
    exact (withResponsibilities_eq_some h).2 table'
  isSome_set := by
    intro db table hrows
    unfold withResponsibilities
    rw [dif_pos]
    . rfl
    . intro row hrow
      exact List.map_subset EventResponsibility.id hrows
        (db.fk_event_assignments_responsibility_id row hrow)

end Database

structure Migration where
  upgrade : Database → Option Database
  downgrade : Database → Option Database

/-- The database after a migration's transaction, which is rolled back where the migration raises. -/
def transact (migration : Database → Option Database) (db : Database) : Database :=
  (migration db).getD db

def SEED_ROLES : List Role :=
  [
    ⟨0xa3f5c2e1_7b4d_4e8f_9c1a_2d6b8e4f0a71, ofString "learner", ofString "Learner / Student"⟩,
    ⟨0xb7e2d9a4_3c5f_4a1b_8d9e_6f0a2c4e6b83, ofString "supporter", ofString "Supporter"⟩,
    ⟨0xc9d4f1b5_2a6e_4c3d_9e8f_1b3d5f7a9c25, ofString "coach", ofString "Coach"⟩,
    ⟨0xd2b6a3c7_8e4f_4d2c_a1b9_3e5c7d9f1b47, ofString "teacher", ofString "Teacher"⟩,
    ⟨0xe5c8b1d9_4f7a_4e6c_b3d8_2f4a6c8e0d69, ofString "referrer", ofString "Referrer"⟩,
    ⟨0xf1d3e5a7_6b9c_4f8d_b2e4_4a6e8b0d2f8b, ofString "manager", ofString "Manager"⟩
  ]

def SEED_ROLE_IDS : List UUID :=
  SEED_ROLES.map Role.id

def insertSeedRoles (db : Database) : Option Database :=
  Database.rolePart.insertAll? SEED_ROLES db

/-- Only the rows that the migration owns are deleted, by id. -/
def deleteSeedRoles (db : Database) : Option Database :=
  Database.rolePart.delete SEED_ROLE_IDS db

def seedInitialRoles : Migration where
  upgrade := insertSeedRoles
  downgrade := deleteSeedRoles

structure SeedResponsibility where
  id : UUID
  code : Str
  name : Str

def SEED_RESPONSIBILITIES : List SeedResponsibility :=
  [
    ⟨0x3a1c5e7b_9d4f_4b6a_8e2c_7f0b4d6a2c84, ofString "pre_introduction",
      ofString "Pre-introduction"⟩,
    ⟨0x4b2d6f8c_0e5a_4c7b_9f3d_8a1c5e7b3d95, ofString "welcome_reception",
      ofString "Welcome / reception"⟩,
    ⟨0x5c3e7a9d_1f6b_4d8c_8a4e_9b2d6f8c4ea6, ofString "technique_execution",
      ofString "Technique execution"⟩,
    ⟨0x6d4f8bae_2a7c_4e9d_ab5f_ac3e7a9d5fb7, ofString "persuasion", ofString "Persuasion"⟩,
    ⟨0x7e5a9cbf_3b8d_4fae_bc6a_bd4f8bae6ac8, ofString "registration", ofString "Registration"⟩,
    ⟨0x8f6badc0_4c9e_4abf_cd7b_ce5a9cbf7bd9, ofString "follow_up", ofString "Follow-up"⟩
  ]

def SEED_RESPONSIBILITY_IDS : List UUID :=
  SEED_RESPONSIBILITIES.map SeedResponsibility.id

def SeedResponsibility.row (seed : SeedResponsibility) : EventResponsibility :=
  ⟨seed.id, seed.code, seed.name, true⟩

def insertSeedResponsibilities (db : Database) : Option Database :=
  let rows := SEED_RESPONSIBILITIES.map SeedResponsibility.row
  Database.responsibilityPart.insertAll? rows db

def deleteSeedResponsibilities (db : Database) : Option Database :=
  Database.responsibilityPart.delete SEED_RESPONSIBILITY_IDS db

def seedInitialResponsibilities : Migration where
  upgrade := insertSeedResponsibilities
  downgrade := deleteSeedResponsibilities

end Api
