import Ketabdaneh.Api.Alembic.Seeds
import Ketabdaneh.Api.Services.Calls

/-!
This module contains what the seeding migrations do to a table in any state, that they are undone, and
that the services' calls can start from what they make of an empty database.
-/

namespace Api

open Text

section

variable {Row Key Code Name : Type} [DecidableEq Key] [DecidableEq Code] [DecidableEq Name]
  {key : Row → Key} {code : Row → Code} {name : Row → Name}

/-- What is asked of a migration that seeds a table, in any state of the database. -/
structure Seeds (part : ReferenceTable.Part Database key code name) (seeds : List Row)
    (migration : Migration) (db : Database) : Prop where
  /-- It raises exactly where a seed whose code is new has the key or the name of another row. -/
  raises : migration.upgrade db = none ↔
    ∃ seed ∈ seeds, code seed ∉ (part.get db).rows.map code
      ∧ (key seed ∈ (part.get db).rows.map key ∨ name seed ∈ (part.get db).rows.map name)
  unchanged : migration.upgrade db = none → transact migration.upgrade db = db
  adds : ∀ db', migration.upgrade db = some db' →
    (part.get db').rows
        =
      (part.get db).rows ++ seeds.filter (fun seed => code seed ∉ (part.get db).rows.map code)
      ∧ part.set db' (part.get db) = some db
  again :
    transact migration.upgrade (transact migration.upgrade db) = transact migration.upgrade db
  undone : (∀ row ∈ (part.get db).rows, key row ∉ seeds.map key) →
    migration.downgrade (transact migration.upgrade db) = some db

variable {part : ReferenceTable.Part Database key code name} {seeds : List Row}

theorem seeds_of_nodup (hkey : (seeds.map key).Nodup) (hcode : (seeds.map code).Nodup)
    (hname : (seeds.map name).Nodup) (db : Database)
    : Seeds part seeds ⟨part.insertAll? seeds, part.delete (seeds.map key)⟩ db := by
  have hupgrade : ∀ db', part.insertAll? seeds db = some db' →
      transact (part.insertAll? seeds) db = db' := by
    intro db' h
    unfold transact
    rw [h, Option.getD_some]
  have hraise : part.insertAll? seeds db = none → transact (part.insertAll? seeds) db = db := by
    intro h
    unfold transact
    rw [h, Option.getD_none]
  constructor
  case raises =>
    dsimp only
    rw [ReferenceTable.Part.insertAll?_eq_none hkey hcode hname]
    unfold ReferenceTable.missing ReferenceTable.Clashes
    simp only [List.mem_filter, decide_eq_true_iff, and_assoc]
  case unchanged => exact hraise
  case adds =>
    intro db' h
    refine ⟨ReferenceTable.Part.rows_of_insertAll? hkey hcode hname h, ?_⟩
    rw [ReferenceTable.Part.insertAll?_eq_some] at h
    rw [part.set_set _ h.2, part.set_get]
  case again =>
    dsimp only
    cases h : part.insertAll? seeds db with
    | none => rw [hraise h, hraise h]
    | some db' =>
      rw [hupgrade db' h]
      unfold transact
      rw [ReferenceTable.Part.insertAll?_again hkey hcode hname h, Option.getD_some]
  case undone =>
    intro hkeys
    dsimp only
    cases h : part.insertAll? seeds db with
    | none =>
      rw [hraise h]
      exact ReferenceTable.Part.delete_of_forall_ne hkeys
    | some db' =>
      rw [hupgrade db' h]
      exact ReferenceTable.Part.delete_of_insertAll? hkey hcode hname h hkeys

end

theorem Seed.exists_of_withRoles {seed : Seed}
    {table : ReferenceTable Role Role.id Role.code Role.name} {db : Database}
    (h : seed.database.withRoles table = some db) : ∃ migrated : Seed, migrated.database = db := by
  unfold Database.withRoles at h
  split at h
  . rw [← Option.some.inj h]
    exact ⟨{ seed with
      roles := ⟨table.rows, table.pk⟩
      uq_roles_code := table.uq_code
      uq_roles_name := table.uq_name }, rfl⟩
  . contradiction

theorem Seed.exists_of_withResponsibilities {seed : Seed}
    {table : ReferenceTable EventResponsibility EventResponsibility.id EventResponsibility.code
      EventResponsibility.name} {db : Database}
    (h : seed.database.withResponsibilities table = some db)
    : ∃ migrated : Seed, migrated.database = db := by
  unfold Database.withResponsibilities at h
  split at h
  . rw [← Option.some.inj h]
    exact ⟨{ seed with
      responsibilities := ⟨table.rows, table.pk⟩
      uq_event_responsibilities_code := table.uq_code
      uq_event_responsibilities_name := table.uq_name }, rfl⟩
  . contradiction

/-- Where nobody and no event is in the database there is none after the migrations. -/
theorem Seed.exists_of_upgrade {seed : Seed} {migration : Migration} {db : Database}
    (hmigration : migration ∈ [seedInitialRoles, seedInitialResponsibilities])
    (h : migration.upgrade seed.database = some db) : ∃ migrated : Seed, migrated.database = db := by
  rw [List.mem_pair] at hmigration
  cases hmigration with
  | inl hroles =>
    rw [hroles] at h
    exact exists_of_withRoles (ReferenceTable.Part.insertAll?_eq_some.mp h).2
  | inr hresponsibilities =>
    rw [hresponsibilities] at h
    exact exists_of_withResponsibilities (ReferenceTable.Part.insertAll?_eq_some.mp h).2

theorem initial_seeds (db : Database)
    : Seeds Database.rolePart SEED_ROLES seedInitialRoles db
        ∧ Seeds Database.responsibilityPart (SEED_RESPONSIBILITIES.map SeedResponsibility.row)
            seedInitialResponsibilities db := by
  constructor
  . apply seeds_of_nodup
    . decide
    . decide
    . decide
  . apply seeds_of_nodup
    . decide
    . decide
    . decide

end Api
