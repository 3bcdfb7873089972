import Ketabdaneh.Api.Alembic.Lemmas.AuthorizationSeeds
import Ketabdaneh.Api.Routes.Lemmas.Guarded
import Ketabdaneh.Api.Routes.Lemmas.LaterReads

/-!
This module contains what a user may do on a migrated database, whatever users, hashes and grants have
been written since.
-/

namespace Api

open Text Transaction

/-- Administrators and managers may do everything, operators all but create people. -/
def allows (roleCode permission : Str) : Bool :=
  permission ∈ ALL_PERMISSION_CODES
    && (roleCode = ofString "admin" || roleCode = ofString "manager"
      || roleCode = ofString "operator" && permission ≠ PEOPLE_CREATE)

theorem allows_of_seedLink : ∀ role ∈ SEED_APPLICATION_ROLES, ∀ permission ∈ SEED_PERMISSIONS,
    ApplicationRolePermission.key ⟨role.id, permission.id⟩
        ∈ SEED_APPLICATION_ROLE_PERMISSIONS.map ApplicationRolePermission.key →
      allows role.code permission.code = true := by
  decide

theorem seedLink_of_allows : ∀ role ∈ SEED_APPLICATION_ROLES, ∀ code ∈ ALL_PERMISSION_CODES,
    allows role.code code = true → ∃ permission ∈ SEED_PERMISSIONS, permission.code = code
      ∧ ApplicationRolePermission.key ⟨role.id, permission.id⟩
        ∈ SEED_APPLICATION_ROLE_PERMISSIONS.map ApplicationRolePermission.key := by
  decide

theorem mem_links_iff {links : List ApplicationRolePermission} {link : ApplicationRolePermission}
    : link ∈ links ↔ link.key ∈ links.map ApplicationRolePermission.key := by
  constructor
  . exact List.mem_map_of_mem
  . intro h
    rw [List.mem_map] at h
    rcases h with ⟨other, hother, heq⟩
    rwa [← Accounts.key_injective heq]

namespace Users

/-- The tables that have just been created admit the seeds. -/
theorem exists_upgrade (users : Users)
    : ∃ db, ApplicationAuthorization.upgrade users = some db
        ∧ users.withAuthorizationTables.Seeded db := by
  have hadmits : users.withAuthorizationTables.Admits := by
    constructor
    . intro role _
      exact ⟨fun h => absurd h List.not_mem_nil, fun _ => ⟨List.not_mem_nil, List.not_mem_nil⟩⟩
    . intro permission _
      exact ⟨fun h => absurd h List.not_mem_nil, fun _ => ⟨List.not_mem_nil, List.not_mem_nil⟩⟩
  rcases Accounts.exists_insertSeedAuthorizationData.mpr hadmits with ⟨db, h⟩
  exact ⟨db, h, Accounts.seeded_of_insert h⟩

variable {users : Users} {db db' : Accounts}

/-- Roles, permissions and what contains what are the seeds, and no others. -/
structure Migrated (db : Accounts) : Prop where
  applicationRoles : ∀ role, role ∈ db.applicationRoles.rows ↔ role ∈ SEED_APPLICATION_ROLES
  permissions : ∀ permission, permission ∈ db.permissions.rows ↔ permission ∈ SEED_PERMISSIONS
  applicationRolePermissions : ∀ link, link ∈ db.applicationRolePermissions.rows ↔
    link ∈ SEED_APPLICATION_ROLE_PERMISSIONS

theorem migrated_of_seeded (h : users.withAuthorizationTables.Seeded db) : Migrated db where
  applicationRoles role := by
    rw [h.applicationRoles]
    simp [withAuthorizationTables]
  permissions permission := by
    rw [h.permissions]
    simp [withAuthorizationTables]
  applicationRolePermissions link := by
    rw [h.applicationRolePermissions]
    simp [withAuthorizationTables]

theorem Migrated.extends (h : Migrated db) (hle : db.Extends db') : Migrated db' where
  applicationRoles role := by rw [hle.applicationRoles, h.applicationRoles]
  permissions permission := by rw [hle.permissions, h.permissions]
  applicationRolePermissions link := by
    rw [hle.applicationRolePermissions, h.applicationRolePermissions]

theorem Migrated.userHasPermission (h : Migrated db) (user : User) (permission : Str)
    : Api.userHasPermission db user permission = true
        ↔
      ∃ role ∈ SEED_APPLICATION_ROLES, ⟨user.id, role.id⟩ ∈ db.userApplicationRoles.rows
        ∧ allows role.code permission = true := by
  rw [userHasPermission_iff]
  constructor
  . rintro ⟨role, hrole, hgrant, held, hheld, hlink, hcode⟩
    rw [h.applicationRoles] at hrole
    rw [h.permissions] at hheld
    rw [h.applicationRolePermissions, mem_links_iff] at hlink
    refine ⟨role, hrole, hgrant, ?_⟩
    rw [← hcode]
    exact allows_of_seedLink role hrole held hheld hlink
  . rintro ⟨role, hrole, hgrant, hallows⟩
    have hcode : permission ∈ ALL_PERMISSION_CODES := by
      unfold allows at hallows
      rw [Bool.and_eq_true, decide_eq_true_iff] at hallows
      exact hallows.1
    rcases seedLink_of_allows role hrole permission hcode hallows with ⟨held, hheld, hheldCode, hlink⟩
    refine ⟨role, (h.applicationRoles role).mpr hrole, hgrant, held, (h.permissions held).mpr hheld,
      ?_, hheldCode⟩
    rw [h.applicationRolePermissions, mem_links_iff]
    exact hlink

theorem downgrade_of_seeded (h : users.withAuthorizationTables.Seeded db)
    : ApplicationAuthorization.downgrade db = users := by
  cases users
  unfold ApplicationAuthorization.downgrade
  congr 1
  exact h.users

end Users

namespace Accounts

/-- Writes that are taken one after the other, or refused. -/
def writeAll (db : Accounts) (writes : List AccountWrite) : Accounts :=
  writes.foldl (fun db write => (write.apply db).toOption.getD db) db

theorem extends_writeAll (db : Accounts) (writes : List AccountWrite)
    : db.Extends (db.writeAll writes) := by
  induction writes generalizing db with
  | nil => exact .refl db
  | cons write writes ih =>
    refine Accounts.Extends.trans ?_ (ih _)
    dsimp only
    cases h : write.apply db with
    | ok db' => exact AccountWrite.extends_of_apply h
    | error e => exact .refl db

end Accounts

/-- The migration can always be made, and from then on it is the granted roles that permit. -/
theorem upgrade_authorizes (users : Users)
    : ∃ db, ApplicationAuthorization.upgrade users = some db
        ∧ ApplicationAuthorization.downgrade db = users
        ∧ ∀ writes user permission,
          userHasPermission (db.writeAll writes) user permission = true
            ↔
          ∃ role ∈ SEED_APPLICATION_ROLES,
            ⟨user.id, role.id⟩ ∈ (db.writeAll writes).userApplicationRoles.rows
              ∧ allows role.code permission = true := by
  rcases users.exists_upgrade with ⟨db, hupgrade, hseeded⟩
  refine ⟨db, hupgrade, Users.downgrade_of_seeded hseeded, ?_⟩
  intro writes user permission
  have hmigrated := (Users.migrated_of_seeded hseeded).extends (db.extends_writeAll writes)
  exact hmigrated.userHasPermission user permission

theorem role_of_answered {ι : Type} [Fintype ι] [DecidableEq ι] {deployment : Deployment}
    {requests : ι → ProtectedRequest} {data : Data} {schedule : List (Action ι AccountWrite)}
    {w : System ι Data NewRow Empty Raised Response} (h : Users.Migrated data.accounts)
    (hrun : serve deployment requests data schedule = some w) {i : ι} {response : Response}
    (hresponse : (w.sessions i).outcome = some (.ok response))
    : ∃ user, getCurrentUser (requests i).jwt (requests i).settings
            (deployment.httpBearer (requests i).header) w.store.accounts = .ok user
        ∧ ∃ role ∈ SEED_APPLICATION_ROLES,
          ⟨user.id, role.id⟩ ∈ w.store.accounts.userApplicationRoles.rows
            ∧ allows role.code (requests i).operation.permission = true := by
  have hpermitted := permitted_of_answered hrun hresponse
  rw [ProtectedRequest.permitted_iff] at hpermitted
  rcases hpermitted with ⟨user, hcheck⟩
  have hle : data.accounts.Extends w.store.accounts := by
    rcases linearizable_serve hrun with ⟨order, hlinearizes, _⟩
    rw [(serializes_of_linearizes hlinearizes).store]
    exact (le_afterAll deployment requests data order).1
  unfold ProtectedRequest.check requirePermission at hcheck
  cases huser : getCurrentUser (requests i).jwt (requests i).settings
    (deployment.httpBearer (requests i).header) w.store.accounts with
  | error e =>
    rw [huser] at hcheck
    injection hcheck
  | ok current =>
    rw [huser] at hcheck
    simp only [bind, Except.bind] at hcheck
    split at hcheck
    . next hholds =>
      exact ⟨current, rfl, ((h.extends hle).userHasPermission current _).mp hholds⟩
    . injection hcheck

/-- On a migrated database a request is answered only to a user with a role that allows it. -/
theorem serve_on_migrated {ι : Type} [Fintype ι] [DecidableEq ι] (users : Users) {accounts : Accounts}
    (hupgrade : ApplicationAuthorization.upgrade users = some accounts) (deployment : Deployment)
    (requests : ι → ProtectedRequest) (database : Database) {schedule : List (Action ι AccountWrite)}
    {w : System ι Data NewRow Empty Raised Response}
    (hrun : serve deployment requests ⟨accounts, database⟩ schedule = some w) {i : ι}
    {response : Response} (hresponse : (w.sessions i).outcome = some (.ok response))
    : ∃ user, getCurrentUser (requests i).jwt (requests i).settings
            (deployment.httpBearer (requests i).header) w.store.accounts = .ok user
        ∧ ∃ role ∈ SEED_APPLICATION_ROLES,
          ⟨user.id, role.id⟩ ∈ w.store.accounts.userApplicationRoles.rows
            ∧ allows role.code (requests i).operation.permission = true := by
  have hseeded : users.withAuthorizationTables.Seeded (Data.mk accounts database).accounts :=
    Accounts.seeded_of_insert hupgrade
  exact role_of_answered (Users.migrated_of_seeded hseeded) hrun hresponse

section

def operatorOnly : Users where
  users := registrars.accounts.users
  uq_users_username := registrars.accounts.uq_users_username

theorem isSome_upgrade_operatorOnly
    : (ApplicationAuthorization.upgrade operatorOnly).isSome = true := by decide +kernel

def migratedAccounts : Accounts :=
  (ApplicationAuthorization.upgrade operatorOnly).get isSome_upgrade_operatorOnly

def postsOpening (_ : Unit) : ProtectedRequest :=
  byOperator (.createEvent (openingDay.get isSome_openingDay) 7 true)

/-- The operator is granted the role of operators, and creates an event. -/
def grantedThenPosted : List (Action Unit AccountWrite) :=
  [.change (.newGrant ⟨1, 0xf6c3b4d5_9e0a_4b7c_9d2e_3a4b5c6d7e8f⟩), .statement (), .statement (),
    .statement (), .statement ()]

theorem serve_on_migrated_operatorOnly :
    ∃ w response, serve plainDeployment postsOpening ⟨migratedAccounts, bareDatabase⟩ grantedThenPosted
          = some w
      ∧ (w.sessions ()).outcome = some (.ok response)
      ∧ ∃ user, getCurrentUser operatorJwt operatorSettings
            (plainBearer (postsOpening ()).header) w.store.accounts = .ok user
        ∧ ∃ role ∈ SEED_APPLICATION_ROLES,
          ⟨user.id, role.id⟩ ∈ w.store.accounts.userApplicationRoles.rows
            ∧ allows role.code EVENTS_CREATE = true := by
  have hanswered : ((serve plainDeployment postsOpening ⟨migratedAccounts, bareDatabase⟩
      grantedThenPosted).any fun w => answersEvent 7 (w.sessions ()).outcome) = true := by
    decide +kernel
  rw [Option.any_eq_true] at hanswered
  rcases hanswered with ⟨w, hw, hanswer⟩
  rcases exists_of_answersEvent hanswer with ⟨status, row, hresponse, _⟩
  have hupgrade : ApplicationAuthorization.upgrade operatorOnly = some migratedAccounts :=
    (Option.some_get isSome_upgrade_operatorOnly).symm
  exact ⟨w, _, hw, hresponse,
    serve_on_migrated operatorOnly hupgrade plainDeployment postsOpening bareDatabase hw hresponse⟩

end

end Api
