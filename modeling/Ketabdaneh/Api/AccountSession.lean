import Ketabdaneh.Api.Accounts
import Ketabdaneh.Api.Core.Security
import Ketabdaneh.Library.Transaction.Interleaving

/-!
This module contains the writes of the services for users and grants, and the sessions they run in.
-/

namespace Api

open Text Transaction

/--
What these services raise. `hashing` is anything the password library raises, and `database` anything
the driver or PostgreSQL raises.
-/
inductive AccountError where
  | emptyUsername
  | passwordPolicy
  | usernameTaken (username : Str)
  | authentication
  | insecureSecret
  | userNotFound (username : Str)
  | unknownApplicationRole (code : Str)
  | roleAlreadyGranted (username roleCode : Str)
  | hashing
  | database

inductive AccountWrite where
  | newUser (row : User)
  | newGrant (row : UserApplicationRole)
  | setPasswordHash (id : UUID) (passwordHash : Str)

/-- The work of a service that is not a statement: one computation of Argon2 over its memory. -/
inductive Work where
  | argon2

namespace Accounts

def userNamed? (db : Accounts) (username : Str) : Option User :=
  db.users.rows.find? fun user => user.username = username

def roleCoded? (db : Accounts) (code : Str) : Option ApplicationRole :=
  db.applicationRoles.rows.find? fun role => role.code = code

def insertUser (db : Accounts) (user : User) : Option Accounts :=
  match huser : db.users.insert? user with
  | some users =>
    if h : user.username ∉ db.users.rows.map User.username then
      some { db with
        users
        uq_users_username := by
          rw [Table.insert?_eq_some.mp huser, List.map_append, List.map_singleton,
            ← List.concat_eq_append]
          exact List.Nodup.concat h db.uq_users_username
        fk_user_application_roles_user_id := by
          intro grant hgrant
          exact Database.mem_map_of_append (Table.insert?_eq_some.mp huser)
            (db.fk_user_application_roles_user_id grant hgrant)
      }
    else
      none
  | none => none

def insertGrant (db : Accounts) (grant : UserApplicationRole) : Option Accounts :=
  match hgrant : db.userApplicationRoles.insert? grant with
  | some userApplicationRoles =>
    if h : grant.userId ∈ db.users.rows.map User.id
        ∧ grant.applicationRoleId ∈ db.applicationRoles.rows.map ApplicationRole.id then
      some { db with
        userApplicationRoles
        fk_user_application_roles_user_id := by
          rw [Table.insert?_eq_some.mp hgrant, List.forall_mem_append, List.forall_mem_singleton]
          exact ⟨db.fk_user_application_roles_user_id, h.1⟩
        fk_user_application_roles_application_role_id := by
          rw [Table.insert?_eq_some.mp hgrant, List.forall_mem_append, List.forall_mem_singleton]
          exact ⟨db.fk_user_application_roles_application_role_id, h.2⟩
      }
    else
      none
  | none => none

def setPasswordHash (db : Accounts) (id : UUID) (passwordHash : Str) : Accounts :=
  let change := fun (user : User) => if user.id = id then { user with passwordHash } else user
  have hchange : ∀ {α : Type} (f : User → α), (∀ user, f (change user) = f user) →
      (db.users.rows.map change).map f = db.users.rows.map f := by
    intro α f hf
    rw [List.map_map, show f ∘ change = f from funext hf]
  have hid : ∀ user, User.id (change user) = user.id := by
    intro user
    dsimp only [change]
    split
    . rfl
    . rfl
  { db with
    users := db.users.map change hid
    uq_users_username := by
      rw [Table.map, hchange]
      . exact db.uq_users_username
      . intro user
        dsimp only [change]
        split
        . rfl
        . rfl
    fk_user_application_roles_user_id := by
      rw [Table.map, hchange _ hid]
      exact db.fk_user_application_roles_user_id
  }

end Accounts

namespace AccountWrite

def texts : AccountWrite → List Str
  | .newUser row => [row.username, row.passwordHash]
  | .newGrant _ => []
  | .setPasswordHash _ passwordHash => [passwordHash]

def apply (db : Accounts) (write : AccountWrite) : Except AccountError Accounts :=
  if write.texts.all storable then
    match write with
    | .newUser row => (db.insertUser row).elim (.error .database) .ok
    | .newGrant row => (db.insertGrant row).elim (.error .database) .ok
    | .setPasswordHash id passwordHash =>
      -- an update that matches no row is an error of the session
      if id ∈ db.users.rows.map User.id then
        .ok (db.setPasswordHash id passwordHash)
      else
        .error .database
  else
    .error .database

/-- Two writes of one unique key, or of one row. -/
def conflicts : AccountWrite → AccountWrite → Bool
  | .newUser row, .newUser other => row.id = other.id || row.username = other.username
  | .newGrant row, .newGrant other => row.key = other.key
  | .setPasswordHash id _, .setPasswordHash other _ => id = other
  | _, _ => false

end AccountWrite

def accountSchema : Schema Accounts AccountWrite AccountError where
  apply := AccountWrite.apply
  conflicts := AccountWrite.conflicts

abbrev AccountService :=
  Program Accounts AccountWrite Work AccountError

namespace AccountService

/-- `db.scalar(select(…))`, with the texts it sends. -/
def scalar {α : Type} (texts : List Str) (select : Accounts → Option α)
    : AccountService (Option α) :=
  if texts.all storable then .query select else .throw .database

def perform {α : Type} (computed : Computed α) : AccountService α := do
  .emits (List.replicate computed.computations .argon2)
  return computed.value

def add (write : AccountWrite) : AccountService Unit :=
  Program.write write (.pure ())

/-- The commit, when the database takes it. -/
def commit (commits : Bool) : AccountService Unit :=
  if commits then Program.commit (.pure ()) else .throw .database

end AccountService

end Api
