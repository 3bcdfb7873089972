import Ketabdaneh.Api.AccountSession
import Ketabdaneh.Library.Except

/-!
This module contains what each part of a service for users and grants does when the service has the
database to itself, and what each write changes.
-/

namespace Api

open Text Transaction

namespace Accounts

/-- What a new user changes, and what it asks for. -/
structure AddsUser (db db' : Accounts) (user : User) : Prop where
  users : db'.users.rows = db.users.rows ++ [user]
  applicationRoles : db'.applicationRoles = db.applicationRoles
  permissions : db'.permissions = db.permissions
  applicationRolePermissions : db'.applicationRolePermissions = db.applicationRolePermissions
  userApplicationRoles : db'.userApplicationRoles = db.userApplicationRoles
  id_fresh : user.id ∉ db.users.rows.map User.id
  username_fresh : user.username ∉ db.users.rows.map User.username

structure AddsGrant (db db' : Accounts) (grant : UserApplicationRole) : Prop where
  users : db'.users = db.users
  applicationRoles : db'.applicationRoles = db.applicationRoles
  permissions : db'.permissions = db.permissions
  applicationRolePermissions : db'.applicationRolePermissions = db.applicationRolePermissions
  userApplicationRoles :
    db'.userApplicationRoles.rows = db.userApplicationRoles.rows ++ [grant]
  key_fresh : grant.key ∉ db.userApplicationRoles.rows.map UserApplicationRole.key

variable {db db' : Accounts}

theorem userNamed?_eq_some {username : Str} {user : User}
    : db.userNamed? username = some user ↔ user ∈ db.users.rows ∧ user.username = username := by
  apply Table.find?_eq_some
  exact db.uq_users_username

theorem roleCoded?_eq_some {code : Str} {role : ApplicationRole}
    : db.roleCoded? code = some role ↔ role ∈ db.applicationRoles.rows ∧ role.code = code := by
  apply Table.find?_eq_some
  exact db.uq_application_roles_code

theorem insertUser_eq_some {user : User} (h : db.insertUser user = some db')
    : AddsUser db db' user := by
  unfold insertUser at h
  split at h
  . next users husers =>
    split at h
    . next hname =>
      rw [Option.some.injEq] at h
      rw [← h]
      constructor
      . exact Table.insert?_eq_some.mp husers
      . rfl
      . rfl
      . rfl
      . rfl
      . rw [← Table.isSome_insert?, husers, Option.isSome_some]
      . assumption
    . injection h
  . injection h

theorem insertGrant_eq_some {grant : UserApplicationRole} (h : db.insertGrant grant = some db')
    : AddsGrant db db' grant := by
  unfold insertGrant at h
  split at h
  . next grants hgrants =>
    split at h
    . rw [Option.some.injEq] at h
      rw [← h]
      constructor
      . rfl
      . rfl
      . rfl
      . rfl
      . exact Table.insert?_eq_some.mp hgrants
      . rw [← Table.isSome_insert?, hgrants, Option.isSome_some]
    . injection h
  . injection h

end Accounts

namespace AccountWrite

variable {db db' : Accounts}

theorem apply_newUser {user : User} (h : (newUser user).apply db = .ok db')
    : db.AddsUser db' user := by
  unfold apply at h
  split at h
  . apply Accounts.insertUser_eq_some
    exact Except.elim_eq_ok.mp h
  . injection h

theorem apply_newGrant {grant : UserApplicationRole} (h : (newGrant grant).apply db = .ok db')
    : db.AddsGrant db' grant := by
  unfold apply at h
  split at h
  . apply Accounts.insertGrant_eq_some
    exact Except.elim_eq_ok.mp h
  . injection h

theorem apply_eq_error {write : AccountWrite} {e : AccountError} (h : write.apply db = .error e)
    : e = .database := by
  unfold apply at h
  split at h
  . split at h
    . exact (Except.elim_eq_error.mp h).2.symm
    . exact (Except.elim_eq_error.mp h).2.symm
    . split at h
      . injection h
      . injection h with h
        exact h.symm
  . injection h with h
    exact h.symm

end AccountWrite

namespace AccountService

variable {α β : Type} {committed own : Accounts}

abbrev run (committed own : Accounts) (service : AccountService α)
    : Result Accounts Work AccountError α :=
  Transaction.run accountSchema.apply committed own service

theorem perform_bind (computed : Computed α) (f : α → AccountService β)
    : (perform computed >>= f)
        =
      (List.replicate computed.computations .argon2).foldr .emit (f computed.value) := by
  rw [perform, Program.emits, Program.foldr_emit_bind, Program.foldr_emit_bind]
  rfl

theorem run_scalar_bind (texts : List Str) (select : Accounts → Option α)
    (f : Option α → AccountService β)
    : run committed own (scalar texts select >>= f)
        =
      if texts.all storable then
        run committed own (f (select own))
      else
        { outcome := .error .database, store := committed } := by
  unfold scalar
  split
  . rfl
  . rfl

theorem run_perform_bind (computed : Computed α) (f : α → AccountService β)
    : run committed own (perform computed >>= f)
        =
      { run committed own (f computed.value) with
        events := List.replicate computed.computations .argon2
          ++ (run committed own (f computed.value)).events } := by
  rw [perform_bind]
  apply Transaction.run_emits

/-- The service returns, and leaves a database behind. -/
def Returns (committed own : Accounts) (service : AccountService α) (a : α) (db : Accounts) : Prop :=
  (run committed own service).outcome = .ok a ∧ (run committed own service).store = db

variable {a b : α} {db : Accounts}

theorem not_returns_throw {e : AccountError}
    : ¬Returns committed own (Program.throw e : AccountService α) a db := by
  rintro ⟨h, _⟩
  injection h

theorem returns_scalar_bind {texts : List Str} {select : Accounts → Option β}
    {f : Option β → AccountService α}
    : Returns committed own (scalar texts select >>= f) a db
        ↔
      texts.all storable = true ∧ Returns committed own (f (select own)) a db := by
  rw [Returns, run_scalar_bind]
  split
  . next h => simp [h, Returns]
  . next h => simp [h]

theorem returns_perform_bind {computed : Computed β} {f : β → AccountService α}
    : Returns committed own (perform computed >>= f) a db
        ↔
      Returns committed own (f computed.value) a db := by
  rw [Returns, run_perform_bind]
  rfl

theorem returns_add_commit {write : AccountWrite} {commits : Bool}
    : Returns committed own (do add write; commit commits; return b) a db
        ↔
      commits = true ∧ write.apply own = .ok db ∧ a = b := by
  have happly : accountSchema.apply own write = write.apply own := rfl
  simp only [Returns, run, add, Program.write_bind, Transaction.run, happly]
  cases write.apply own with
  | error e => simp
  | ok s =>
    cases commits with
    | false => simp [commit, Transaction.run]
    | true =>
      simp only [true_and, Except.ok.injEq]
      constructor
      . rintro ⟨ha, hdb⟩
        injection ha with ha
        exact ⟨hdb, ha.symm⟩
      . rintro ⟨rfl, rfl⟩
        exact ⟨rfl, rfl⟩

theorem commitsLast_scalar_bind {texts : List Str} {select : Accounts → Option α}
    {f : Option α → AccountService β} (h : ∀ found, (f found).CommitsLast)
    : (scalar texts select >>= f).CommitsLast := by
  unfold scalar
  split
  . intro db
    apply h
  . trivial

theorem commitsLast_perform_bind {computed : Computed α} {f : α → AccountService β}
    (h : (f computed.value).CommitsLast) : (perform computed >>= f).CommitsLast := by
  rw [perform_bind]
  apply Program.commitsLast_emits
  assumption

theorem commitsLast_add_commit (write : AccountWrite) (commits : Bool) (a : α)
    : (do add write; commit commits; return a : AccountService α).CommitsLast := by
  cases commits with
  | true => exact ⟨a, rfl⟩
  | false => trivial

end AccountService

section

def noAccounts : Accounts where
  applicationRoles := {}
  permissions := {}
  applicationRolePermissions := {}
  uq_application_roles_code := by simp
  uq_application_roles_name := by simp
  uq_permissions_code := by simp
  uq_permissions_name := by simp
  fk_application_role_permissions_application_role_id := by simp
  fk_application_role_permissions_permission_id := by simp

def singleAccount (user : User) : Accounts :=
  { noAccounts with
    users := { rows := [user] }
    uq_users_username := by simp
    fk_user_application_roles_user_id := by simp [noAccounts] }

end

end Api
