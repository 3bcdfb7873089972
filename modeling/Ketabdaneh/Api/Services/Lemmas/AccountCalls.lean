import Ketabdaneh.Api.Lemmas.AccountSession
import Ketabdaneh.Api.Services.AccountCalls

/-!
This module contains what the calls of the services for users and grants change.
-/

namespace Api

open Text Transaction

section

open AccountService

variable {hasher : PasswordHasher} {salt : Salt} {commits : Bool} {db : Accounts}
variable {username password roleCode : Str} {active : Bool} {id : UUID} {user : User}
variable {e : AccountError}

theorem commitsLast_createUser
    : (createUser hasher salt commits username password active id).CommitsLast := by
  unfold createUser
  dsimp only
  split
  . trivial
  . split
    . trivial
    . apply commitsLast_scalar_bind
      intro existing
      cases existing with
      | some other => trivial
      | none =>
        apply commitsLast_perform_bind
        cases (hashPassword hasher salt password).value with
        | none => trivial
        | some passwordHash => apply commitsLast_add_commit

theorem commitsLast_assignApplicationRole
    : (assignApplicationRole username roleCode commits).CommitsLast := by
  unfold assignApplicationRole
  apply commitsLast_scalar_bind
  intro found
  cases found with
  | none => trivial
  | some user =>
    apply commitsLast_scalar_bind
    intro found
    cases found with
    | none => trivial
    | some role =>
      apply commitsLast_scalar_bind
      intro already
      cases already with
      | some grant => trivial
      | none => apply commitsLast_add_commit

theorem returns_createUser {db' : Accounts}
    : Returns db db (createUser hasher salt commits username password active id) user db'
        ↔
      normalizeUsername username ≠ [] ∧ MIN_PASSWORD_LENGTH ≤ password.length
        ∧ [normalizeUsername username].all storable = true
        ∧ db.userNamed? (normalizeUsername username) = none
        ∧ ∃ passwordHash, (hashPassword hasher salt password).value = some passwordHash
          ∧ user = ⟨id, normalizeUsername username, passwordHash, active⟩
          ∧ commits = true ∧ (AccountWrite.newUser user).apply db = .ok db' := by
  unfold createUser
  dsimp only
  split
  . next h => simp [h, not_returns_throw]
  . next hcanonical =>
    split
    . next h => simp [Nat.not_le.mpr h, not_returns_throw]
    . next hpolicy =>
      rw [returns_scalar_bind]
      cases db.userNamed? (normalizeUsername username) with
      | some other => simp [not_returns_throw]
      | none =>
        dsimp only
        rw [returns_perform_bind]
        cases (hashPassword hasher salt password).value with
        | none => simp [not_returns_throw]
        | some passwordHash =>
          dsimp only
          rw [returns_add_commit]
          simp only [hcanonical, Nat.not_lt.mp hpolicy, ne_eq, not_false_eq_true, true_and,
            Option.some.injEq, exists_eq_left']
          constructor
          . rintro ⟨hstorable, hcommits, happly, rfl⟩
            exact ⟨hstorable, rfl, hcommits, happly⟩
          . rintro ⟨hstorable, rfl, hcommits, happly⟩
            exact ⟨hstorable, hcommits, happly, rfl⟩

theorem returns_assignApplicationRole {db' : Accounts}
    : Returns db db (assignApplicationRole username roleCode commits) user db'
        ↔
      [normalizeUsername username].all storable = true ∧ [roleCode].all storable = true
        ∧ db.userNamed? (normalizeUsername username) = some user
        ∧ ∃ role, db.roleCoded? roleCode = some role
          ∧ db.userApplicationRoles.get? (user.id, role.id) = none
          ∧ commits = true ∧ (AccountWrite.newGrant ⟨user.id, role.id⟩).apply db = .ok db' := by
  unfold assignApplicationRole
  dsimp only
  rw [returns_scalar_bind]
  cases db.userNamed? (normalizeUsername username) with
  | none => simp [not_returns_throw]
  | some found =>
    dsimp only
    rw [getApplicationRoleByCode, returns_scalar_bind]
    cases db.roleCoded? roleCode with
    | none => simp [not_returns_throw]
    | some role =>
      dsimp only
      rw [returns_scalar_bind]
      constructor
      . rintro ⟨husername, hcode, _, h⟩
        split at h
        . exact absurd h not_returns_throw
        . next hgrant =>
          rw [returns_add_commit] at h
          rcases h with ⟨hcommits, happly, rfl⟩
          exact ⟨husername, hcode, rfl, role, rfl, hgrant, hcommits, happly⟩
      . rintro ⟨husername, hcode, hfound, role', hrole, hgrant, hcommits, happly⟩
        injection hfound with hfound
        injection hrole with hrole
        rw [hfound, hrole, UserApplicationRole.key, hgrant]
        refine ⟨husername, hcode, rfl, ?_⟩
        rw [returns_add_commit]
        exact ⟨hcommits, happly, rfl⟩

end

end Api
