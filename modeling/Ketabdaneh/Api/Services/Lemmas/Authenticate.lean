import Ketabdaneh.Api.Lemmas.AccountSession
import Ketabdaneh.Api.Lemmas.Password
import Ketabdaneh.Api.Services.Auth

/-!
This module contains the ways an authentication ends, and how much work each of them is.
-/

namespace Api

open Text Transaction AccountService

section

variable (hasher : PasswordHasher) (salt : Salt) (commits : Bool)

/-- What is left of an authentication when the credentials are accepted. -/
def acceptUser (password : Str) (user : User) : AccountService User :=
  match passwordNeedsRehash hasher user.passwordHash with
  | none => .throw .hashing
  | some false => return user
  | some true => do
    let hashed ← perform (hashPassword hasher salt password)
    match hashed with
    | none => .throw .hashing
    | some passwordHash =>
      add (.setPasswordHash user.id passwordHash)
      commit commits
      return { user with passwordHash }

/-- The run of an authentication that has a secret, for a canonical user name. -/
inductive Authentication (db : Accounts) (canonical password : Str)
    : Transaction.Result Accounts Work AccountError User → Prop where
  | unsendable (hname : storable canonical = false) {result} (houtcome : result.outcome = .error .database)
    : Authentication db canonical password result
  | unknown (hname : storable canonical = true) (hfound : db.userNamed? canonical = none) {result}
      (houtcome : result.outcome = .error .authentication)
      (hevents : result.events
        = List.replicate (hasher.verify DUMMY_HASH password).computations .argon2)
    : Authentication db canonical password result
  | rejected (hname : storable canonical = true) {user} (hfound : db.userNamed? canonical = some user)
      (hbad : (verifyPassword hasher user.passwordHash password).value = false ∨ user.active = false)
      {result} (houtcome : result.outcome = .error .authentication)
      (hevents : result.events
        = List.replicate (hasher.verify user.passwordHash password).computations .argon2)
    : Authentication db canonical password result
  | accepted (hname : storable canonical = true) {user} (hfound : db.userNamed? canonical = some user)
      (hverified : (verifyPassword hasher user.passwordHash password).value = true)
      (hactive : user.active = true) {result}
      (houtcome : result.outcome = (run db db (acceptUser hasher salt commits password user)).outcome)
    : Authentication db canonical password result

variable {hasher : PasswordHasher} {salt : Salt} {commits : Bool} {settings : AuthSettings}
variable {db : Accounts} {username password : Str} {user : User}

theorem authentication_of_secure (hsecure : ensureSecureAuthSecret settings = .ok ())
    : Authentication hasher salt commits db (normalizeUsername username) password
        (run db db (authenticate hasher salt commits settings username password)) := by
  unfold authenticate
  rw [hsecure]
  dsimp only
  rw [run_scalar_bind, List.all_cons, List.all_nil, Bool.and_true]
  cases hname : storable (normalizeUsername username) with
  | false =>
    apply Authentication.unsendable hname
    rfl
  | true =>
    rw [if_pos rfl]
    cases hfound : db.userNamed? (normalizeUsername username) with
    | none =>
      dsimp only
      rw [run_perform_bind, computations_verifyPassword]
      apply Authentication.unknown hname hfound
      . rfl
      . simp [AccountService.run, Transaction.run]
    | some user =>
      dsimp only
      rw [run_perform_bind, computations_verifyPassword]
      cases hverified : (verifyPassword hasher user.passwordHash password).value with
      | false =>
        apply Authentication.rejected hname hfound (Or.inl hverified)
        . rfl
        . simp [AccountService.run, Transaction.run]
      | true =>
        rcases Bool.eq_false_or_eq_true user.active with hactive | hactive
        . apply Authentication.accepted hname hfound hverified hactive
          rw [if_neg (by simp), if_neg (by simp [hactive])]
          rfl
        . apply Authentication.rejected hname hfound (Or.inr hactive)
          . rw [hactive]
            rfl
          . simp [hactive, AccountService.run, Transaction.run]

theorem outcome_add_commit {write : AccountWrite} {b : User} {e : AccountError}
    (h : (run db db (do add write; commit commits; return b)).outcome = .error e)
    : e = .database := by
  have happly : accountSchema.apply db write = write.apply db := rfl
  simp only [AccountService.run, add, Program.write_bind, Transaction.run, happly] at h
  cases hwrite : write.apply db with
  | error e' =>
    rw [hwrite, Except.error.injEq] at h
    rw [← h]
    exact AccountWrite.apply_eq_error hwrite
  | ok db' =>
    rw [hwrite] at h
    cases commits with
    | false =>
      injection h with h
      exact h.symm
    | true => injection h

theorem acceptUser_ne_authentication
    : (run db db (acceptUser hasher salt commits password user)).outcome ≠ .error .authentication := by
  intro h
  unfold acceptUser at h
  split at h
  . injection h with h
    injection h
  . injection h
  . rw [run_perform_bind] at h
    dsimp only at h
    split at h
    . injection h with h
      injection h
    . exact absurd (outcome_add_commit h) (by simp)

theorem apply_setPasswordHash {passwordHash : Str} (hstorable : storable passwordHash = true)
    (huser : user ∈ db.users.rows)
    : (AccountWrite.setPasswordHash user.id passwordHash).apply db
        =
      .ok (db.setPasswordHash user.id passwordHash) := by
  have htexts : (AccountWrite.setPasswordHash user.id passwordHash).texts.all storable = true := by
    simp [AccountWrite.texts, hstorable]
  have hid : user.id ∈ db.users.rows.map User.id := List.mem_map.mpr ⟨user, huser, rfl⟩
  rw [AccountWrite.apply, if_pos htexts]
  exact if_pos hid

/-- Accepted credentials lead to a user, whether their hash is made anew or not. -/
theorem acceptUser_eq_ok (hhasher : hasher.Documented) (hpassword : encodable password = true)
    (hverified : (verifyPassword hasher user.passwordHash password).value = true)
    (huser : user ∈ db.users.rows)
    : ∃ accepted,
        (AccountService.run db db (acceptUser hasher salt true password user)).outcome
          = .ok accepted := by
  rw [verifyPassword_eq_true] at hverified
  rcases hhasher.needsRehash_eq_some hverified with ⟨needed, hneeded⟩
  unfold acceptUser passwordNeedsRehash
  rw [hneeded]
  cases needed with
  | false => exact ⟨user, rfl⟩
  | true =>
    rcases @PasswordHasher.Documented.hash_eq_some _ hhasher salt _ hpassword with
      ⟨passwordHash, hhash, hstorable⟩
    have hvalue : (hashPassword hasher salt password).value = some passwordHash := hhash
    dsimp only
    rw [run_perform_bind, hvalue]
    have hreturns : Returns db db
        (do add (.setPasswordHash user.id passwordHash); commit true; return { user with passwordHash })
        { user with passwordHash } (db.setPasswordHash user.id passwordHash) :=
      returns_add_commit.mpr ⟨rfl, apply_setPasswordHash hstorable huser, rfl⟩
    exact ⟨_, hreturns.1⟩

/-- All hashes of the database were made by `hashPassword`. -/
def Accounts.HashesMade (hasher : PasswordHasher) (db : Accounts) : Prop :=
  ∀ user ∈ db.users.rows, ∃ salt password,
    (hashPassword hasher salt password).value = some user.passwordHash

theorem saltLength_dummyHash : saltLength DUMMY_HASH < MIN_SALT_LENGTH := by
  decide

/-- A rejection is one computation of Argon2, unless it is for a user that does not exist. -/
theorem authenticate_computes_once_iff (hhasher : hasher.Documented) (hmade : db.HashesMade hasher)
    (hpassword : encodable password = true)
    : let result := Transaction.call accountSchema.apply db
        (authenticate hasher salt commits settings username password)
      (result.outcome = .error .authentication → result.events = [.argon2])
        ↔
      ¬(ensureSecureAuthSecret settings = .ok () ∧ storable (normalizeUsername username) = true
        ∧ ∀ user ∈ db.users.rows, user.username ≠ normalizeUsername username) := by
  intro result
  cases hsecure : ensureSecureAuthSecret settings with
  | error e =>
    have hresult : result.outcome = .error .insecureSecret := by
      unfold result authenticate
      rw [hsecure]
      rfl
    simp [hresult]
  | ok _ =>
    have hattempt : Authentication hasher salt commits db (normalizeUsername username) password
        result := authentication_of_secure hsecure
    cases hattempt with
    | unsendable hname houtcome => simp [hname, houtcome]
    | unknown hname hfound houtcome hevents =>
      have hnone : ∀ user ∈ db.users.rows, user.username ≠ normalizeUsername username := by
        simpa [Accounts.userNamed?, List.find?_eq_none] using hfound
      rw [houtcome, hevents, (hhasher.verify_short saltLength_dummyHash).2]
      simpa [hname] using hnone
    | rejected hname hfound hbad houtcome hevents =>
      rw [Accounts.userNamed?_eq_some] at hfound
      rcases hmade _ hfound.1 with ⟨salt', made, hmade⟩
      rw [hevents, hhasher.verify_made hmade hpassword]
      simp only [List.replicate_one, implies_true, true_iff, not_and, not_forall, not_not]
      intro _ _
      exact ⟨_, hfound.1, hfound.2⟩
    | accepted hname hfound hverified hactive houtcome =>
      rw [Accounts.userNamed?_eq_some] at hfound
      rw [houtcome]
      simp only [acceptUser_ne_authentication, false_implies, true_iff, not_and, not_forall, not_not]
      intro _ _
      exact ⟨_, hfound.1, hfound.2⟩

end

section

def secureSettings : AuthSettings where
  authSecretKey := ofString "a secret of thirty-two characters"

def member : User where
  id := 1
  username := ofString "a"
  passwordHash := plainHash (ofString "password")
  active := true

/-- A wrong password for a user that is there. -/
theorem authenticate_computes_once_member
    : let result := Transaction.call accountSchema.apply (singleAccount member)
        (authenticate plainHasher 0 true secureSettings (ofString "A") (ofString "letmein!"))
      result.outcome = .error .authentication → result.events = [.argon2] := by
  have hmade : (singleAccount member).HashesMade plainHasher := by
    intro user huser
    rw [List.mem_singleton.mp huser]
    exact ⟨0, ofString "password", rfl⟩
  apply (authenticate_computes_once_iff plainHasher_documented hmade (by decide)).mpr
  rintro ⟨_, _, hnone⟩
  exact hnone member List.mem_cons_self (by decide)

/-- For a user that is not there, the hash that is to take its place is not computed. -/
theorem authenticate_computes_nothing
    : let result := Transaction.call accountSchema.apply noAccounts
        (authenticate plainHasher 0 true secureSettings (ofString "a") (ofString "letmein!"))
      ¬(result.outcome = .error .authentication → result.events = [.argon2]) := by
  intro result h
  have houtcome : result.outcome = .error .authentication := rfl
  have hevents : result.events = [] := rfl
  rw [hevents] at h
  exact absurd (h houtcome) (by simp)

end

end Api
