import Ketabdaneh.Api.Alembic.Lemmas.AuthorizationMatrix
import Ketabdaneh.Api.Commands.Lemmas.AssignRole
import Ketabdaneh.Api.Commands.Lemmas.CreateUser
import Ketabdaneh.Api.Services.Lemmas.CredentialCalls

/-!
This module contains what comes of commands that operators run beside one another: who is there, and
who may do what.
-/

namespace Api

open Text Transaction

namespace Invocation

def Ends : Invocation → Accounts → List AccountWrite → Except CommandError Nat → Prop
  | .createUser args => CreateUser.Ends args
  | .assignRole args => AssignRole.Ends args

/-- The command is to leave the user of this name with the role of this code. -/
def Asks (username code : Str) : Invocation → Prop
  | .createUser args => args.Asks username code
  | .assignRole args => args.Asks username code

variable {invocation : Invocation} {s t : Accounts} {log : List AccountWrite}
variable {outcome : Except CommandError Nat}

theorem ends_mono (hst : s ≤ t) (h : invocation.Ends s log outcome)
    : invocation.Ends t log outcome := by
  cases invocation with
  | createUser args => exact CreateUser.Ends.mono hst h
  | assignRole args => exact AssignRole.Ends.mono hst h

theorem outline_main (terminal : Terminal) (hasher : PasswordHasher) (invocation : Invocation)
    : (invocation.main terminal hasher).Outline commandSchema
        (fun s log _ ending => invocation.Ends s log ending.outcome) s [] [] := by
  cases invocation with
  | createUser args => exact CreateUser.outline_main
  | assignRole args => exact AssignRole.outline_main

/-- A command that grants a role ends with the status 0. -/
theorem Ends.of_mem_grant {grant : UserApplicationRole} (h : invocation.Ends s log outcome)
    (hgrant : .newGrant grant ∈ log)
    : outcome = .ok 0 ∧ ∃ username, ∃ role ∈ s.applicationRoles.rows, invocation.Asks username role.code
        ∧ s.HasUser grant.userId username ∧ grant.applicationRoleId = role.id := by
  cases invocation with
  | createUser args => exact CreateUser.Ends.of_mem_grant h hgrant
  | assignRole args => exact AssignRole.Ends.of_mem_grant h hgrant

/-- A command asked for a role that ends with the status 0 leaves the user with it. -/
theorem Ends.holdsRole {username code : Str} (h : invocation.Ends s log (.ok 0))
    (hasks : invocation.Asks username code) : s.HoldsRole username code := by
  cases invocation with
  | createUser args => exact CreateUser.Ends.holdsRole h hasks
  | assignRole args => exact AssignRole.Ends.holdsRole h hasks

end Invocation

section

variable {ι : Type} [Fintype ι] [DecidableEq ι] {terminal : Terminal} {hasher : PasswordHasher}
variable {invocations : ι → Invocation} {db : Accounts} {schedule : List (Action ι Rehash)}
variable {w : System ι Accounts AccountWrite Console CommandError Nat}

/--
However the statements of commands and logins follow one another, the database is what comes of a
history of whole commits, and each command that has ended committed what its status says.
-/
theorem operate_commits (terminal : Terminal) (hasher : PasswordHasher) (invocations : ι → Invocation)
    (db : Accounts) (hrun : operate terminal hasher invocations db schedule = some w)
    : ∃ history : History ι AccountWrite Rehash,
        commandSchema.replay Accounts.rehash db history = .ok w.store
          ∧ ∀ i outcome, (w.sessions i).outcome = some outcome →
            (invocations i).Ends w.store (history.log i) outcome := by
  have hprograms : ∀ i, Session.Outline commandSchema (invocations i).Ends db []
      { program := (invocations i).main terminal hasher } :=
    fun i => (invocations i).outline_main terminal hasher
  have hlasts : ∀ i {s t : Accounts} {log outcome}, s ≤ t → (invocations i).Ends s log outcome →
      (invocations i).Ends t log outcome := fun _ {_ _ _ _} hst h => Invocation.ends_mono hst h
  rcases System.outlined_of_run commandSchema_growing hlasts hprograms hrun with ⟨history, h⟩
  refine ⟨history, h.store, ?_⟩
  intro i outcome houtcome
  exact (h.sessions i).of_outcome houtcome

theorem mem_grants_of_apply {s t : Accounts} {write : AccountWrite} (h : write.apply s = .ok t)
    {grant : UserApplicationRole} (hgrant : grant ∈ t.userApplicationRoles.rows)
    : grant ∈ s.userApplicationRoles.rows ∨ write = .newGrant grant := by
  cases write with
  | newUser row =>
    rw [(AccountWrite.apply_newUser h).userApplicationRoles] at hgrant
    exact Or.inl hgrant
  | newGrant row =>
    rw [(AccountWrite.apply_newGrant h).userApplicationRoles, List.mem_append,
      List.mem_singleton] at hgrant
    rw [AccountWrite.newGrant.injEq]
    exact hgrant.imp_right Eq.symm
  | setPasswordHash id passwordHash =>
    left
    rw [AccountWrite.apply_setPasswordHash_eq_ok h] at hgrant
    exact hgrant

theorem mem_grants_of_rehash {s : Accounts} {rehash : Rehash} {grant : UserApplicationRole}
    (hgrant : grant ∈ (s.rehash rehash).userApplicationRoles.rows)
    : grant ∈ s.userApplicationRoles.rows := by
  unfold Accounts.rehash at hgrant
  cases h : (AccountWrite.setPasswordHash rehash.id rehash.passwordHash).apply s with
  | ok t =>
    rw [h] at hgrant
    exact (mem_grants_of_apply h hgrant).resolve_right (by simp)
  | error e =>
    rw [h] at hgrant
    exact hgrant

omit [Fintype ι] in
/-- A role that is held was held before, or a command committed the grant. -/
theorem mem_grants_of_replay {history : History ι AccountWrite Rehash} {t : Accounts}
    (h : commandSchema.replay Accounts.rehash db history = .ok t) {grant : UserApplicationRole}
    (hgrant : grant ∈ t.userApplicationRoles.rows)
    : grant ∈ db.userApplicationRoles.rows ∨ ∃ i, .newGrant grant ∈ history.log i := by
  induction history using List.reverseRecOn generalizing t with
  | nil =>
    injection h with h
    rw [← h] at hgrant
    exact Or.inl hgrant
  | append_singleton history entry ih =>
    rcases Schema.replay_concat h with ⟨u, hu, henter⟩
    have hmem : grant ∈ u.userApplicationRoles.rows ∨ ∃ i, entry = .write i (.newGrant grant) := by
      cases entry with
      | change rehash =>
        injection henter with henter
        rw [← henter] at hgrant
        exact Or.inl (mem_grants_of_rehash hgrant)
      | write i write =>
        apply (mem_grants_of_apply (apply_of_commandSchema henter) hgrant).imp_right
        intro hwrite
        rw [hwrite]
        exact ⟨i, rfl⟩
    simp only [History.mem_log, List.mem_append, List.mem_singleton] at ih ⊢
    rcases hmem with hmem | ⟨i, hentry⟩
    . apply (ih hu hmem).imp_right
      rintro ⟨i, hi⟩
      exact ⟨i, Or.inl hi⟩
    . exact Or.inr ⟨i, Or.inr hentry.symm⟩

theorem eq_of_holdsRole {s : Accounts} {user : User} (huser : user ∈ s.users.rows)
    {role : ApplicationRole} (hrole : role ∈ s.applicationRoles.rows)
    (h : s.HoldsRole user.username role.code)
    : ⟨user.id, role.id⟩ ∈ s.userApplicationRoles.rows := by
  rcases h with ⟨user', huser', hname, role', hrole', hcode, hgrant⟩
  have hsame := List.inj_on_of_nodup_map s.uq_users_username huser' huser hname
  have hsame' := List.inj_on_of_nodup_map s.uq_application_roles_code hrole' hrole hcode
  rw [← hsame, ← hsame']
  exact hgrant

/--
On a migrated database, when all commands have ended, a user may do what the roles allow that commands
of the status 0 asked for it, and nothing else.
-/
theorem operate_authorizes (users : Users) {accounts : Accounts}
    (hupgrade : ApplicationAuthorization.upgrade users = some accounts) (terminal : Terminal)
    (hasher : PasswordHasher) (invocations : ι → Invocation)
    (hrun : operate terminal hasher invocations accounts schedule = some w)
    (hended : ∀ i, (w.sessions i).outcome ≠ none) {user : User} (huser : user ∈ w.store.users.rows)
    (permission : Str)
    : userHasPermission w.store user permission = true
        ↔
      ∃ i, (w.sessions i).outcome = some (.ok 0)
        ∧ ∃ role ∈ SEED_APPLICATION_ROLES, (invocations i).Asks user.username role.code
          ∧ allows role.code permission = true := by
  rcases operate_commits terminal hasher invocations accounts hrun with ⟨history, hstore, hends⟩
  have hseeded := Accounts.seeded_of_insert hupgrade
  have hmigrated := (Users.migrated_of_seeded hseeded).extends (commandSchema_growing.replay hstore)
  rw [hmigrated.userHasPermission]
  constructor
  . rintro ⟨role, hrole, hgrant, hallows⟩
    rcases mem_grants_of_replay hstore hgrant with hbefore | ⟨i, hlog⟩
    . rw [hseeded.userApplicationRoles] at hbefore
      exact absurd hbefore List.not_mem_nil
    . rcases Option.ne_none_iff_exists'.mp (hended i) with ⟨outcome, houtcome⟩
      rcases (hends i outcome houtcome).of_mem_grant hlog with
        ⟨hzero, username, role', hrole', hasks, hnamed, hid⟩
      have hrow := (hmigrated.applicationRoles role).mpr hrole
      have hsame := List.inj_on_of_nodup_map w.store.applicationRoles.nodup hrow hrole' hid
      rw [← hsame, ← hnamed.username_eq huser] at hasks
      rw [hzero] at houtcome
      exact ⟨i, houtcome, role, hrole, hasks, hallows⟩
  . rintro ⟨i, houtcome, role, hrole, hasks, hallows⟩
    refine ⟨role, hrole, ?_, hallows⟩
    apply eq_of_holdsRole huser ((hmigrated.applicationRoles role).mpr hrole)
    exact (hends i _ houtcome).holdsRole hasks

end

section

def plainTerminal : Terminal where
  repr text := text
  encodeError text := text
  collate := compare

def mina : CreateUser.Invocation where
  username := ofString "Mina"
  role := some (ofString "admin")
  password := some (ofString "password")
  confirm := some (ofString "password")
  id := 5
  salt := 0
  commits := true
  commitsRole := true

/-- One operator creates a user with a role, which the other grants meanwhile. -/
def bothGrant (i : Bool) : Invocation :=
  if i then .createUser mina else .assignRole ⟨false, some (ofString "mina"), some (ofString "admin"), true⟩

def grantedBetween : List (Action Bool Rehash) :=
  List.replicate 4 (.statement true) ++ List.replicate 6 (.statement false)
    ++ List.replicate 3 (.statement true)

/-- The run has ended for both, the first with the status 1, and the user is there. -/
def endsOvertaken (w : System Bool Accounts AccountWrite Console CommandError Nat) : Bool :=
  (match (w.sessions true).outcome with
    | some (.ok status) => status = 1
    | _ => false)
  && (w.sessions false).outcome.isSome
  && w.store.users.rows.any fun user => user.username = ofString "mina"

theorem exists_endsOvertaken
    : ∃ w, operate plainTerminal plainHasher bothGrant migratedAccounts grantedBetween = some w
        ∧ (w.sessions true).outcome = some (.ok 1) ∧ (∀ i, (w.sessions i).outcome ≠ none)
        ∧ ∃ user ∈ w.store.users.rows, user.username = ofString "mina" := by
  have hends : ((operate plainTerminal plainHasher bothGrant migratedAccounts grantedBetween).any
      endsOvertaken) = true := by decide +kernel
  rw [Option.any_eq_true] at hends
  rcases hends with ⟨w, hw, hends⟩
  unfold endsOvertaken at hends
  rw [Bool.and_eq_true, Bool.and_eq_true, List.any_eq_true] at hends
  rcases hends with ⟨⟨htrue, hfalse⟩, user, huser, hname⟩
  have hone : (w.sessions true).outcome = some (.ok 1) := by
    split at htrue
    . next houtcome =>
      rw [houtcome, of_decide_eq_true htrue]
    . exact absurd htrue Bool.false_ne_true
  refine ⟨w, hw, hone, ?_, user, huser, of_decide_eq_true hname⟩
  intro i
  cases i with
  | true => simp [hone]
  | false => exact Option.isSome_iff_ne_none.mp hfalse

theorem operate_commits_overtaken :
    ∃ w, operate plainTerminal plainHasher bothGrant migratedAccounts grantedBetween = some w
      ∧ ∃ history : History Bool AccountWrite Rehash,
        commandSchema.replay Accounts.rehash migratedAccounts history = .ok w.store
          ∧ ∀ i outcome, (w.sessions i).outcome = some outcome →
            (bothGrant i).Ends w.store (history.log i) outcome := by
  rcases exists_endsOvertaken with ⟨w, hw, _⟩
  exact ⟨w, hw, operate_commits plainTerminal plainHasher bothGrant migratedAccounts hw⟩

theorem operate_authorizes_overtaken :
    ∃ w, operate plainTerminal plainHasher bothGrant migratedAccounts grantedBetween = some w
      ∧ ∃ user ∈ w.store.users.rows, user.username = ofString "mina"
        ∧ (userHasPermission w.store user PEOPLE_CREATE = true
          ↔
        ∃ i, (w.sessions i).outcome = some (.ok 0)
          ∧ ∃ role ∈ SEED_APPLICATION_ROLES, (bothGrant i).Asks user.username role.code
            ∧ allows role.code PEOPLE_CREATE = true) := by
  rcases exists_endsOvertaken with ⟨w, hw, _, hended, user, huser, hname⟩
  have hupgrade : ApplicationAuthorization.upgrade operatorOnly = some migratedAccounts :=
    (Option.some_get isSome_upgrade_operatorOnly).symm
  exact ⟨w, hw, user, huser, hname, operate_authorizes operatorOnly hupgrade plainTerminal plainHasher
    bothGrant hw hended huser PEOPLE_CREATE⟩

end

end Api
