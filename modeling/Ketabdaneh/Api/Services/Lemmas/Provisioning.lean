import Ketabdaneh.Api.Lemmas.AccountSession
import Ketabdaneh.Api.Lemmas.Password
import Ketabdaneh.Api.Services.AccountCalls
import Ketabdaneh.Library.Transaction.Contest

/-!
This module contains two calls for one user name, or for one grant, with their statements interleaved.
-/

namespace Api

open Text Transaction CheckThenInsert

namespace AccountService

variable {α β : Type} {schema : Schema Accounts AccountWrite AccountError} {e : AccountError}

theorem scalar_bind (texts : List Str) (select : Accounts → Option α)
    (f : Option α → AccountService β)
    : (scalar texts select >>= f)
        =
      if texts.all storable then .select fun db => f (select db) else .throw .database := by
  unfold scalar
  split
  . rfl
  . rfl

theorem settle_perform_bind (computed : Computed α) (f : α → AccountService β)
    : (perform computed >>= f).settle = (f computed.value).settle := by
  rw [perform_bind]
  apply Program.settle_emits

theorem fails_throw {e' : AccountError} (h : e' ≠ e)
    : (Program.throw e' : AccountService α).Fails e :=
  ⟨e', rfl, h⟩

end AccountService

section

open AccountService

variable {hasher : PasswordHasher} {salt : Salt} {db : Accounts} {i : Bool}

/-- The calls for one canonical user name. -/
def userContest (name : Str) : Contest accountSchema where
  good _ := True
  present db := name ∈ db.users.rows.map User.username
  writes _ write := ∃ row, write = .newUser row ∧ row.username = name
  taken _ := .usernameTaken name
  conflicts := by
    rintro i _ _ ⟨row, rfl, hrow⟩ ⟨other, rfl, hother⟩
    simp [accountSchema, AccountWrite.conflicts, hrow, hother]
  apply_eq_ok := by
    rintro i _ db db' _ ⟨row, rfl, hrow⟩ happly
    have hadds := AccountWrite.apply_newUser happly
    refine ⟨trivial, ?_, ?_⟩
    . rw [hadds.users]
      simp [hrow]
    . rw [← hrow]
      exact hadds.username_fresh
  apply_eq_error := by
    intro i write db e _ _ happly
    rw [AccountWrite.apply_eq_error happly]
    simp

theorem userNamed?_isSome {username : Str}
    : (∃ user, db.userNamed? username = some user) ↔ username ∈ db.users.rows.map User.username := by
  simp only [Accounts.userNamed?_eq_some, List.mem_map]

theorem createUser_reads {username password : Str} {active : Bool} {id : UUID}
    : (userContest (normalizeUsername username)).Reads i 0
          (createUser hasher salt true username password active id)
        ∨ (createUser hasher salt true username password active id).Fails
          (.usernameTaken (normalizeUsername username)) := by
  unfold createUser
  dsimp only
  split
  . exact Or.inr (fails_throw (by simp))
  . split
    . exact Or.inr (fails_throw (by simp))
    . rw [scalar_bind]
      split
      . refine Or.inl ⟨_, rfl, ?_, ?_⟩
        . intro db _ hpresent
          rcases userNamed?_isSome.mpr hpresent with ⟨user, huser⟩
          rw [huser]
          rfl
        . intro db _ habsent
          cases hfound : db.userNamed? (normalizeUsername username) with
          | some user => exact absurd (userNamed?_isSome.mp ⟨user, hfound⟩) habsent
          | none =>
            dsimp only
            rw [Contest.Writes, Program.Fails, settle_perform_bind]
            cases (hashPassword hasher salt password).value with
            | none => exact Or.inr ⟨_, rfl, by simp [userContest]⟩
            | some passwordHash =>
              exact Or.inl ⟨_, _, rfl, ⟨_, rfl, rfl⟩, _, _, rfl, rfl⟩
      . exact Or.inr (fails_throw (by simp))

/-- The calls for one role, and one user of the database that they begin with. -/
def grantContest (start : Accounts) (name roleCode : Str) : Contest accountSchema where
  good db := db.users = start.users ∧ db.applicationRoles = start.applicationRoles
  present db := ∃ user role, start.userNamed? name = some user ∧ start.roleCoded? roleCode = some role
    ∧ (user.id, role.id) ∈ db.userApplicationRoles.rows.map UserApplicationRole.key
  writes _ write := ∃ user role, start.userNamed? name = some user
    ∧ start.roleCoded? roleCode = some role ∧ write = .newGrant ⟨user.id, role.id⟩
  taken _ := .roleAlreadyGranted name roleCode
  conflicts := by
    rintro i _ _ ⟨user, role, huser, hrole, rfl⟩ ⟨user', role', huser', hrole', rfl⟩
    rw [huser, Option.some.injEq] at huser'
    rw [hrole, Option.some.injEq] at hrole'
    simp [accountSchema, AccountWrite.conflicts, huser', hrole']
  apply_eq_ok := by
    rintro i _ db db' ⟨husers, hroles⟩ ⟨user, role, huser, hrole, rfl⟩ happly
    have hadds := AccountWrite.apply_newGrant happly
    refine ⟨⟨hadds.users.trans husers, hadds.applicationRoles.trans hroles⟩, ?_, ?_⟩
    . refine ⟨user, role, huser, hrole, ?_⟩
      rw [hadds.userApplicationRoles]
      simp [UserApplicationRole.key]
    . rintro ⟨user', role', huser', hrole', hmem⟩
      rw [huser, Option.some.injEq] at huser'
      rw [hrole, Option.some.injEq] at hrole'
      rw [← huser', ← hrole'] at hmem
      exact hadds.key_fresh hmem
  apply_eq_error := by
    intro i write db e _ _ happly
    rw [AccountWrite.apply_eq_error happly]
    simp

theorem get?_eq_none {grant : UserApplicationRole}
    : db.userApplicationRoles.get? grant.key = none
        ↔
      grant.key ∉ db.userApplicationRoles.rows.map UserApplicationRole.key := by
  simp [Table.get?, List.find?_eq_none]

theorem assignApplicationRole_reads (start : Accounts) {username roleCode : Str}
    : (grantContest start (normalizeUsername username) roleCode).Reads i 2
          (assignApplicationRole username roleCode true)
        ∨ (assignApplicationRole username roleCode true).Fails
          (.roleAlreadyGranted (normalizeUsername username) roleCode) := by
  unfold assignApplicationRole
  dsimp only
  rw [scalar_bind]
  split
  . refine Or.inl ⟨_, rfl, ?_⟩
    rintro db ⟨husers, hroles⟩
    have hnamed : db.userNamed? (normalizeUsername username)
        = start.userNamed? (normalizeUsername username) := by
      rw [Accounts.userNamed?, husers]
      rfl
    rw [hnamed]
    cases huser : start.userNamed? (normalizeUsername username) with
    | none => exact Or.inr (fails_throw (by simp [grantContest]))
    | some user =>
      dsimp only
      rw [getApplicationRoleByCode, scalar_bind]
      split
      . refine Or.inl ⟨_, rfl, ?_⟩
        rintro db ⟨husers, hroles⟩
        have hcoded : db.roleCoded? roleCode = start.roleCoded? roleCode := by
          rw [Accounts.roleCoded?, hroles]
          rfl
        rw [hcoded]
        cases hrole : start.roleCoded? roleCode with
        | none => exact Or.inr (fails_throw (by simp [grantContest]))
        | some role =>
          dsimp only
          rw [scalar_bind, List.all_nil, if_pos rfl]
          refine Or.inl ⟨_, rfl, ?_, ?_⟩
          . rintro db _ ⟨user', role', huser', hrole', hmem⟩
            rw [huser, Option.some.injEq] at huser'
            rw [hrole, Option.some.injEq] at hrole'
            rw [← huser', ← hrole'] at hmem
            split
            . rfl
            . next hget => exact absurd hmem (get?_eq_none.mp hget)
          . intro db _ habsent
            split
            . next grant hget =>
              rw [Table.get?_eq_some] at hget
              refine absurd ⟨user, role, huser, hrole, ?_⟩ habsent
              rw [List.mem_map]
              exact ⟨grant, hget⟩
            . exact Or.inl ⟨_, _, rfl, ⟨user, role, huser, hrole, rfl⟩, _, _, rfl, rfl⟩
      . exact Or.inr (fails_throw (by simp [grantContest]))
  . exact Or.inr (fails_throw (by simp))

end

namespace AccountCall

/-- The row that a call is to add. -/
def target : AccountCall → Str ⊕ Str × Str
  | createUser username _ _ _ _ _ => .inl (normalizeUsername username)
  | assignApplicationRole username roleCode _ => .inr (normalizeUsername username, roleCode)

def Commits : AccountCall → Prop
  | createUser _ _ _ _ _ commits => commits = true
  | assignApplicationRole _ _ commits => commits = true

/-- What a call raises when its row is there already. -/
def declared : AccountCall → AccountError
  | createUser username _ _ _ _ _ => .usernameTaken (normalizeUsername username)
  | assignApplicationRole username roleCode _ =>
    .roleAlreadyGranted (normalizeUsername username) roleCode

/-- How many queries a call makes before it looks for its row. -/
def reads : AccountCall → Nat
  | createUser _ _ _ _ _ _ => 0
  | assignApplicationRole _ _ _ => 2

/-- How many rows there are of those that a call is to add. -/
def rows (db : Accounts) : AccountCall → Nat
  | createUser username _ _ _ _ _ =>
    db.users.rows.countP fun user => user.username = normalizeUsername username
  | assignApplicationRole username roleCode _ =>
    db.userApplicationRoles.rows.countP fun grant =>
      db.users.rows.any (fun user =>
          user.id = grant.userId && user.username = normalizeUsername username)
        && db.applicationRoles.rows.any (fun role =>
          role.id = grant.applicationRoleId && role.code = roleCode)

section

variable {hasher : PasswordHasher} {db : Accounts} {calls : Bool → AccountCall}
variable {w : World Accounts AccountWrite Work AccountError User} {schedule : List Bool}

theorem rows_createUser_eq_one {username password : Str} {active : Bool} {id : UUID} {salt : Salt}
    {commits : Bool} (h : normalizeUsername username ∈ db.users.rows.map User.username)
    : (createUser username password active id salt commits).rows db = 1 := by
  apply Table.countP_eq_one
  . exact db.uq_users_username
  . assumption

theorem rows_assignApplicationRole_eq_one {username roleCode : Str} {commits : Bool} (user : User)
    (role : ApplicationRole) (huser : db.userNamed? (normalizeUsername username) = some user)
    (hrole : db.roleCoded? roleCode = some role)
    (h : (user.id, role.id) ∈ db.userApplicationRoles.rows.map UserApplicationRole.key)
    : (assignApplicationRole username roleCode commits).rows db = 1 := by
  have hcount := Table.countP_eq_one db.userApplicationRoles.nodup h
  rw [Accounts.userNamed?_eq_some] at huser
  rw [Accounts.roleCoded?_eq_some] at hrole
  rw [rows, ← hcount]
  apply List.countP_congr
  intro grant _
  simp only [Bool.and_eq_true, List.any_eq_true, decide_eq_true_eq, UserApplicationRole.key,
    Prod.mk.injEq]
  constructor
  . rintro ⟨⟨user', huser', hid, hname⟩, role', hrole', hroleId, hcode⟩
    rw [← hid, ← hroleId,
      List.inj_on_of_nodup_map db.uq_users_username huser' huser.1 (hname.trans huser.2.symm),
      List.inj_on_of_nodup_map db.uq_application_roles_code hrole' hrole.1
        (hcode.trans hrole.2.symm)]
    exact ⟨rfl, rfl⟩
  . rintro ⟨huserId, hroleId⟩
    exact ⟨⟨user, huser.1, huserId.symm, huser.2⟩, role, hrole.1, hroleId.symm, hrole.2⟩

/-- How each call begins, and what becomes of its row when one call commits before the other checks. -/
structure Contested (hasher : PasswordHasher) (db : Accounts) (calls : Bool → AccountCall)
    (c : Contest accountSchema) : Prop where
  good : c.good db
  reads : ∀ i, c.Reads i (calls i).reads ((calls i).service hasher)
    ∨ ((calls i).service hasher).Fails (c.taken i)
  taken : ∀ i, c.taken i = (calls i).declared
  rows : ∀ i db', c.good db' → c.present db' → (calls i).rows db' = 1

theorem exists_contested (hasher : PasswordHasher) (db : Accounts)
    (hsame : (calls true).target = (calls false).target) (hcommits : ∀ i, (calls i).Commits)
    : ∃ c, Contested hasher db calls c := by
  have htarget : ∀ i, (calls i).target = (calls true).target := by
    intro i
    cases i with
    | true => rfl
    | false => exact hsame.symm
  cases h : (calls true).target with
  | inl name =>
    have hcalls : ∀ i, ∃ username password active id salt,
        calls i = .createUser username password active id salt true
          ∧ normalizeUsername username = name := by
      intro i
      have hi := (htarget i).trans h
      have hcommit := hcommits i
      generalize calls i = call at hi hcommit ⊢
      cases call with
      | createUser username password active id salt commits =>
        injection hi with hi
        rw [show commits = true from hcommit]
        exact ⟨username, password, active, id, salt, rfl, hi⟩
      | assignApplicationRole => injection hi
    refine ⟨userContest name, trivial, ?_, ?_, ?_⟩
    . intro i
      rcases hcalls i with ⟨username, password, active, id, salt, hcall, rfl⟩
      rw [hcall]
      apply createUser_reads
    . intro i
      rcases hcalls i with ⟨username, password, active, id, salt, hcall, rfl⟩
      rw [hcall]
      rfl
    . intro i db' _ hpresent
      rcases hcalls i with ⟨username, password, active, id, salt, hcall, rfl⟩
      rw [hcall]
      exact rows_createUser_eq_one hpresent
  | inr key =>
    rcases key with ⟨name, roleCode⟩
    have hcalls : ∀ i, ∃ username,
        calls i = .assignApplicationRole username roleCode true
          ∧ normalizeUsername username = name := by
      intro i
      have hi := (htarget i).trans h
      have hcommit := hcommits i
      generalize calls i = call at hi hcommit ⊢
      cases call with
      | createUser => injection hi
      | assignApplicationRole username code commits =>
        injection hi with hi
        injection hi with hname hcode
        rw [show commits = true from hcommit, hcode]
        exact ⟨username, rfl, hname⟩
    refine ⟨grantContest db name roleCode, ⟨rfl, rfl⟩, ?_, ?_, ?_⟩
    . intro i
      rcases hcalls i with ⟨username, hcall, rfl⟩
      rw [hcall]
      apply assignApplicationRole_reads
    . intro i
      rcases hcalls i with ⟨username, hcall, rfl⟩
      rw [hcall]
      rfl
    . rintro i db' ⟨husers, hroles⟩ ⟨user, role, huser, hrole, hmem⟩
      rcases hcalls i with ⟨username, hcall, rfl⟩
      rw [hcall]
      apply rows_assignApplicationRole_eq_one user role
      . rw [← huser, Accounts.userNamed?, husers]
        rfl
      . rw [← hrole, Accounts.roleCoded?, hroles]
        rfl
      . exact hmem

/--
Of two interleaved calls for one row, one succeeds, the other raises its own error and one row is
there afterwards, exactly if one commits before the other looks for the row.
-/
theorem provisioned_iff (hsame : (calls true).target = (calls false).target)
    (hcommits : ∀ i, (calls i).Commits)
    (hrun : Transition.run accountSchema.step
      (Schema.start db fun i => (calls i).service hasher) schedule = some w)
    : (∃ i, (∃ user, (w.sessions i).outcome = some (.ok user))
          ∧ (w.sessions !i).outcome = some (.error (calls !i).declared)
          ∧ (calls i).rows w.store = 1)
        ↔
      ∃ i, CommitsFirst (fun i => (calls i).reads) schedule i := by
  rcases exists_contested hasher db hsame hcommits with ⟨c, hc⟩
  apply exists_congr
  intro i
  rcases c.run_iff hc.good hc.reads hrun i with ⟨hiff, hrow⟩
  rw [← hc.taken, ← and_assoc, hiff, and_iff_left_iff_imp]
  intro hfirst
  exact hc.rows i _ (hrow hfirst).1 (hrow hfirst).2

end

section

/-- Two operators who create one user, and spell its name in two ways. -/
def newcomers (i : Bool) : AccountCall :=
  .createUser (ofString (if i then "A" else "a")) (ofString "password") true (if i then 1 else 2) 0 true

/-- The calls one after the other, so that the second finds the row of the first. -/
theorem provisioned_in_turn
    : ∃ w, Transition.run accountSchema.step
          (Schema.start noAccounts fun i => (newcomers i).service plainHasher)
          [true, true, true, false] = some w
        ∧ ∃ i, (∃ user, (w.sessions i).outcome = some (.ok user))
          ∧ (w.sessions !i).outcome = some (.error (newcomers !i).declared)
          ∧ (newcomers i).rows w.store = 1 := by
  have hruns : ∃ w, Transition.run accountSchema.step
      (Schema.start noAccounts fun i => (newcomers i).service plainHasher)
      [true, true, true, false] = some w := ⟨_, rfl⟩
  rcases hruns with ⟨w, hrun⟩
  have hsame : (newcomers true).target = (newcomers false).target := by decide
  have hcommits : ∀ i, (newcomers i).Commits := fun _ => rfl
  refine ⟨w, hrun, ?_⟩
  rw [provisioned_iff hsame hcommits hrun]
  exact ⟨true, [true, true, true], by decide, rfl, rfl⟩

/-- Both calls look for the row before one is there, and the constraint rejects the second row. -/
theorem provisioned_at_once
    : ∃ w, Transition.run accountSchema.step
          (Schema.start noAccounts fun i => (newcomers i).service plainHasher)
          [true, false, true, true, false] = some w
        ∧ (w.sessions false).outcome = some (.error .database)
        ∧ ¬∃ i, (∃ user, (w.sessions i).outcome = some (.ok user))
          ∧ (w.sessions !i).outcome = some (.error (newcomers !i).declared)
          ∧ (newcomers i).rows w.store = 1 := by
  have hruns : ∃ w, Transition.run accountSchema.step
        (Schema.start noAccounts fun i => (newcomers i).service plainHasher)
        [true, false, true, true, false] = some w
      ∧ (w.sessions false).outcome = some (.error .database) := ⟨_, rfl, rfl⟩
  rcases hruns with ⟨w, hrun, hfalse⟩
  refine ⟨w, hrun, hfalse, ?_⟩
  rintro ⟨i, ⟨user, hok⟩, hdeclared, _⟩
  cases i with
  | true =>
    rw [Bool.not_true, hfalse] at hdeclared
    simp [newcomers, declared] at hdeclared
  | false =>
    rw [hfalse] at hok
    simp at hok

end

end AccountCall

end Api
