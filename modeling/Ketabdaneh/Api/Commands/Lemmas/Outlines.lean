import Ketabdaneh.Api.Commands.Operators
import Ketabdaneh.Api.Lemmas.Data

/-!
This module contains what the commands have committed when they end, whatever else is written for the
users meanwhile.
-/

namespace Api

open Text Transaction

theorem apply_of_commandSchema {s t : Accounts} {write : AccountWrite}
    (h : commandSchema.apply s write = .ok t) : write.apply s = .ok t := by
  change (write.apply s).mapError CommandError.service = .ok t at h
  cases happly : write.apply s with
  | ok u =>
    rw [happly] at h
    injection h with h
    rw [h]
  | error e =>
    rw [happly] at h
    injection h

theorem commandSchema_growing : commandSchema.Growing Accounts.rehash where
  apply := by
    intro s t write h
    exact AccountWrite.extends_of_apply (apply_of_commandSchema h)
  change := by
    intro s rehash
    unfold Accounts.rehash
    cases h : (AccountWrite.setPasswordHash rehash.id rehash.passwordHash).apply s with
    | ok t => exact AccountWrite.extends_of_apply h
    | error e => exact le_refl s

namespace Accounts

/-- The user with this name holds the role with this code. -/
def HoldsRole (db : Accounts) (username code : Str) : Prop :=
  ∃ user ∈ db.users.rows, user.username = username
    ∧ ∃ role ∈ db.applicationRoles.rows, role.code = code
      ∧ ⟨user.id, role.id⟩ ∈ db.userApplicationRoles.rows

def HasUser (db : Accounts) (id : UUID) (username : Str) : Prop :=
  ∃ user ∈ db.users.rows, user.id = id ∧ user.username = username

variable {db db' : Accounts} {username code : Str}

theorem HoldsRole.mono (h : db.HoldsRole username code) (hle : db ≤ db')
    : db'.HoldsRole username code := by
  rcases h with ⟨user, huser, hname, role, hrole, hcode, hgrant⟩
  rcases hle.users user huser with ⟨user', huser', hid, hname', _⟩
  refine ⟨user', huser', hname'.trans hname, role, ?_, hcode, ?_⟩
  . rw [hle.applicationRoles]
    exact hrole
  . rw [hid]
    exact hle.grants hgrant

theorem HasUser.mono {id : UUID} (h : db.HasUser id username) (hle : db ≤ db')
    : db'.HasUser id username := by
  rcases h with ⟨user, huser, hid, hname⟩
  rcases hle.users user huser with ⟨user', huser', hid', hname', _⟩
  exact ⟨user', huser', hid'.trans hid, hname'.trans hname⟩

theorem HasUser.id_eq {id id' : UUID} (h : db.HasUser id username) (h' : db.HasUser id' username)
    : id' = id := by
  rcases h with ⟨user, huser, hid, hname⟩
  rcases h' with ⟨user', huser', hid', hname'⟩
  have hsame := List.inj_on_of_nodup_map db.uq_users_username huser' huser (hname'.trans hname.symm)
  rw [← hid, ← hid', hsame]

theorem HasUser.username_eq {user : User} (h : db.HasUser user.id username)
    (huser : user ∈ db.users.rows) : user.username = username := by
  rcases h with ⟨user', huser', hid, hname⟩
  rw [← hname, List.inj_on_of_nodup_map db.users.nodup huser' huser hid]

theorem HasUser.holdsRole {id : UUID} {role : ApplicationRole} (h : db.HasUser id username)
    (hrole : role ∈ db.applicationRoles.rows ∧ role.code = code)
    (hgrant : ⟨id, role.id⟩ ∈ db.userApplicationRoles.rows) : db.HoldsRole username code := by
  rcases h with ⟨user, huser, hid, hname⟩
  rw [← hid] at hgrant
  exact ⟨user, huser, hname, role, hrole.1, hrole.2, hgrant⟩

theorem HasUser.holdsRole_of_get? {id : UUID} {role : ApplicationRole} {grant : UserApplicationRole}
    (h : db.HasUser id username) (hrole : role ∈ db.applicationRoles.rows ∧ role.code = code)
    (hget : db.userApplicationRoles.get? (id, role.id) = some grant) : db.HoldsRole username code := by
  rw [Table.get?_eq_some, UserApplicationRole.key, Prod.mk.injEq] at hget
  apply h.holdsRole hrole
  rw [← hget.2.1, ← hget.2.2]
  exact hget.1

end Accounts

namespace AccountService

variable {α β : Type} {s : Accounts} {log : List AccountWrite}

theorem outline_scalar {post : Post Accounts AccountWrite AccountError CommandError (Option α)}
    {texts : List Str} {select : Accounts → Option α}
    (hread : ∀ t, s ≤ t → texts.all storable = true → post t log [] (.returned (select t)))
    (hfails : texts.all storable = false → post s log [] (.thrown .database))
    : (scalar texts select).Outline commandSchema post s log [] := by
  unfold scalar
  split
  . next hstorable =>
    intro t hst
    refine ⟨?_, fun e he => by injection he⟩
    intro v hv
    injection hv with hv
    rw [← hv]
    exact hread t hst hstorable
  . next hstorable => exact hfails (Bool.not_eq_true _ ▸ hstorable)

variable {post : Post Accounts AccountWrite AccountError CommandError β}

theorem outline_scalar_bind {texts : List Str} {select : Accounts → Option α}
    {f : Option α → AccountService β}
    (hread : ∀ t, s ≤ t → texts.all storable = true →
      (f (select t)).Outline commandSchema post t log [])
    (hfails : texts.all storable = false → post s log [] (.thrown .database))
    : (scalar texts select >>= f).Outline commandSchema post s log [] := by
  apply Program.Outline.bind
  exact outline_scalar hread hfails

theorem outline_perform_bind {computed : Computed α} {f : α → AccountService β}
    : (perform computed >>= f).Outline commandSchema post s log []
        ↔
      (f computed.value).Outline commandSchema post s log [] := by
  rw [perform_bind]
  generalize List.replicate computed.computations Work.argon2 = work
  induction work with
  | nil => rfl
  | cons event work ih => exact ih

/-- A write and its commit: the write is there then, or nothing is. -/
theorem outline_add_commit {write : AccountWrite} {commits : Bool} {a : β}
    (hcommitted : ∀ t u, s ≤ t → write.apply t = .ok u →
      post u (log ++ [write]) [] (.returned a))
    (hthrown : ∀ t pending, s ≤ t → post t log pending (.thrown .database))
    (hfailed : ∀ t e, s ≤ t → post t log [] (.failed e))
    : (do add write; commit commits; return a : AccountService β).Outline commandSchema post s log []
        := by
  rw [add, Program.write_bind]
  intro t hst
  refine ⟨?_, ?_⟩
  . intro v _
    cases commits with
    | false => exact hthrown t _ hst
    | true =>
      intro t' hst'
      refine ⟨?_, ?_⟩
      . intro u hu
        rw [List.nil_append, Schema.view_singleton] at hu
        exact hcommitted t' u (hst.trans hst') (apply_of_commandSchema hu)
      . intro e _
        exact hfailed t' e (hst.trans hst')
  . intro e _
    exact hfailed t e hst

/-- A user is created, or nothing is written. -/
theorem outline_createUser {post : Post Accounts AccountWrite AccountError CommandError User}
    {hasher : PasswordHasher} {salt : Salt} {commits active : Bool} {username password : Str}
    {id : UUID}
    (hcreated : ∀ t passwordHash, s ≤ t → t.HasUser id (normalizeUsername username) →
      storable (normalizeUsername username) = true →
        let user : User := ⟨id, normalizeUsername username, passwordHash, active⟩
        post t (log ++ [.newUser user]) [] (.returned user))
    (hthrown : ∀ t pending e, s ≤ t → post t log pending (.thrown e))
    (hfailed : ∀ t e, s ≤ t → post t log [] (.failed e))
    : (createUser hasher salt commits username password active id).Outline commandSchema post s log []
        := by
  unfold createUser
  dsimp only
  split
  . exact hthrown s _ _ le_rfl
  . split
    . exact hthrown s _ _ le_rfl
    . apply outline_scalar_bind
      . intro t hst hstorable
        cases t.userNamed? (normalizeUsername username) with
        | some other => exact hthrown t _ _ hst
        | none =>
          dsimp only
          rw [outline_perform_bind]
          cases (hashPassword hasher salt password).value with
          | none => exact hthrown t _ _ hst
          | some passwordHash =>
            apply outline_add_commit
            . intro t' u htt' happly
              have hadds := AccountWrite.apply_newUser happly
              apply hcreated u passwordHash (hst.trans (htt'.trans hadds.extends)) _
                (by simpa using hstorable)
              refine ⟨⟨id, normalizeUsername username, passwordHash, active⟩, ?_, rfl, rfl⟩
              rw [hadds.users]
              apply List.mem_append_right
              apply List.mem_singleton_self
            . intro t' pending htt'
              exact hthrown t' _ _ (hst.trans htt')
            . intro t' e htt'
              exact hfailed t' e (hst.trans htt')
      . intro _
        exact hthrown s _ _ le_rfl

/-- What a refused grant says of the database where it began, and of the one where it ended. -/
inductive AssignRaises (username roleCode : Str) (s t : Accounts) : AccountError → Prop where
  | userNotFound (h : ∀ user ∈ s.users.rows, user.username ≠ normalizeUsername username)
    : AssignRaises username roleCode s t (.userNotFound username)
  | unknownApplicationRole (h : ∀ role ∈ s.applicationRoles.rows, role.code ≠ roleCode)
    : AssignRaises username roleCode s t (.unknownApplicationRole roleCode)
  | roleAlreadyGranted (h : t.HoldsRole (normalizeUsername username) roleCode)
    : AssignRaises username roleCode s t (.roleAlreadyGranted (normalizeUsername username) roleCode)
  | database : AssignRaises username roleCode s t .database

/-- A role is granted, or nothing is written. -/
theorem outline_assignApplicationRole
    {post : Post Accounts AccountWrite AccountError CommandError User} {commits : Bool}
    {username roleCode : Str}
    (hgranted : ∀ t user role, s ≤ t → t.HasUser user.id (normalizeUsername username) →
      role ∈ t.applicationRoles.rows → role.code = roleCode →
        t.HoldsRole (normalizeUsername username) roleCode →
          post t (log ++ [.newGrant ⟨user.id, role.id⟩]) [] (.returned user))
    (hthrown : ∀ t pending e, s ≤ t → AssignRaises username roleCode s t e →
      post t log pending (.thrown e))
    (hfailed : ∀ t e, s ≤ t → post t log [] (.failed e))
    : (assignApplicationRole username roleCode commits).Outline commandSchema post s log [] := by
  unfold assignApplicationRole
  apply outline_scalar_bind
  . intro t hst _
    dsimp only
    cases hfound : t.userNamed? (normalizeUsername username) with
    | none =>
      apply hthrown t _ _ hst
      constructor
      intro user huser hname
      rcases hst.users user huser with ⟨user', huser', _, hname', _⟩
      have hsome := Accounts.userNamed?_eq_some.mpr ⟨huser', hname'.trans hname⟩
      rw [hfound] at hsome
      injection hsome
    | some user =>
      rw [Accounts.userNamed?_eq_some] at hfound
      apply outline_scalar_bind
      . intro t' htt' _
        have hst' := hst.trans htt'
        have huser : t'.HasUser user.id (normalizeUsername username) :=
          Accounts.HasUser.mono ⟨user, hfound.1, rfl, hfound.2⟩ htt'
        cases hrole : t'.roleCoded? roleCode with
        | none =>
          apply hthrown t' _ _ hst'
          constructor
          intro role hrole' hcode
          rw [← hst'.applicationRoles] at hrole'
          have hsome := Accounts.roleCoded?_eq_some.mpr ⟨hrole', hcode⟩
          rw [hrole] at hsome
          injection hsome
        | some role =>
          rw [Accounts.roleCoded?_eq_some] at hrole
          apply outline_scalar_bind
          . intro u htu _
            rw [← htu.applicationRoles] at hrole
            cases hgrant : u.userApplicationRoles.get? (user.id, role.id) with
            | some grant =>
              rw [UserApplicationRole.key, hgrant]
              apply hthrown u _ _ (hst'.trans htu)
              constructor
              exact (huser.mono htu).holdsRole_of_get? hrole hgrant
            | none =>
              rw [UserApplicationRole.key, hgrant]
              apply outline_add_commit
              . intro u' v huu' happly
                have hadds := AccountWrite.apply_newGrant happly
                have huv := huu'.trans hadds.extends
                rw [← huv.applicationRoles] at hrole
                have huser' := (huser.mono htu).mono huv
                apply hgranted v user role (hst'.trans (htu.trans huv)) huser' hrole.1 hrole.2
                apply huser'.holdsRole hrole
                rw [hadds.userApplicationRoles]
                apply List.mem_append_right
                apply List.mem_singleton_self
              . intro u' pending huu'
                exact hthrown u' _ _ (hst'.trans (htu.trans huu')) .database
              . intro u' e huu'
                exact hfailed u' e (hst'.trans (htu.trans huu'))
          . intro _
            exact hthrown t' _ _ hst' .database
      . intro _
        exact hthrown t _ _ hst .database
  . intro _
    exact hthrown s _ _ le_rfl .database

end AccountService

namespace Terminal

variable {α β : Type}

theorem raised_eq_roleAlreadyGranted {terminal : Terminal} {texts : List Str}
    {password username code : Str} {e : AccountError}
    (h : terminal.raised texts password e = .service (.roleAlreadyGranted username code))
    : e = .roleAlreadyGranted username code := by
  cases e with
  | database =>
    simp only [raised] at h
    split at h
    . split at h
      . injections
      . injection h
    . injections
  | hashing =>
    simp only [raised] at h
    split at h
    . injections
    . injection h
  | _ =>
    injection h

/-- What is to be said of where a service ends that a command calls. -/
def called (terminal : Terminal) (texts : List Str) (password : Str)
    (post : Post Accounts AccountWrite CommandError CommandError β) (f : α → Command β)
    : Post Accounts AccountWrite AccountError CommandError α
  | s, log, pending, .returned a => (f a).Outline commandSchema post s log pending
  | s, log, pending, .thrown e => post s log pending (.thrown (terminal.raised texts password e))
  | s, log, pending, .failed e => post s log pending (.failed e)

theorem outline_call_bind {terminal : Terminal} {texts : List Str} {password : Str}
    {post : Post Accounts AccountWrite CommandError CommandError β} {f : α → Command β}
    {service : AccountService α} {s : Accounts} {log : List AccountWrite}
    (h : service.Outline commandSchema (terminal.called texts password post f) s log [])
    : (terminal.call texts password service >>= f).Outline commandSchema post s log [] := by
  apply Program.Outline.bind
  apply Program.Outline.handle
  apply h.weaken
  intro s log pending ending h
  cases ending with
  | returned a => exact h
  | thrown e => exact h
  | failed e => exact h

end Terminal

end Api
