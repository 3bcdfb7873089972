import Ketabdaneh.Api.Commands.Lemmas.Operators
import Ketabdaneh.Library.Transaction.Alike

/-!
This module contains that nothing which can be seen of the commands depends on the passwords typed.
-/

namespace Api

open Text Transaction

/-- A user without the hash. -/
def User.visible (user : User) : UUID × Str × Bool :=
  (user.id, user.username, user.active)

namespace Accounts

/-- The same but for the hashes. -/
structure Alike (a b : Accounts) : Prop where
  users : a.users.rows.map User.visible = b.users.rows.map User.visible
  applicationRoles : a.applicationRoles = b.applicationRoles
  permissions : a.permissions = b.permissions
  applicationRolePermissions : a.applicationRolePermissions = b.applicationRolePermissions
  userApplicationRoles : a.userApplicationRoles = b.userApplicationRoles

variable {a b db db' : Accounts}

theorem Alike.map_users (h : a.Alike b) {β : Type} (f : UUID × Str × Bool → β)
    : a.users.rows.map (f ∘ User.visible) = b.users.rows.map (f ∘ User.visible) := by
  rw [← List.map_map, ← List.map_map, h.users]

theorem Alike.ids (h : a.Alike b) : a.users.rows.map User.id = b.users.rows.map User.id :=
  h.map_users Prod.fst

theorem Alike.usernames (h : a.Alike b)
    : a.users.rows.map User.username = b.users.rows.map User.username :=
  h.map_users fun user => user.2.1

theorem isSome_insertUser {user : User}
    : (db.insertUser user).isSome = true
        ↔
      user.id ∉ db.users.rows.map User.id ∧ user.username ∉ db.users.rows.map User.username := by
  unfold insertUser
  split
  . next users husers =>
    have hid : user.id ∉ db.users.rows.map User.id := by
      rw [← Table.isSome_insert?, husers, Option.isSome_some]
    split
    . next hname => exact iff_of_true rfl ⟨hid, hname⟩
    . next hname => exact iff_of_false Bool.false_ne_true fun h => hname h.2
  . next husers =>
    have hid : ¬user.id ∉ db.users.rows.map User.id := by
      rw [← Table.isSome_insert?, husers, Option.isSome_none]
      exact Bool.false_ne_true
    exact iff_of_false Bool.false_ne_true fun h => hid h.1

theorem isSome_insertGrant {grant : UserApplicationRole}
    : (db.insertGrant grant).isSome = true
        ↔
      grant.key ∉ db.userApplicationRoles.rows.map UserApplicationRole.key
        ∧ grant.userId ∈ db.users.rows.map User.id
        ∧ grant.applicationRoleId ∈ db.applicationRoles.rows.map ApplicationRole.id := by
  unfold insertGrant
  split
  . next grants hgrants =>
    have hkey : grant.key ∉ db.userApplicationRoles.rows.map UserApplicationRole.key := by
      rw [← Table.isSome_insert?, hgrants, Option.isSome_some]
    split
    . next hrefers => exact iff_of_true rfl ⟨hkey, hrefers⟩
    . next hrefers => exact iff_of_false Bool.false_ne_true fun h => hrefers h.2
  . next hgrants =>
    have hkey : ¬grant.key ∉ db.userApplicationRoles.rows.map UserApplicationRole.key := by
      rw [← Table.isSome_insert?, hgrants, Option.isSome_none]
      exact Bool.false_ne_true
    exact iff_of_false Bool.false_ne_true fun h => hkey h.1

end Accounts

/-- Writes that are the same but for a hash, which can be stored in both or in none. -/
inductive AccountWrite.Alike : AccountWrite → AccountWrite → Prop where
  | newUser {row row' : User} (hvisible : row.visible = row'.visible)
      (hstorable : storable row.passwordHash = storable row'.passwordHash)
    : Alike (.newUser row) (.newUser row')
  | newGrant (row : UserApplicationRole) : Alike (.newGrant row) (.newGrant row)
  | setPasswordHash (id : UUID) {passwordHash passwordHash' : Str}
      (hstorable : storable passwordHash = storable passwordHash')
    : Alike (.setPasswordHash id passwordHash) (.setPasswordHash id passwordHash')

/-- Of a command everything is seen but its work. -/
def concealment : Likeness Accounts AccountWrite Console where
  store := Accounts.Alike
  write := AccountWrite.Alike
  hidden
    | .work _ => true
    | _ => false

theorem AccountWrite.Alike.texts {write write' : AccountWrite} (h : write.Alike write')
    : write.texts.all storable = write'.texts.all storable := by
  cases h with
  | @newUser row row' hvisible hstorable =>
    have hname : row.username = row'.username := congrArg (fun user => user.2.1) hvisible
    simp only [AccountWrite.texts, List.all_cons, List.all_nil]
    rw [hname, hstorable]
  | newGrant row => rfl
  | setPasswordHash id hstorable =>
    simp only [AccountWrite.texts, List.all_cons, List.all_nil]
    rw [hstorable]

theorem Accounts.visible_setPasswordHash (db : Accounts) (id : UUID) (passwordHash : Str)
    : (db.setPasswordHash id passwordHash).users.rows.map User.visible
        =
      db.users.rows.map User.visible := by
  show (db.users.rows.map _).map User.visible = _
  rw [List.map_map]
  apply List.map_congr_left
  intro user _
  dsimp only [Function.comp_apply]
  split
  . rfl
  . rfl

theorem Accounts.Alike.setPasswordHash {db db' : Accounts} (h : db.Alike db') (id : UUID)
    (passwordHash passwordHash' : Str)
    : (db.setPasswordHash id passwordHash).Alike (db'.setPasswordHash id passwordHash') where
  users := by rw [visible_setPasswordHash, visible_setPasswordHash, h.users]
  applicationRoles := h.applicationRoles
  permissions := h.permissions
  applicationRolePermissions := h.applicationRolePermissions
  userApplicationRoles := h.userApplicationRoles

/-- Both insertions add alike rows, or neither is taken. -/
theorem Accounts.Alike.elim {a b : Option Accounts} (hsome : a.isSome = b.isSome)
    (halike : ∀ db ∈ a, ∀ db' ∈ b, db.Alike db')
    : Except.Alike Accounts.Alike (a.elim (.error AccountError.database) .ok)
        (b.elim (.error AccountError.database) .ok) := by
  cases a with
  | none =>
    cases b with
    | none => exact .error _
    | some db' => exact absurd hsome Bool.false_ne_true
  | some db =>
    cases b with
    | none => exact absurd hsome.symm Bool.false_ne_true
    | some db' => exact .ok (halike db rfl db' rfl)

theorem AccountWrite.Alike.apply {db db' : Accounts} (hdb : db.Alike db') {write write' : AccountWrite}
    (h : write.Alike write')
    : Except.Alike Accounts.Alike (write.apply db) (write'.apply db') := by
  unfold AccountWrite.apply
  rw [h.texts]
  split
  . cases h with
    | @newUser row row' hvisible hstorable =>
      apply Accounts.Alike.elim
      . rw [Bool.eq_iff_iff, Accounts.isSome_insertUser, Accounts.isSome_insertUser, hdb.ids,
          hdb.usernames, show row.id = row'.id from congrArg Prod.fst hvisible,
          show row.username = row'.username from congrArg (fun user => user.2.1) hvisible]
      . intro t ht t' ht'
        have hadds := Accounts.insertUser_eq_some ht
        have hadds' := Accounts.insertUser_eq_some ht'
        constructor
        . rw [hadds.users, hadds'.users, List.map_append, List.map_append, hdb.users,
            List.map_singleton, List.map_singleton, hvisible]
        . rw [hadds.applicationRoles, hadds'.applicationRoles, hdb.applicationRoles]
        . rw [hadds.permissions, hadds'.permissions, hdb.permissions]
        . rw [hadds.applicationRolePermissions, hadds'.applicationRolePermissions,
            hdb.applicationRolePermissions]
        . rw [hadds.userApplicationRoles, hadds'.userApplicationRoles, hdb.userApplicationRoles]
    | newGrant row =>
      apply Accounts.Alike.elim
      . rw [Bool.eq_iff_iff, Accounts.isSome_insertGrant, Accounts.isSome_insertGrant, hdb.ids,
          hdb.applicationRoles, hdb.userApplicationRoles]
      . intro t ht t' ht'
        have hadds := Accounts.insertGrant_eq_some ht
        have hadds' := Accounts.insertGrant_eq_some ht'
        constructor
        . rw [hadds.users, hadds'.users, hdb.users]
        . rw [hadds.applicationRoles, hadds'.applicationRoles, hdb.applicationRoles]
        . rw [hadds.permissions, hadds'.permissions, hdb.permissions]
        . rw [hadds.applicationRolePermissions, hadds'.applicationRolePermissions,
            hdb.applicationRolePermissions]
        . apply Table.ext
          rw [hadds.userApplicationRoles, hadds'.userApplicationRoles, hdb.userApplicationRoles]
    | setPasswordHash id hstorable =>
      dsimp only
      rw [hdb.ids]
      split
      . exact .ok (hdb.setPasswordHash id _ _)
      . exact .error _
  . exact .error _

theorem Accounts.Alike.rehash {db db' : Accounts} (h : db.Alike db') (rehash : Rehash)
    : (db.rehash rehash).Alike (db'.rehash rehash) := by
  have hstorable : storable rehash.passwordHash = _ := rfl
  have happly := (AccountWrite.Alike.setPasswordHash rehash.id hstorable).apply h
  unfold Accounts.rehash
  generalize AccountWrite.apply db _ = result at happly
  generalize AccountWrite.apply db' _ = result' at happly
  cases happly with
  | ok ht => exact ht
  | error e => exact h

/-- What the services do is not seen. -/
abbrev serviceConcealment : Likeness Accounts AccountWrite Work :=
  concealment.comap Console.work

def User.Alike (user user' : User) : Prop :=
  user.visible = user'.visible

/-- The hasher takes both passwords, and the policy both or none. -/
structure PasswordsAlike (password password' : Str) : Prop where
  left : encodable password = true
  right : encodable password' = true
  policy : password.length < MIN_PASSWORD_LENGTH ↔ password'.length < MIN_PASSWORD_LENGTH

theorem Accounts.Alike.find?_users {s s' : Accounts} (h : s.Alike s') (test : UUID × Str × Bool → Bool)
    : (s.users.rows.find? (test ∘ User.visible)).map User.visible
        =
      (s'.users.rows.find? (test ∘ User.visible)).map User.visible := by
  rw [← List.find?_map, ← List.find?_map, h.users]

/-- The same user is found, if with another hash. -/
theorem Accounts.Alike.userNamed? {s s' : Accounts} (h : s.Alike s') (username : Str)
    : Option.Rel User.Alike (s.userNamed? username) (s'.userNamed? username) := by
  have hfound : (s.userNamed? username).map User.visible = (s'.userNamed? username).map User.visible :=
    h.find?_users fun user => user.2.1 = username
  generalize s.userNamed? username = found at hfound
  generalize s'.userNamed? username = found' at hfound
  cases found with
  | none =>
    cases found' with
    | none => exact .none
    | some user' => injection hfound
  | some user =>
    cases found' with
    | none => injection hfound
    | some user' =>
      injection hfound with hfound
      exact .some hfound

/-- A status, or the same user and the same of the rest. -/
abbrev ResultsAlike {β : Type} : Except Nat (User × β) → Except Nat (User × β) → Prop :=
  Except.Alike fun a a' => a.1.Alike a'.1 ∧ a.2 = a'.2

namespace AccountService

variable {α β : Type} {value : β → β → Prop}

theorem alike_scalar_bind {texts : List Str} {select : Accounts → Option α}
    {f f' : Option α → AccountService β}
    (h : ∀ s s', s.Alike s' → (f (select s)).Alike serviceConcealment value (f' (select s')))
    : (scalar texts select >>= f).Alike serviceConcealment value (scalar texts select >>= f') := by
  unfold scalar
  split
  . exact .select h
  . exact .throw _

theorem alike_getApplicationRoleByCode {code : Str}
    : (getApplicationRoleByCode code).Alike serviceConcealment Eq (getApplicationRoleByCode code) := by
  unfold getApplicationRoleByCode scalar
  split
  . apply Program.Alike.select
    intro s s' hs
    have hrole : s.roleCoded? code = s'.roleCoded? code := by
      unfold Accounts.roleCoded?
      rw [hs.applicationRoles]
    exact .pure hrole
  . exact .throw _

theorem alike_perform_bind {computed computed' : Computed α} {f f' : α → AccountService β}
    (h : (f computed.value).Alike serviceConcealment value (f' computed'.value))
    : (perform computed >>= f).Alike serviceConcealment value (perform computed' >>= f') := by
  rw [perform_bind, perform_bind]
  generalize computed.computations = n
  generalize computed'.computations = n'
  induction n with
  | zero =>
    induction n' with
    | zero => exact h
    | succ n' ih => exact .right rfl ih
  | succ n ih => exact .left rfl ih

theorem alike_add_commit {write write' : AccountWrite} (hwrite : write.Alike write') {commits : Bool}
    {a a' : β} (h : value a a')
    : (do add write; commit commits; return a : AccountService β).Alike serviceConcealment value
        (do add write'; commit commits; return a') := by
  apply Program.Alike.write hwrite
  cases commits with
  | true => exact .commit (.pure h)
  | false => exact .throw _

variable {hasher : PasswordHasher} {salt : Salt} {commits active : Bool}
variable {username password password' roleCode : Str} {id : UUID}

theorem alike_createUser (hhasher : hasher.Documented) (h : PasswordsAlike password password')
    : (createUser hasher salt commits username password active id).Alike serviceConcealment User.Alike
        (createUser hasher salt commits username password' active id) := by
  rcases @PasswordHasher.Documented.hash_eq_some _ hhasher salt _ h.left with
    ⟨passwordHash, hhash, hstorable⟩
  rcases @PasswordHasher.Documented.hash_eq_some _ hhasher salt _ h.right with
    ⟨passwordHash', hhash', hstorable'⟩
  unfold createUser
  dsimp only
  split
  . exact .throw _
  . simp only [h.policy]
    split
    . exact .throw _
    . apply alike_scalar_bind
      intro s s' hs
      have hfound := hs.userNamed? (normalizeUsername username)
      generalize s.userNamed? (normalizeUsername username) = found at hfound ⊢
      generalize s'.userNamed? (normalizeUsername username) = found' at hfound ⊢
      cases hfound with
      | some _ => exact .throw _
      | none =>
        apply alike_perform_bind
        rw [hashPassword, hhash, hashPassword, hhash']
        apply alike_add_commit
        . exact .newUser rfl (hstorable.trans hstorable'.symm)
        . exact rfl

theorem alike_assignApplicationRole
    : (assignApplicationRole username roleCode commits).Alike serviceConcealment User.Alike
        (assignApplicationRole username roleCode commits) := by
  unfold assignApplicationRole
  apply alike_scalar_bind
  intro s s' hs
  have hfound := hs.userNamed? (normalizeUsername username)
  dsimp only
  generalize s.userNamed? (normalizeUsername username) = found at hfound ⊢
  generalize s'.userNamed? (normalizeUsername username) = found' at hfound ⊢
  cases hfound with
  | none => exact .throw _
  | @some user user' hvisible =>
    have hid : user.id = user'.id := congrArg Prod.fst hvisible
    apply alike_scalar_bind
    intro t t' ht
    rw [Accounts.roleCoded?, Accounts.roleCoded?, ht.applicationRoles]
    cases t'.applicationRoles.rows.find? fun role => role.code = roleCode with
    | none => exact .throw _
    | some role =>
      dsimp only
      rw [hid]
      apply alike_scalar_bind
      intro u u' hu
      rw [hu.userApplicationRoles]
      cases u'.userApplicationRoles.get? (UserApplicationRole.key ⟨user'.id, role.id⟩) with
      | some grant => exact .throw _
      | none => exact alike_add_commit (.newGrant _) hvisible

end AccountService

namespace Terminal

variable {α β : Type} {value : α → α → Prop} {terminal : Terminal} {texts : List Str}

theorem alike_call {password password' : Str} {service service' : AccountService α}
    (h : service.Alike serviceConcealment value service')
    (hpassword : encodable password = true ∧ encodable password' = true)
    : (terminal.call texts password service).Alike concealment value
        (terminal.call texts password' service') := by
  apply Program.Alike.handle h
  . intro a a' ha
    exact .pure ha
  . intro e
    have hraised : terminal.raised texts password e = terminal.raised texts password' e := by
      cases e with
      | hashing => simp only [raised, hpassword.1, hpassword.2, if_true]
      | _ => rfl
    rw [hraised]
    exact .throw _

theorem alike_listApplicationRoles_bind {f : List ApplicationRole → Command β} {value' : β → β → Prop}
    (h : ∀ roles, (f roles).Alike concealment value' (f roles))
    : (terminal.listApplicationRoles >>= f).Alike concealment value'
        (terminal.listApplicationRoles >>= f) := by
  apply Program.Alike.query_bind
  intro s s' hs
  rw [hs.applicationRoles]
  exact h _

end Terminal

namespace CreateUser

variable {terminal : Terminal} {hasher : PasswordHasher}

/-- The same command, with these passwords typed. -/
def Invocation.typing (args : Invocation) (password confirm : Option Str) : Invocation :=
  { args with password, confirm }

theorem alike_validateRole (args : Invocation)
    : (validateRole terminal args).Alike concealment Eq (validateRole terminal args) := by
  unfold validateRole
  cases args.role with
  | none => exact .pure rfl
  | some code =>
    apply Program.Alike.bind
      (Terminal.alike_call AccountService.alike_getApplicationRoleByCode ⟨rfl, rfl⟩)
    rintro found _ rfl
    cases found with
    | some role => exact .pure rfl
    | none =>
      apply Terminal.alike_listApplicationRoles_bind
      intro roles
      exact .emit _ (.pure rfl)

theorem alike_create (hhasher : hasher.Documented) (args : Invocation) (role : Option ApplicationRole)
    {password password' : Str} (h : PasswordsAlike password password')
    : (create terminal hasher args role password).Alike concealment ResultsAlike
        (create terminal hasher args role password') := by
  unfold create
  apply Program.Alike.bind
  . exact Terminal.alike_call (AccountService.alike_createUser hhasher h) ⟨h.left, h.right⟩
  . intro user user' huser
    cases role with
    | none => exact .pure (.ok ⟨huser, rfl⟩)
    | some role =>
      apply Program.Alike.bind
      . exact Terminal.alike_call AccountService.alike_assignApplicationRole ⟨rfl, rfl⟩
      . intro _ _ _
        exact .pure (.ok ⟨huser, rfl⟩)

theorem alike_prompt (hhasher : hasher.Documented) (args : Invocation) (role : Option ApplicationRole)
    {password password' confirm confirm' : Option Str}
    (hpassword : Option.Rel PasswordsAlike password password')
    (hconfirm : confirm.isSome = confirm'.isSome)
    (hagree : password = confirm ↔ password' = confirm')
    : (prompt terminal hasher (args.typing password confirm) role).Alike concealment ResultsAlike
        (prompt terminal hasher (args.typing password' confirm') role) := by
  apply Program.Alike.emit
  cases hpassword with
  | none => exact .throw _
  | @some typed typed' h =>
    apply Program.Alike.emit
    cases confirm with
    | none =>
      cases confirm' with
      | none => exact .throw _
      | some _ => exact absurd hconfirm Bool.false_ne_true
    | some again =>
      cases confirm' with
      | none => exact absurd hconfirm.symm Bool.false_ne_true
      | some again' =>
        rw [Option.some.injEq, Option.some.injEq] at hagree
        show (if typed ≠ again then _ else _ : Command _).Alike _ _ (if typed' ≠ again' then _ else _)
        by_cases hsame : typed = again
        . rw [if_neg (not_not.mpr hsame), if_neg (not_not.mpr (hagree.mp hsame))]
          exact alike_create hhasher args role h
        . rw [if_pos hsame, if_pos (mt hagree.mpr hsame)]
          exact .emit _ (.pure (.error 1))

theorem alike_caught (e : CommandError) : (caught e).Alike concealment Eq (caught e) := by
  unfold caught
  split
  . exact .emit _ (.pure rfl)
  . split
    . exact .emit _ (.pure rfl)
    . exact .throw _

theorem alike_finish {result result' : Except Nat (User × Option ApplicationRole)}
    (h : ResultsAlike result result')
    : (finish terminal result).Alike concealment Eq (finish terminal result') := by
  cases h with
  | error status => exact .pure rfl
  | @ok created created' h =>
    have hid : created.1.id = created'.1.id := congrArg Prod.fst h.1
    have hname : created.1.username = created'.1.username := congrArg (fun user => user.2.1) h.1
    have hactive : created.1.active = created'.1.active := congrArg (fun user => user.2.2) h.1
    simp only [finish, hid, hname, hactive, h.2]
    exact .emit _ (.pure rfl)

theorem alike_main (hhasher : hasher.Documented) (args : Invocation)
    {password password' confirm confirm' : Option Str}
    (hpassword : Option.Rel PasswordsAlike password password')
    (hconfirm : confirm.isSome = confirm'.isSome)
    (hagree : password = confirm ↔ password' = confirm')
    : (main terminal hasher (args.typing password confirm)).Alike concealment Eq
        (main terminal hasher (args.typing password' confirm')) := by
  have hbody : (body terminal hasher (args.typing password confirm)).Alike concealment ResultsAlike
      (body terminal hasher (args.typing password' confirm')) := by
    apply Program.Alike.bind (alike_validateRole args)
    rintro result _ rfl
    cases result with
    | error status => exact .pure (.error status)
    | ok role => exact alike_prompt hhasher args role hpassword hconfirm hagree
  apply Program.Alike.handle (show Program.Alike (concealment.comap id) _ _ _ from hbody)
  . intro result result' h
    exact alike_finish h
  . intro e
    exact alike_caught e

end CreateUser

namespace AssignRole

variable {terminal : Terminal}

theorem holders_alike {s s' : Accounts} (h : s.Alike s') (roleId : UUID)
    : holders terminal s roleId = holders terminal s' roleId := by
  have husername : ∀ id, (s.users.get? id).map User.username = (s'.users.get? id).map User.username := by
    intro id
    have hfound := congrArg (Option.map fun user => user.2.1) (h.find?_users fun user => user.1 = id)
    rw [Option.map_map, Option.map_map] at hfound
    exact hfound
  unfold holders
  simp only [h.userApplicationRoles, husername]

theorem alike_printRoles (roles : List ApplicationRole)
    : (printRoles terminal roles).Alike concealment Eq (printRoles terminal roles) := by
  induction roles with
  | nil => exact .pure rfl
  | cons role roles ih =>
    apply Program.Alike.query_bind
    intro s s' hs
    rw [holders_alike hs]
    exact .emit _ ih

theorem alike_printState
    : (printState terminal).Alike concealment Eq (printState terminal) := by
  apply Terminal.alike_listApplicationRoles_bind
  exact alike_printRoles

theorem alike_body (args : Invocation)
    : (body terminal args).Alike concealment ResultsAlike (body terminal args) := by
  unfold body
  split
  . apply Program.Alike.bind alike_printState
    intro _ _ _
    exact .pure (.error 0)
  . dsimp only
    split
    . exact .emit _ (.pure (.error 2))
    . apply Program.Alike.bind
        (Terminal.alike_call AccountService.alike_assignApplicationRole ⟨rfl, rfl⟩)
      intro user user' huser
      apply Program.Alike.query_bind
      intro s s' hs
      refine .pure (.ok ⟨huser, ?_⟩)
      simp only [grantedCodes, hs.userApplicationRoles, hs.applicationRoles,
        show user.id = user'.id from congrArg Prod.fst huser]

theorem alike_caught (args : Invocation) (e : CommandError)
    : (caught terminal args e).Alike concealment Eq (caught terminal args e) := by
  unfold caught
  split
  . exact .emit _ (.pure rfl)
  . apply Terminal.alike_listApplicationRoles_bind
    intro roles
    exact .emit _ (.pure rfl)
  . exact .emit _ (.pure rfl)
  . exact .throw _

theorem alike_main (args : Invocation)
    : (main terminal args).Alike concealment Eq (main terminal args) := by
  apply Program.Alike.handle (show Program.Alike (concealment.comap id) _ _ _ from alike_body args)
  . intro result result' h
    cases h with
    | error status => exact .pure rfl
    | @ok granted granted' h =>
      have hname : granted.1.username = granted'.1.username := congrArg (fun user => user.2.1) h.1
      simp only [finish, hname, h.2]
      exact .emit _ (.pure rfl)
  . intro e
    exact alike_caught args e

end AssignRole

/-- Invocations that differ in the passwords typed alone. -/
inductive Invocation.Alike : Invocation → Invocation → Prop where
  | createUser (args : CreateUser.Invocation) {password password' confirm confirm' : Option Str}
      (hpassword : Option.Rel PasswordsAlike password password')
      (hconfirm : confirm.isSome = confirm'.isSome)
      (hagree : password = confirm ↔ password' = confirm')
    : Alike (.createUser (args.typing password confirm)) (.createUser (args.typing password' confirm'))
  | assignRole (args : AssignRole.Invocation) : Alike (.assignRole args) (.assignRole args)

theorem Invocation.Alike.main {terminal : Terminal} {hasher : PasswordHasher}
    (hhasher : hasher.Documented) {invocation invocation' : Invocation}
    (h : invocation.Alike invocation')
    : (invocation.main terminal hasher).Alike concealment Eq (invocation'.main terminal hasher) := by
  cases h with
  | createUser args hpassword hconfirm hagree =>
    exact CreateUser.alike_main hhasher args hpassword hconfirm hagree
  | assignRole args => exact AssignRole.alike_main args

section

variable {ι : Type} [Fintype ι] [DecidableEq ι]

/-- What the terminal of the operator `i` has shown when the schedule has run. -/
def shown (terminal : Terminal) (hasher : PasswordHasher) (invocations : ι → Invocation) (db : Accounts)
    (schedule : List (Action ι Rehash)) (i : ι) : List Console :=
  (System.start db fun i => (invocations i).main terminal hasher).transcript concealment commandSchema
    Accounts.rehash i schedule

end

section

end

end Api
