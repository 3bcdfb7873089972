import Ketabdaneh.Api.Services.Lemmas.AccountCalls
import Ketabdaneh.Library.Rbac

/-!
This module contains what users may do, over any run of the calls for users and grants.
-/

namespace Api

open Text Transaction

def Accounts.Holds (db : Accounts) (user : User) (code : Str) : Prop :=
  ∃ role ∈ db.applicationRoles.rows, ⟨user.id, role.id⟩ ∈ db.userApplicationRoles.rows
    ∧ ∃ permission ∈ db.permissions.rows, ⟨role.id, permission.id⟩ ∈ db.applicationRolePermissions.rows
      ∧ permission.code = code

theorem mem_userPermissionCodes {db : Accounts} {user : User} {code : Str}
    : code ∈ userPermissionCodes db user ↔ db.Holds user code := by
  simp only [userPermissionCodes, List.mem_flatMap, List.mem_map, List.mem_filter, Bool.and_eq_true,
    decide_eq_true_eq]
  constructor
  . rintro ⟨permission, hpermission, link, ⟨hlink, hof⟩, grant, ⟨hgrant, hrole, huser⟩, hcode⟩
    have hexists := db.fk_application_role_permissions_application_role_id link hlink
    rw [List.mem_map] at hexists
    rcases hexists with ⟨role, hmem, hid⟩
    refine ⟨role, hmem, ?_, permission, hpermission, ?_, hcode⟩
    . rw [hid, ← hrole, ← huser]
      exact hgrant
    . rw [hid, ← hof]
      exact hlink
  . rintro ⟨role, _, hgrant, permission, hpermission, hlink, hcode⟩
    exact ⟨permission, hpermission, _, ⟨hlink, rfl⟩, _, ⟨hgrant, rfl, rfl⟩, hcode⟩

theorem userHasPermission_iff {db : Accounts} {user : User} {code : Str}
    : userHasPermission db user code = true ↔ db.Holds user code := by
  rw [userHasPermission, decide_eq_true_eq, mem_userPermissionCodes]

namespace Accounts

def permissionSet (db : Accounts) (user : User) : Set Str :=
  {code | userHasPermission db user code = true}

def granted (db : Accounts) : Set (UUID × UUID) :=
  {key | key ∈ db.userApplicationRoles.rows.map UserApplicationRole.key}

def contained (db : Accounts) (roleId : UUID) : Set Str :=
  {code | ∃ permission ∈ db.permissions.rows,
    ⟨roleId, permission.id⟩ ∈ db.applicationRolePermissions.rows ∧ permission.code = code}

variable {db db' : Accounts} {user other : User} {grant : UserApplicationRole}

theorem mem_granted {userId roleId : UUID}
    : (userId, roleId) ∈ db.granted ↔ ⟨userId, roleId⟩ ∈ db.userApplicationRoles.rows := by
  constructor
  . intro h
    rcases List.mem_map.mp h with ⟨grant, hmem, hkey⟩
    injection hkey with huser hrole
    rw [← huser, ← hrole]
    exact hmem
  . intro hmem
    exact List.mem_map.mpr ⟨_, hmem, rfl⟩

theorem permissionSet_eq : db.permissionSet user = Rbac.effective db.granted db.contained user.id := by
  ext code
  have hmem : code ∈ db.permissionSet user ↔ userHasPermission db user code = true := Iff.rfl
  rw [hmem, userHasPermission_iff, Rbac.mem_effective]
  constructor
  . rintro ⟨role, _, hgrant, hcontained⟩
    exact ⟨role.id, mem_granted.mpr hgrant, hcontained⟩
  . rintro ⟨roleId, hgrant, hcontained⟩
    rw [mem_granted] at hgrant
    have hrole := db.fk_user_application_roles_application_role_id _ hgrant
    rw [List.mem_map] at hrole
    rcases hrole with ⟨role, hmem, rfl⟩
    exact ⟨role, hmem, hgrant, hcontained⟩

theorem AddsUser.permissionSet (h : db.AddsUser db' user) (other : User)
    : db'.permissionSet other = db.permissionSet other := by
  unfold Accounts.permissionSet userHasPermission userPermissionCodes
  rw [h.permissions, h.applicationRolePermissions, h.userApplicationRoles]

theorem permissionSet_of_fresh (h : user.id ∉ db.users.rows.map User.id)
    : db.permissionSet user = ∅ := by
  rw [permissionSet_eq]
  apply Rbac.effective_of_not_granted
  intro roleId hgrant
  exact h (db.fk_user_application_roles_user_id _ (mem_granted.mp hgrant))

theorem AddsGrant.contained (h : db.AddsGrant db' grant) : db'.contained = db.contained := by
  unfold Accounts.contained
  rw [h.permissions, h.applicationRolePermissions]

theorem AddsGrant.granted (h : db.AddsGrant db' grant)
    : db'.granted = insert grant.key db.granted := by
  unfold Accounts.granted
  rw [h.userApplicationRoles]
  ext key
  simp [or_comm]

theorem AddsGrant.permissionSet (h : db.AddsGrant db' grant) (huser : grant.userId = user.id)
    : db'.permissionSet user = db.permissionSet user ∪ db.contained grant.applicationRoleId := by
  rw [permissionSet_eq, permissionSet_eq, h.contained, h.granted, UserApplicationRole.key, huser]
  apply Rbac.effective_insert

theorem AddsGrant.permissionSet_of_ne (h : db.AddsGrant db' grant) (hother : other.id ≠ grant.userId)
    : db'.permissionSet other = db.permissionSet other := by
  rw [permissionSet_eq, permissionSet_eq, h.contained, h.granted, UserApplicationRole.key]
  apply Rbac.effective_insert_of_ne
  assumption

end Accounts

namespace AccountCall

variable {hasher : PasswordHasher} {db : Accounts} {call : AccountCall}

theorem commitsLast_service : (call.service hasher).CommitsLast := by
  cases call with
  | createUser => apply commitsLast_createUser
  | assignApplicationRole => apply commitsLast_assignApplicationRole

theorem after_of_error {e : AccountError} (h : (call.perform hasher db).outcome = .error e)
    : call.after hasher db = db := by
  apply Transaction.store_of_error
  . apply commitsLast_service
  . exact h

theorem returns_of_ok {user : User} (h : (call.perform hasher db).outcome = .ok user)
    : AccountService.Returns db db (call.service hasher) user (call.after hasher db) :=
  ⟨h, rfl⟩

/-- What the user named in a call holds already, or what the call names in vain. -/
inductive Refused (db : Accounts) (username roleCode : Str) : Prop where
  | unknownUser (h : ∀ user ∈ db.users.rows, user.username ≠ normalizeUsername username)
  | unknownRole (h : ∀ role ∈ db.applicationRoles.rows, role.code ≠ roleCode)
  | held (user : User) (role : ApplicationRole) (huser : user ∈ db.users.rows)
      (husername : user.username = normalizeUsername username)
      (hrole : role ∈ db.applicationRoles.rows) (hcode : role.code = roleCode)
      (hgrant : ⟨user.id, role.id⟩ ∈ db.userApplicationRoles.rows)

/-- What a call makes of the permissions, given the database before it, its outcome and the one after. -/
def Authorizes (db : Accounts) (outcome : Except AccountError User) (db' : Accounts)
    : AccountCall → Prop
  | createUser _ _ _ _ _ _ => ∀ user, outcome = .ok user →
    db'.permissionSet user = ∅ ∧ ∀ other : User, db'.permissionSet other = db.permissionSet other
  | assignApplicationRole username roleCode _ =>
    (∀ user, outcome = .ok user →
        user ∈ db.users.rows ∧ user.username = normalizeUsername username
          ∧ (∃ role ∈ db.applicationRoles.rows, role.code = roleCode
            ∧ db'.permissionSet user = db.permissionSet user ∪ db.contained role.id)
          ∧ ∀ other : User, other.id ≠ user.id → db'.permissionSet other = db.permissionSet other)
      ∧ (Refused db username roleCode → ∃ e, outcome = .error e)

theorem createUser_authorizes {username password : Str} {active : Bool} {id : UUID} {salt : Salt}
    {commits : Bool}
    : let call := createUser username password active id salt commits
      call.Authorizes db (call.perform hasher db).outcome (call.after hasher db) := by
  intro call user hok
  have hreturns := returns_of_ok hok
  rw [service, returns_createUser] at hreturns
  rcases hreturns with ⟨_, _, _, _, passwordHash, _, rfl, _, happly⟩
  have hadds := AccountWrite.apply_newUser happly
  refine ⟨?_, hadds.permissionSet⟩
  rw [hadds.permissionSet]
  exact Accounts.permissionSet_of_fresh hadds.id_fresh

theorem Refused.not_ok {username roleCode : Str} {commits : Bool} (h : Refused db username roleCode)
    (user : User)
    : ((assignApplicationRole username roleCode commits).perform hasher db).outcome ≠ .ok user := by
  intro hok
  have hreturns := returns_of_ok hok
  rw [service, returns_assignApplicationRole] at hreturns
  rcases hreturns with ⟨_, _, hfound, role, hrole, hgrant, _⟩
  rw [Accounts.userNamed?_eq_some] at hfound
  rw [Accounts.roleCoded?_eq_some] at hrole
  cases h with
  | unknownUser h => exact h user hfound.1 hfound.2
  | unknownRole h => exact h role hrole.1 hrole.2
  | held user' role' huser husername hrole' hcode hmem =>
    have hsame : user' = user :=
      List.inj_on_of_nodup_map db.uq_users_username huser hfound.1 (husername.trans hfound.2.symm)
    have hsame' : role' = role :=
      List.inj_on_of_nodup_map db.uq_application_roles_code hrole' hrole.1
        (hcode.trans hrole.2.symm)
    rw [hsame, hsame'] at hmem
    have hget := Table.get?_eq_some.mpr ⟨hmem, rfl⟩
    rw [UserApplicationRole.key, hgrant] at hget
    injection hget

theorem assignApplicationRole_authorizes {username roleCode : Str} {commits : Bool}
    : let call := assignApplicationRole username roleCode commits
      call.Authorizes db (call.perform hasher db).outcome (call.after hasher db) := by
  intro call
  constructor
  . intro user hok
    have hreturns := returns_of_ok hok
    rw [service, returns_assignApplicationRole] at hreturns
    rcases hreturns with ⟨_, _, hfound, role, hrole, _, _, happly⟩
    rw [Accounts.userNamed?_eq_some] at hfound
    rw [Accounts.roleCoded?_eq_some] at hrole
    have hadds := AccountWrite.apply_newGrant happly
    refine ⟨hfound.1, hfound.2, ⟨role, hrole.1, hrole.2, ?_⟩, ?_⟩
    . exact hadds.permissionSet rfl
    . intro other hother
      exact hadds.permissionSet_of_ne hother
  . intro hrefused
    cases houtcome : (call.perform hasher db).outcome with
    | error e => exact ⟨e, rfl⟩
    | ok user => exact absurd houtcome (hrefused.not_ok user)

end AccountCall

/--
After any run of the calls, a user may do what its roles contain, no role is granted twice, and the
next call changes permissions as it should, or raises and changes nothing.
-/
theorem afterAll_authorizes (hasher : PasswordHasher) (db : Accounts) (calls : List AccountCall)
    : let reached := db.afterAll hasher calls
      (∀ user code, userHasPermission reached user code = true ↔ reached.Holds user code)
        ∧ (reached.userApplicationRoles.rows.map UserApplicationRole.key).Nodup
        ∧ ∀ call : AccountCall,
          call.Authorizes reached (call.perform hasher reached).outcome
              (db.afterAll hasher (calls ++ [call]))
            ∧ ∀ e, (call.perform hasher reached).outcome = .error e →
              db.afterAll hasher (calls ++ [call]) = reached := by
  intro reached
  refine ⟨?_, reached.userApplicationRoles.nodup, ?_⟩
  . intro user code
    apply userHasPermission_iff
  . intro call
    have hafter : db.afterAll hasher (calls ++ [call]) = call.after hasher reached :=
      List.foldl_concat ..
    rw [hafter]
    refine ⟨?_, ?_⟩
    . cases call with
      | createUser => apply AccountCall.createUser_authorizes
      | assignApplicationRole => apply AccountCall.assignApplicationRole_authorizes
    . intro e
      apply AccountCall.after_of_error

end Api
