import Ketabdaneh.Api.Lemmas.AccountSession
import Ketabdaneh.Api.Lemmas.Session
import Ketabdaneh.Api.Routes.Requests
import Ketabdaneh.Api.Services.Lemmas.Authz

/-!
This module contains how all the tables grow: what the requests, the logins and the operators do to
them keeps what was read before.
-/

namespace Api

open Text Transaction

/-- A user stays who it is and as active as it was; only its hash may change. -/
structure Accounts.Extends (a b : Accounts) : Prop where
  applicationRoles : b.applicationRoles = a.applicationRoles
  permissions : b.permissions = a.permissions
  applicationRolePermissions : b.applicationRolePermissions = a.applicationRolePermissions
  users : ∀ user ∈ a.users.rows, ∃ user' ∈ b.users.rows,
    user'.id = user.id ∧ user'.username = user.username ∧ user'.active = user.active
  grants : a.userApplicationRoles.rows ⊆ b.userApplicationRoles.rows

/-- People come with all their roles. -/
structure Database.Extends (a b : Database) : Prop where
  grows : a.Grows b
  links : ∀ link ∈ b.personRoles.rows, link.personId ∈ a.persons.rows.map Person.id →
    link ∈ a.personRoles.rows

theorem Accounts.Extends.refl (a : Accounts) : a.Extends a :=
  ⟨rfl, rfl, rfl, fun user huser => ⟨user, huser, rfl, rfl, rfl⟩, List.Subset.refl _⟩

theorem Accounts.Extends.trans {a b c : Accounts} (hab : a.Extends b) (hbc : b.Extends c)
    : a.Extends c where
  applicationRoles := by rw [hbc.applicationRoles, hab.applicationRoles]
  permissions := by rw [hbc.permissions, hab.permissions]
  applicationRolePermissions := by
    rw [hbc.applicationRolePermissions, hab.applicationRolePermissions]
  users := by
    intro user huser
    rcases hab.users user huser with ⟨user', huser', hid, hname, hactive⟩
    rcases hbc.users user' huser' with ⟨user'', huser'', hid', hname', hactive'⟩
    exact ⟨user'', huser'', hid'.trans hid, hname'.trans hname, hactive'.trans hactive⟩
  grants := List.Subset.trans hab.grants hbc.grants

instance Accounts.preorder : Preorder Accounts where
  le := Accounts.Extends
  le_refl := Accounts.Extends.refl
  le_trans _ _ _ := Accounts.Extends.trans

instance Data.preorder : Preorder Data where
  le a b := a.accounts.Extends b.accounts ∧ a.database.Extends b.database
  le_refl a := by
    refine ⟨Accounts.Extends.refl _, ⟨Database.Grows.refl _, ?_⟩⟩
    intro link hlink _
    exact hlink
  le_trans a b c hab hbc := by
    constructor
    . exact hab.1.trans hbc.1
    . constructor
      . exact hab.2.grows.trans hbc.2.grows
      . intro link hlink hperson
        apply hab.2.links link (hbc.2.links link hlink ?_) hperson
        exact List.map_subset Person.id hab.2.grows.persons.subset hperson

theorem Table.get?_of_subset {Row Key : Type} [DecidableEq Key] {key : Row → Key}
    {table table' : Table Row key} (h : table.rows ⊆ table'.rows) {k : Key} {row : Row}
    (hget : table.get? k = some row) : table'.get? k = some row := by
  rw [Table.get?_eq_some] at hget ⊢
  exact ⟨h hget.1, hget.2⟩

namespace Accounts.Extends

variable {a b : Accounts} (h : a.Extends b)

include h

/-- An active user is found later too, if with another hash. -/
theorem get?_user {id : UUID} {user : User} (huser : a.users.get? id = some user)
    : ∃ user', b.users.get? id = some user' ∧ user'.id = user.id ∧ user'.active = user.active := by
  rw [Table.get?_eq_some] at huser
  rcases h.users user huser.1 with ⟨user', hmem, hid, _, hactive⟩
  refine ⟨user', ?_, hid, hactive⟩
  rw [Table.get?_eq_some]
  exact ⟨hmem, hid.trans huser.2⟩

theorem userHasPermission {user : User} {permission : Str}
    (hpermitted : Api.userHasPermission a user permission = true)
    : Api.userHasPermission b user permission = true := by
  rw [userHasPermission_iff] at hpermitted ⊢
  rcases hpermitted with ⟨role, hrole, hgrant, held, hheld, hlink, hcode⟩
  refine ⟨role, ?_, h.grants hgrant, held, ?_, ?_, hcode⟩
  . rw [h.applicationRoles]
    exact hrole
  . rw [h.permissions]
    exact hheld
  . rw [h.applicationRolePermissions]
    exact hlink

end Accounts.Extends

namespace Database.Extends

open Statements

variable {a b : Database} (h : a.Extends b)

include h

theorem findRole : Api.findRole b = Api.findRole a := by
  funext code
  unfold Api.findRole
  rw [h.grows.roles]

theorem findResponsibility (code : Str)
    : Api.findResponsibility b code = Api.findResponsibility a code := by
  unfold Api.findResponsibility
  rw [h.grows.responsibilities]

theorem getEvent {id : UUID} {event : EventRead} (hevent : Api.getEvent a id = .ok event)
    : Api.getEvent b id = .ok event := by
  unfold Api.getEvent at hevent ⊢
  cases hget : a.events.get? id with
  | none =>
    rw [hget] at hevent
    contradiction
  | some row =>
    rw [hget] at hevent
    rw [Table.get?_of_subset h.grows.events.subset hget]
    exact hevent

theorem get?_person {id : UUID} {person : Person} (hperson : a.persons.get? id = some person)
    : b.persons.get? id = some person :=
  Table.get?_of_subset h.grows.persons.subset hperson

theorem get?_eventAssignment {id : UUID} {row : EventAssignment}
    (hrow : a.eventAssignments.get? id = some row) : b.eventAssignments.get? id = some row :=
  Table.get?_of_subset h.grows.eventAssignments.subset hrow

theorem rolesIn (ids : List UUID) : Statements.rolesIn b ids = Statements.rolesIn a ids := by
  unfold Statements.rolesIn
  rw [h.grows.roles]

theorem responsibilitiesIn (ids : List UUID)
    : Statements.responsibilitiesIn b ids = Statements.responsibilitiesIn a ids := by
  unfold Statements.responsibilitiesIn
  rw [h.grows.responsibilities]

/-- Nobody who is there gets or loses a role. -/
theorem linksOf {ids : List UUID} (hids : ids ⊆ a.persons.rows.map Person.id)
    : Statements.linksOf b ids = Statements.linksOf a ids := by
  rcases h.grows.personRoles with ⟨new, hnew⟩
  unfold Statements.linksOf
  rw [← hnew, List.filter_append, List.append_right_eq_self, List.filter_eq_nil_iff]
  intro link hlink hmem
  rw [decide_eq_true_eq] at hmem
  have hnodup := b.personRoles.nodup
  rw [← hnew, List.map_append] at hnodup
  have hold : link ∈ a.personRoles.rows := by
    apply h.links link _ (hids hmem)
    rw [← hnew]
    exact List.mem_append_right _ hlink
  exact List.disjoint_of_nodup_append hnodup (List.mem_map_of_mem hold) (List.mem_map_of_mem hlink)

end Database.Extends

/-- The links of a new person are its own. -/
def NewRow.Own : NewRow → Prop
  | .person row links => ∀ link ∈ links, link.personId = row.id
  | _ => True

theorem NewRow.extends_of_insert {db db' : Database} {row : NewRow} (hown : row.Own)
    (h : row.insert db = some db') : db.Extends db' where
  grows := (insert_adds h).grows
  links := by
    intro link hlink hperson
    have hadds := insert_adds h
    rw [hadds.personRoles, List.mem_append] at hlink
    apply hlink.resolve_right
    intro hnew
    cases row with
    | person row links =>
      have hnodup := db'.persons.nodup
      rw [hadds.persons, List.map_append] at hnodup
      apply List.disjoint_of_nodup_append hnodup hperson
      rw [hown link hnew]
      exact List.mem_map_of_mem (List.mem_singleton_self row)
    | event row => exact absurd hnew List.not_mem_nil
    | eventAssignment row => exact absurd hnew List.not_mem_nil

theorem dataSchema_apply_eq_ok {ε : Type} {failed : ε} {data data' : Data} {row : NewRow}
    (h : (dataSchema failed).apply data row = .ok data')
    : row.texts.all storable = true ∧ row.insert data.database = some data'.database
        ∧ data'.accounts = data.accounts := by
  simp only [dataSchema] at h
  split at h
  . next htexts =>
    cases hinsert : row.insert data.database with
    | none =>
      rw [hinsert] at h
      contradiction
    | some database =>
      rw [hinsert] at h
      injection h with h
      rw [← h]
      exact ⟨htexts, rfl, rfl⟩
  . contradiction

theorem le_of_apply {ε : Type} {failed : ε} {data data' : Data} {row : NewRow} (hown : row.Own)
    (h : (dataSchema failed).apply data row = .ok data') : data ≤ data' := by
  rcases dataSchema_apply_eq_ok h with ⟨_, hinsert, haccounts⟩
  constructor
  . rw [haccounts]
    exact (le_refl data).1
  . exact NewRow.extends_of_insert hown hinsert

theorem Accounts.extends_setPasswordHash (db : Accounts) (id : UUID) (passwordHash : Str)
    : db.Extends (db.setPasswordHash id passwordHash) where
  applicationRoles := rfl
  permissions := rfl
  applicationRolePermissions := rfl
  users := by
    intro user huser
    refine ⟨_, List.mem_map_of_mem huser, ?_⟩
    split
    . exact ⟨rfl, rfl, rfl⟩
    . exact ⟨rfl, rfl, rfl⟩
  grants := List.Subset.refl _

theorem Accounts.AddsUser.extends {db db' : Accounts} {user : User} (h : db.AddsUser db' user)
    : db.Extends db' where
  applicationRoles := h.applicationRoles
  permissions := h.permissions
  applicationRolePermissions := h.applicationRolePermissions
  users := by
    intro user huser
    refine ⟨user, ?_, rfl, rfl, rfl⟩
    rw [h.users]
    exact List.mem_append_left _ huser
  grants := by
    rw [h.userApplicationRoles]
    exact List.Subset.refl _

theorem Accounts.AddsGrant.extends {db db' : Accounts} {grant : UserApplicationRole}
    (h : db.AddsGrant db' grant) : db.Extends db' where
  applicationRoles := h.applicationRoles
  permissions := h.permissions
  applicationRolePermissions := h.applicationRolePermissions
  users := by
    intro user huser
    refine ⟨user, ?_, rfl, rfl, rfl⟩
    rw [h.users]
    exact huser
  grants := by
    rw [h.userApplicationRoles]
    exact List.subset_append_left _ _

theorem AccountWrite.extends_of_apply {db db' : Accounts} {write : AccountWrite}
    (h : write.apply db = .ok db') : db.Extends db' := by
  cases write with
  | newUser row => exact (apply_newUser h).extends
  | newGrant row => exact (apply_newGrant h).extends
  | setPasswordHash id passwordHash =>
    unfold apply at h
    split at h
    . dsimp only at h
      split at h
      . injection h with h
        rw [← h]
        apply Accounts.extends_setPasswordHash
      . contradiction
    . contradiction

theorem Data.le_write (data : Data) (write : AccountWrite) : data ≤ data.write write := by
  unfold Data.write
  split
  . next accounts happly => exact ⟨AccountWrite.extends_of_apply happly, (le_refl data).2⟩
  . exact le_refl data

end Api
