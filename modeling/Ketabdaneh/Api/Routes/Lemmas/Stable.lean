import Ketabdaneh.Api.Lemmas.Data

/-!
This module contains that the requests are stable: what they have read before they write is still
there when they write, whatever else is written in between.
-/

namespace Api

open Text Transaction Program

namespace Statements

section

variable {ε : Type} {data : Data}

theorem dataSchema_mapError (f : CreateError → ε)
    : (dataSchema CreateError.database).mapError f = dataSchema (f .database) := by
  unfold Schema.mapError dataSchema
  congr
  funext data row
  dsimp only
  split
  . cases row.insert data.database with
    | none => rfl
    | some database => rfl
  . rfl

theorem stable_mapError {α : Type} {f : CreateError → ε} {p : DataProgram CreateError α}
    (h : p.Stable (dataSchema .database) [] data) (failed : ε) (hf : f .database = failed)
    : (p.mapError f).Stable (dataSchema failed) [] data := by
  rw [← hf, ← dataSchema_mapError]
  exact h.mapError f

/-- A row is written and committed, and what comes then only reads. -/
theorem stable_addCommit_bind {α : Type} {row : NewRow} {commits : Bool}
    {q : Unit → DataProgram CreateError α} (hown : row.Own)
    (hq : ∀ t u : Data, data ≤ t → (dataSchema CreateError.database).apply t row = .ok u →
      ∃ result, (q ()).Settled result u)
    : (addCommit row commits >>= q).Stable (dataSchema .database) [] data := by
  cases commits with
  | false => trivial
  | true =>
    intro t u hdata hview
    have happly : (dataSchema CreateError.database).apply t row = .ok u := by
      rw [← hview]
      simp [Schema.view]
    exact ⟨le_of_apply hown happly, hq t u hdata happly⟩

theorem stable_resolveRoles_bind {α : Type} {codes : List Str}
    {q : List Role → DataProgram CreateError α}
    (h : ∀ roles (t : Data), data ≤ t → (q roles).Stable (dataSchema .database) [] t)
    : (resolveRoles codes >>= q).Stable (dataSchema .database) [] data := by
  unfold resolveRoles
  split
  . exact h [] data le_rfl
  . unfold query
    split
    . refine ⟨rfl, ?_⟩
      intro t hdata
      right
      constructor
      . show (Program.bind (if codes.filter (fun code => (findRole t.database code).isNone) ≠ []
          then _ else _) q).Stable _ _ _
        split
        . trivial
        . exact h _ t hdata
      . intro u htu
        simp only [htu.2.findRole]
    . trivial

theorem stable_createPerson (payload : PersonCreate) (id : UUID) (commits : Bool)
    : (createPerson payload id commits).Stable (dataSchema .database) [] data := by
  apply stable_resolveRoles_bind
  intro roles t _
  apply stable_addCommit_bind
  . intro link hlink
    rw [List.mem_map] at hlink
    rcases hlink with ⟨role, _, rfl⟩
    rfl
  . intro _ u _ _
    exact ⟨_, rfl⟩

theorem stable_createEvent (payload : EventCreate) (id : UUID) (commits : Bool)
    : (createEvent payload id commits).Stable (dataSchema .database) [] data := by
  apply stable_addCommit_bind
  . trivial
  . intro _ u _ _
    exact ⟨_, rfl⟩

theorem stable_fetchEvent_bind {α : Type} {id : UUID} {q : EventRead → DataProgram CreateError α}
    (h : ∀ event (t : Data), (q event).Stable (dataSchema .database) [] t)
    : (fetchEvent id >>= q).Stable (dataSchema .database) [] data := by
  refine ⟨rfl, ?_⟩
  intro t _
  dsimp only
  cases hevent : Api.getEvent t.database id with
  | error e =>
    left
    cases e with
    | notFound => exact ⟨_, rfl⟩
    | database => exact ⟨_, rfl⟩
  | ok event =>
    right
    refine ⟨h event t, ?_⟩
    intro u htu
    rw [htu.2.getEvent hevent]

theorem stable_fetchPerson_bind {α : Type} {id : UUID} {q : Person → DataProgram CreateError α}
    (h : ∀ person (t : Data), (q person).Stable (dataSchema .database) [] t)
    : (fetchPerson id >>= q).Stable (dataSchema .database) [] data := by
  refine ⟨rfl, ?_⟩
  intro t _
  dsimp only
  cases hperson : t.database.persons.get? id with
  | none => exact Or.inl ⟨_, rfl⟩
  | some person =>
    right
    refine ⟨h person t, ?_⟩
    intro u htu
    rw [htu.2.get?_person hperson]

theorem stable_fetchResponsibility_bind {α : Type} {code : Str}
    {q : EventResponsibility → DataProgram CreateError α}
    (h : ∀ responsibility (t : Data), (q responsibility).Stable (dataSchema .database) [] t)
    : (fetchResponsibility code >>= q).Stable (dataSchema .database) [] data := by
  unfold fetchResponsibility query
  split
  . refine ⟨rfl, ?_⟩
    intro t _
    right
    constructor
    . dsimp only
      cases findResponsibility t.database code with
      | none => trivial
      | some responsibility => exact h responsibility t
    . intro u htu
      simp only [htu.2.findResponsibility]
  . trivial

theorem stable_createEventAssignment (payload : EventAssignmentCreate) (id : UUID) (commits : Bool)
    : (createEventAssignment payload id commits).Stable (dataSchema .database) [] data := by
  apply stable_fetchEvent_bind
  intro _ _
  apply stable_fetchPerson_bind
  intro _ _
  apply stable_fetchResponsibility_bind
  intro responsibility _
  apply stable_addCommit_bind
  . trivial
  . intro t u _ happly
    -- the row is there from the commit on
    rcases dataSchema_apply_eq_ok happly with ⟨_, hinsert, _⟩
    have hrow : u.database.eventAssignments.get? id = some {
        id
        eventId := payload.eventId
        personId := payload.personId
        responsibilityId := responsibility.id
      } := by
      rw [Table.get?_eq_some, (NewRow.insert_adds hinsert).eventAssignments]
      exact ⟨List.mem_append_right _ (List.mem_singleton_self _), rfl⟩
    refine ⟨.ok (u.database.eventAssignments.get? id), ?_⟩
    apply Settled.query
    intro v huv
    rw [hrow, huv.2.get?_eventAssignment hrow]

end

variable {data : Data} (loading : SelectInLoading)

theorem settled_selectIn {Row : Type} {select : Database → List UUID → List Row}
    (batches : List (List UUID))
    (h : ∀ t : Data, data ≤ t → ∀ keys ∈ batches, select t.database keys = select data.database keys)
    : (selectIn select batches).Settled (.ok (batches.flatMap (select data.database))) data := by
  induction batches generalizing data with
  | nil => rfl
  | cons keys batches ih =>
    apply Settled.bind
    . apply Settled.query
      intro t hdata
      exact h t hdata keys List.mem_cons_self
    . apply Settled.bind
      . apply ih
        intro t hdata rest hrest
        exact h t hdata rest (List.mem_cons_of_mem _ hrest)
      . rfl

/-- The links of the people of a batch, with their roles, as one reading of the tables has them. -/
def linkedRoles (db : Database) (personIds : List UUID) : List (PersonRole × Role) :=
  let links := linksOf db personIds
  let roles := (loading.batches (links.map PersonRole.roleId).eraseDups).flatMap (rolesIn db)
  links.filterMap fun link =>
    (roles.find? fun role => role.id = link.roleId).map fun role => (link, role)

theorem settled_loadLinks (batches : List (List UUID))
    (h : ∀ personIds ∈ batches, personIds ⊆ data.database.persons.rows.map Person.id)
    : (loadLinks loading batches).Settled
        (.ok (batches.flatMap (linkedRoles loading data.database))) data := by
  induction batches generalizing data with
  | nil => rfl
  | cons personIds batches ih =>
    apply Settled.bind
    . apply Settled.query
      intro t hdata
      exact hdata.2.linksOf (h personIds List.mem_cons_self)
    . apply Settled.bind
      . apply settled_selectIn
        intro t hdata ids _
        exact hdata.2.rolesIn ids
      . apply Settled.bind
        . apply ih
          intro ids hids
          exact h ids (List.mem_cons_of_mem _ hids)
        . rfl

/-- What the two queries for the assignments answer. -/
def readsIn (db : Database) (rows : List EventAssignment) : List EventAssignmentRead :=
  let ids := (rows.map EventAssignment.responsibilityId).eraseDups
  let responsibilities := (loading.batches ids).flatMap (responsibilitiesIn db)
  rows.filterMap fun row =>
    (responsibilities.find? fun responsibility => responsibility.id = row.responsibilityId).map
      fun responsibility =>
        ⟨row.id, row.eventId, row.personId, responsibility, row.approvalStatus⟩

theorem settled_loadResponsibilities (rows : List EventAssignment)
    : (loadResponsibilities loading rows).Settled (.ok (readsIn loading data.database rows)) data := by
  apply Settled.bind
  . apply settled_selectIn
    intro t hdata keys _
    exact hdata.2.responsibilitiesIn keys
  . rfl

theorem settled_respond (status : Nat) (row : EventAssignment)
    : ∃ outcome, (respond loading status row).Settled outcome data := by
  apply Settled.exists_bind
  . exact settled_loadResponsibilities loading [row]
  . intro reads
    cases reads with
    | nil => exact ⟨_, rfl⟩
    | cons read reads => exact ⟨_, rfl⟩

theorem mem_persons_of_mem_batches {persons : List Person} {personIds : List UUID}
    (h : personIds ∈ loading.batches (persons.map Person.id))
    : personIds ⊆ persons.map Person.id := by
  rw [← loading.flatten (persons.map Person.id)]
  intro id hid
  exact List.mem_flatten.mpr ⟨personIds, h, hid⟩

end Statements

theorem Operation.stable_statements (loading : SelectInLoading) (collate : Collation)
    (operation : Operation) (data : Data)
    : (operation.statements loading collate).Stable (dataSchema .unhandled) [] data := by
  cases operation with
  | listRoles => exact Stable.query_bind_settled fun t _ => ⟨_, rfl⟩
  | listPersons =>
    apply Stable.query_bind_settled
    intro t _
    apply Settled.exists_bind
    . apply Statements.settled_loadLinks
      intro personIds hids
      refine List.Subset.trans (Statements.mem_persons_of_mem_batches loading hids) ?_
      exact List.map_subset Person.id (List.mergeSort_perm _ _).subset
    . intro links
      exact ⟨_, rfl⟩
  | createPerson payload id commits =>
    apply Stable.bind
    . exact Statements.stable_mapError (Statements.stable_createPerson payload id commits) _ rfl
    . intro a t _
      exact ⟨_, rfl⟩
  | listEvents =>
    apply Stable.query_bind_settled
    intro t _
    cases Api.listEvents t.database with
    | none => exact ⟨_, rfl⟩
    | some events => exact ⟨_, rfl⟩
  | getEvent id =>
    apply Stable.query_bind_settled
    intro t _
    cases Api.getEvent t.database id with
    | ok event => exact ⟨_, rfl⟩
    | error e =>
      cases e with
      | notFound => exact ⟨_, rfl⟩
      | database => exact ⟨_, rfl⟩
  | createEvent payload id commits =>
    apply Stable.bind
    . exact Statements.stable_mapError (Statements.stable_createEvent payload id commits) _ rfl
    . intro a t _
      exact ⟨_, rfl⟩
  | listEventAssignments =>
    apply Stable.query_bind_settled
    intro t _
    apply Settled.exists_bind
    . apply Statements.settled_loadResponsibilities
    . intro reads
      exact ⟨_, rfl⟩
  | getEventAssignment id =>
    apply Stable.query_bind_settled
    intro t _
    cases t.database.eventAssignments.get? id with
    | none => exact ⟨_, rfl⟩
    | some row => exact Statements.settled_respond loading 200 row
  | createEventAssignment payload id commits =>
    apply Stable.bind
    . exact Statements.stable_mapError
        (Statements.stable_createEventAssignment payload id commits) _ rfl
    . intro found t _
      cases found with
      | none => exact ⟨_, rfl⟩
      | some row => exact Statements.settled_respond loading 201 row

/-- A user whose hash has changed is permitted the same. -/
theorem userHasPermission_of_id {db : Accounts} {user other : User} (h : other.id = user.id)
    (permission : Str) : userHasPermission db other permission = userHasPermission db user permission := by
  unfold userHasPermission userPermissionCodes
  rw [h]

namespace Statements

section

variable {jwt : PyJWT} {settings : AuthSettings} {data : Data} {α : Type}

/-- What comes after the user was found, if it does not depend on the hash, may rely on the user. -/
theorem stable_getCurrentUser_bind {credentials : Option HTTPAuthorizationCredentials}
    {q : User → DataProgram Raised α}
    (hq : ∀ user (t : Data), data ≤ t → (q user).Stable (dataSchema .unhandled) [] t)
    (hsame : ∀ user other : User, other.id = user.id → q other = q user)
    : (getCurrentUser jwt settings credentials >>= q).Stable (dataSchema .unhandled) [] data := by
  unfold getCurrentUser
  cases credentials with
  | none => trivial
  | some credentials =>
    dsimp only
    split
    . trivial
    . cases resolveTokenSubject jwt settings credentials.credentials with
      | error e =>
        cases e with
        | invalidToken => trivial
        | insecureSecret => trivial
        | other => trivial
      | ok subject =>
        dsimp only
        cases Python.uuid subject with
        | none => trivial
        | some userId =>
          rw [Program.bind_assoc]
          apply Stable.query_bind
          intro t hdata
          cases huser : t.accounts.users.get? userId with
          | none => exact Or.inl ⟨_, rfl⟩
          | some user =>
            dsimp only
            cases hactive : user.active with
            | false => exact Or.inl ⟨_, rfl⟩
            | true =>
              right
              refine ⟨hq user t hdata, ?_⟩
              intro u htu
              rcases htu.1.get?_user huser with ⟨user', huser', hid, hactive'⟩
              rw [huser']
              dsimp only
              rw [hactive', hactive]
              exact hsame user user' hid

theorem stable_requirePermission_bind {permission : Str}
    {httpBearer : Option Str → Option HTTPAuthorizationCredentials} {header : Option Str}
    {q : DataProgram Raised α} (hq : ∀ t : Data, data ≤ t → q.Stable (dataSchema .unhandled) [] t)
    : (requirePermission jwt settings permission httpBearer header >>= fun _ => q).Stable
        (dataSchema .unhandled) [] data := by
  unfold requirePermission
  rw [Program.bind_assoc]
  apply stable_getCurrentUser_bind
  . intro user t hdata
    rw [Program.bind_assoc]
    apply Stable.query_bind
    intro u htu
    cases hpermitted : userHasPermission u.accounts user permission with
    | false => exact Or.inl ⟨_, rfl⟩
    | true =>
      right
      refine ⟨hq u (hdata.trans htu), ?_⟩
      intro v huv
      rw [huv.1.userHasPermission hpermitted]
  . intro user other hid
    rw [Program.bind_assoc, Program.bind_assoc]
    congr 1
    . rw [funext fun data : Data => userHasPermission_of_id hid permission]
    . funext permitted
      cases permitted with
      | false => rfl
      | true => rfl

end

end Statements

theorem ProtectedRequest.stable_statements (deployment : Deployment) (request : ProtectedRequest)
    (data : Data)
    : (request.statements deployment).Stable (dataSchema .unhandled) [] data := by
  apply Statements.stable_requirePermission_bind
  intro t _
  apply Operation.stable_statements

end Api
