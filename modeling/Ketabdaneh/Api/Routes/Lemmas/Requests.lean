import Ketabdaneh.Api.Routes.Lemmas.Stable
import Ketabdaneh.Api.Services.Lemmas.Statements

/-!
This module contains that a request does statement by statement what it does as a whole, when nothing
runs beside it.
-/

namespace Api

open Text Transaction

theorem Table.find?_eq_get? {Row Key : Type} [DecidableEq Key] {key : Row → Key}
    {table : Table Row key} {rows : List Row} {k : Key} (hrows : rows ⊆ table.rows)
    (hall : ∀ row ∈ table.rows, key row = k → row ∈ rows)
    : rows.find? (fun row => key row = k) = table.get? k := by
  cases hget : table.get? k with
  | none =>
    rw [List.find?_eq_none]
    intro row hrow
    unfold Table.get? at hget
    rw [List.find?_eq_none] at hget
    exact hget row (hrows hrow)
  | some row =>
    rw [Table.get?_eq_some] at hget
    have hmem := hall row hget.1 hget.2
    have hsome : (rows.find? fun row => key row = k).isSome = true := by
      rw [List.find?_isSome]
      exact ⟨row, hmem, decide_eq_true hget.2⟩
    rcases Option.isSome_iff_exists.mp hsome with ⟨found, hfound⟩
    rw [hfound, ← Table.get?_eq_some.mpr hget]
    have hkey := List.find?_some hfound
    rw [decide_eq_true_eq] at hkey
    exact (Table.get?_eq_some.mpr ⟨hrows (List.mem_of_find?_eq_some hfound), hkey⟩).symm

namespace Statements

variable (loading : SelectInLoading)

theorem mem_flatMap_batches {Row : Type} {rows : List Row} {key : Row → UUID} {ids : List UUID}
    {row : Row}
    : row ∈ (loading.batches ids).flatMap (fun keys => rows.filter fun row => key row ∈ keys)
        ↔
      row ∈ rows ∧ key row ∈ ids := by
  conv => rhs; rw [← loading.flatten ids]
  simp only [List.mem_flatMap, List.mem_filter, decide_eq_true_eq, List.mem_flatten]
  constructor
  . rintro ⟨keys, hkeys, hrow, hkey⟩
    exact ⟨hrow, keys, hkeys, hkey⟩
  . rintro ⟨hrow, keys, hkeys, hkey⟩
    exact ⟨keys, hkeys, hrow, hkey⟩

/-- A row of the batches is the row of the table. -/
theorem find?_batches {Row : Type} {key : Row → UUID} {table : Table Row key} {ids : List UUID}
    {id : UUID} (hid : id ∈ ids)
    : ((loading.batches ids).flatMap fun keys => table.rows.filter fun row => key row ∈ keys).find?
          (fun row => key row = id)
        =
      table.get? id := by
  apply Table.find?_eq_get?
  . intro row hrow
    exact ((mem_flatMap_batches loading).mp hrow).1
  . intro row hrow hkey
    rw [mem_flatMap_batches loading, hkey]
    exact ⟨hrow, hid⟩

variable (db : Database)

theorem linkedRoles_eq (personIds : List UUID)
    : linkedRoles loading db personIds
        =
      (linksOf db personIds).filterMap fun link =>
        (db.roles.get? link.roleId).map fun role => (link, role) := by
  unfold linkedRoles
  apply List.filterMap_congr
  intro link hlink
  congr 1
  apply find?_batches
  rw [List.mem_eraseDups]
  exact List.mem_map_of_mem hlink

theorem rolesOf_batch (personIds : List UUID) (id : UUID)
    : ((linkedRoles loading db personIds).filter fun link => link.1.personId = id).map Prod.snd
        =
      if id ∈ personIds then rolesOf db id else [] := by
  rw [linkedRoles_eq, linksOf, List.filter_filterMap, List.map_filterMap, List.filterMap_filter]
  have hlink : ∀ link : PersonRole,
      (if link.personId ∈ personIds then
          Option.map Prod.snd (Option.filter (fun pair => pair.1.personId = id)
            ((db.roles.get? link.roleId).map fun role => (link, role)))
        else none)
        =
      if id ∈ personIds then if link.personId = id then db.roles.get? link.roleId else none else none := by
    intro link
    by_cases hid : link.personId = id
    . rw [hid]
      cases db.roles.get? link.roleId with
      | none => simp
      | some role => simp [Option.filter, hid]
    . cases db.roles.get? link.roleId with
      | none => simp
      | some role => simp [Option.filter, hid]
  simp only [decide_eq_true_eq]
  rw [funext hlink]
  unfold rolesOf
  split
  . rw [List.filterMap_filter]
    simp only [decide_eq_true_eq]
  . simp

/-- Everybody is in one batch. -/
theorem rolesOf_batches {batches : List (List UUID)} (h : batches.flatten.Nodup) (id : UUID)
    : ((batches.flatMap (linkedRoles loading db)).filter fun link => link.1.personId = id).map Prod.snd
        =
      if id ∈ batches.flatten then rolesOf db id else [] := by
  induction batches with
  | nil => simp
  | cons personIds batches ih =>
    rw [List.flatten_cons] at h ⊢
    rw [List.flatMap_cons, List.filter_append, List.map_append, rolesOf_batch,
      ih (List.Nodup.of_append_right h)]
    by_cases hhere : id ∈ personIds
    . have hnot : id ∉ batches.flatten := List.disjoint_of_nodup_append h hhere
      simp [hhere, hnot]
    . simp [hhere]

theorem listPersons_batches (collate : Collation)
    : (db.persons.rows.mergeSort (personBefore collate)).map (fun person =>
        PersonRead.ofPerson person
          ((((loading.batches ((db.persons.rows.mergeSort (personBefore collate)).map
            Person.id)).flatMap (linkedRoles loading db)).filter fun link =>
              link.1.personId = person.id).map Prod.snd))
        =
      Api.listPersons collate db := by
  unfold Api.listPersons
  apply List.map_congr_left
  intro person hperson
  unfold readPerson
  rw [rolesOf_batches, loading.flatten, if_pos (List.mem_map_of_mem hperson)]
  rw [loading.flatten]
  exact ((List.mergeSort_perm _ _).map Person.id).nodup_iff.mpr db.persons.nodup

theorem readsIn_eq (rows : List EventAssignment)
    : readsIn loading db rows = rows.filterMap (readEventAssignment db) := by
  unfold readsIn
  apply List.filterMap_congr
  intro row hrow
  unfold readEventAssignment
  congr 1
  apply find?_batches
  rw [List.mem_eraseDups]
  exact List.mem_map_of_mem hrow

/-- The roles that were resolved are those the database has for the new person. -/
theorem rolesOf_createPersonRoles {db : Database} {payload : PersonCreate} {id : UUID} {commits : Bool}
    {person : Person} {roles : List Role} {t : Session}
    (h : createPersonRoles payload id commits { db } = .ok (person, roles) t)
    : rolesOf t.db person.id = roles := by
  unfold createPersonRoles at h
  rw [EStateM.bind_eq_ok] at h
  rcases h with ⟨found, s, hroles, h⟩
  rcases resolveRoles_eq_ok hroles with ⟨hfound, hs⟩
  rw [EStateM.bind_eq_ok] at h
  rcases h with ⟨_, u, hadd, h⟩
  rw [EStateM.bind_eq_ok] at h
  rcases h with ⟨_, v, hcommit, h⟩
  rw [EStateM.pure_eq_ok, Prod.mk.injEq] at h
  rw [hs] at hadd
  rcases Service.commit_added rfl hadd hcommit with ⟨_, _, db', hinsert, hv⟩
  have hadds := NewRow.insert_adds hinsert
  rw [← h.2, ← h.1.1, ← h.1.2, hv]
  have hfresh : ∀ link ∈ db.personRoles.rows, link.personId ≠ id := by
    intro link hlink heq
    have hnodup := db'.persons.nodup
    rw [hadds.persons, List.map_append] at hnodup
    have hperson := db.fk_person_roles_person_id link hlink
    rw [heq] at hperson
    exact List.disjoint_of_nodup_append hnodup hperson List.mem_cons_self
  have hlinks : db'.personRoles.rows.filter (fun link => link.personId = id)
      = found.map fun role => ⟨id, role.id⟩ := by
    rw [hadds.personRoles, List.filter_append]
    rw [List.filter_eq_nil_iff.mpr (by simpa using hfresh), List.nil_append]
    apply List.filter_eq_self.mpr
    intro link hlink
    rw [NewRow.personRoles, List.mem_map] at hlink
    rcases hlink with ⟨role, _, rfl⟩
    simp
  unfold rolesOf
  rw [hlinks, List.filterMap_map]
  refine Eq.trans ?_ List.filterMap_some
  apply List.filterMap_congr
  intro role hrole
  rw [hfound, List.mem_filterMap] at hrole
  rcases hrole with ⟨code, _, hcode⟩
  rw [Function.comp_apply, hadds.roles, Table.get?_eq_some]
  exact ⟨(Database.findRole_eq_some.mp hcode).1, rfl⟩

section

variable {jwt : PyJWT} {settings : AuthSettings} {α : Type} {data : Data}

theorem run_getCurrentUser_bind (apply : Apply Data NewRow Raised)
    (credentials : Option HTTPAuthorizationCredentials) (q : User → DataProgram Raised α)
    : run apply data data (getCurrentUser jwt settings credentials >>= q)
        =
      match Api.getCurrentUser jwt settings credentials data.accounts with
      | .ok user => run apply data data (q user)
      | .error raised => { outcome := .error raised, store := data } := by
  unfold getCurrentUser Api.getCurrentUser
  cases credentials with
  | none => rfl
  | some credentials =>
    dsimp only
    split
    . rfl
    . cases resolveTokenSubject jwt settings credentials.credentials with
      | error e =>
        cases e with
        | invalidToken => rfl
        | insecureSecret => rfl
        | other => rfl
      | ok subject =>
        dsimp only
        cases Python.uuid subject with
        | none => rfl
        | some userId =>
          rw [Program.bind_assoc, Program.query_bind, run]
          dsimp only
          cases data.accounts.users.get? userId with
          | none => rfl
          | some user =>
            dsimp only
            cases user.active with
            | false => rfl
            | true => rfl

theorem run_requirePermission_bind (apply : Apply Data NewRow Raised) (permission : Str)
    (httpBearer : Option Str → Option HTTPAuthorizationCredentials) (header : Option Str)
    (q : DataProgram Raised α)
    : run apply data data
          (requirePermission jwt settings permission httpBearer header >>= fun _ => q)
        =
      match Api.requirePermission permission jwt settings httpBearer header data.accounts with
      | .ok _ => run apply data data q
      | .error raised => { outcome := .error raised, store := data } := by
  unfold requirePermission
  rw [Program.bind_assoc, run_getCurrentUser_bind, Api.requirePermission]
  cases Api.getCurrentUser jwt settings (httpBearer header) data.accounts with
  | error raised => rfl
  | ok user =>
    dsimp only
    rw [Program.bind_assoc]
    show run apply data data ((if userHasPermission data.accounts user permission = true
      then .pure user else .throw (.http forbidden)) >>= fun _ => q) = _
    simp only [Except.bind, bind]
    cases userHasPermission data.accounts user permission with
    | false => rfl
    | true => rfl

end

/-- With nothing beside it, a service does its work, and what follows goes on from there. -/
theorem Agrees.answer_bind {α : Type} {p : DataProgram CreateError α} {service : Service α}
    (h : Agrees p service) {data : Data} (hstable : p.Stable (dataSchema .database) [] data)
    {f : CreateError → Raised} (hf : f .database = .unhandled) (q : α → DataProgram Raised Response)
    : (call (dataSchema .unhandled).apply data (p.mapError f >>= q)).answer
        =
      match Service.call data.database service with
      | (.ok a, db) =>
        (run (dataSchema .unhandled).apply { data with database := db } { data with database := db }
          (q a)).answer
      | (.error e, db) => (.error (f e), { data with database := db }) := by
  have hanswer := h data
  have hbind := (stable_mapError hstable Raised.unhandled hf).run_bind rfl q
  unfold call at hanswer ⊢
  rw [hbind, ← hf, ← dataSchema_mapError, run_mapError]
  have hmap : ((run (dataSchema .database).apply data data p).mapError f).answer
      = ((run (dataSchema .database).apply data data p).answer.1.mapError f,
        (run (dataSchema .database).apply data data p).answer.2) := rfl
  rw [hmap, hanswer]
  cases Service.call data.database service with
  | mk outcome db =>
    cases outcome with
    | ok a => rfl
    | error e => rfl

section

variable (loading : SelectInLoading) (collate : Collation) (data : Data)

/-- A response about one assignment, as the tables have it. -/
theorem answer_respond (status : Nat) (row : EventAssignment)
    : (run (dataSchema .unhandled).apply data data (respond loading status row)).answer
        =
      (match readEventAssignment data.database row with
        | some read => .ok ⟨status, .eventAssignment read⟩
        | none => .error .unhandled, data) := by
  have hreads : (loadResponsibilities loading [row]).Settled
      (.ok (readsIn loading data.database [row])) data := settled_loadResponsibilities loading [row]
  rw [readsIn_eq] at hreads
  cases hread : readEventAssignment data.database row with
  | none =>
    rw [List.filterMap_cons_none hread, List.filterMap_nil] at hreads
    have hrespond : (respond loading status row).Settled (.error .unhandled) data := hreads.bind rfl
    exact hrespond.answer _
  | some read =>
    rw [List.filterMap_cons_some hread, List.filterMap_nil] at hreads
    have hrespond : (respond loading status row).Settled (.ok ⟨status, .eventAssignment read⟩) data :=
      hreads.bind rfl
    exact hrespond.answer _

theorem answer_listPersons
    : (call (dataSchema .unhandled).apply data (listPersons loading collate)).answer
        =
      (.ok ⟨200, .persons (Api.listPersons collate data.database)⟩, data) := by
  have hids : ∀ personIds ∈ loading.batches
      ((data.database.persons.rows.mergeSort (personBefore collate)).map Person.id),
      personIds ⊆ data.database.persons.rows.map Person.id := by
    intro personIds hids
    refine List.Subset.trans (mem_persons_of_mem_batches loading hids) ?_
    exact List.map_subset Person.id (List.mergeSort_perm _ _).subset
  rw [← listPersons_batches loading]
  simp only [call, listPersons, Program.query_bind, run]
  apply Program.Settled.answer
  exact Program.Settled.bind (settled_loadLinks loading _ hids) rfl

theorem answer_listEventAssignments
    : (call (dataSchema .unhandled).apply data (listEventAssignments loading)).answer
        =
      (.ok ⟨200, .eventAssignments (Api.listEventAssignments data.database)⟩, data) := by
  rw [Api.listEventAssignments, ← readsIn_eq loading]
  simp only [call, listEventAssignments, Program.query_bind, run]
  apply Program.Settled.answer
  exact Program.Settled.bind (settled_loadResponsibilities loading _) rfl

end

end Statements

theorem readEventAssignment_isSome {db : Database} {row : EventAssignment}
    (h : row ∈ db.eventAssignments.rows) : ∃ read, readEventAssignment db row = some read := by
  have hexists := db.fk_event_assignments_responsibility_id row h
  rw [List.mem_map] at hexists
  rcases hexists with ⟨responsibility, hmem, hid⟩
  unfold readEventAssignment
  rw [Table.get?_eq_some.mpr ⟨hmem, hid⟩]
  exact ⟨_, rfl⟩

theorem Operation.answer_statements (loading : SelectInLoading) (collate : Collation)
    (operation : Operation) (data : Data)
    : (call (dataSchema .unhandled).apply data (operation.statements loading collate)).answer
        =
      ((operation.handle collate data.database).1,
        { data with database := (operation.handle collate data.database).2 }) := by
  cases operation with
  | listRoles => rfl
  | listPersons => apply Statements.answer_listPersons
  | createPerson payload id commits =>
    refine Eq.trans ((Statements.agrees_createPerson payload id commits).answer_bind
      (Statements.stable_createPerson payload id commits) rfl _) ?_
    rw [handle, Statements.call_createPerson]
    unfold Service.call
    cases hservice : Statements.createPersonRoles payload id commits { db := data.database } with
    | error e t => rfl
    | ok created t =>
      show (Except.ok (Response.mk 201 (.person (.ofPerson created.1 created.2))), _) = _
      rw [← Statements.rolesOf_createPersonRoles hservice]
      rfl
  | listEvents =>
    simp only [call, statements, Statements.listEvents, Program.query_bind, run, handle]
    cases Api.listEvents data.database with
    | none => rfl
    | some events => rfl
  | getEvent id =>
    simp only [call, statements, Statements.getEvent, Program.query_bind, run, handle]
    cases Api.getEvent data.database id with
    | ok event => rfl
    | error e =>
      cases e with
      | notFound => rfl
      | database => rfl
  | createEvent payload id commits =>
    refine Eq.trans ((Statements.agrees_createEvent payload id commits).answer_bind
      (Statements.stable_createEvent payload id commits) rfl _) ?_
    rw [handle]
    cases Service.call data.database (Api.createEvent payload id commits) with
    | mk outcome db =>
      cases outcome with
      | ok event => rfl
      | error e => rfl
  | listEventAssignments => apply Statements.answer_listEventAssignments
  | getEventAssignment id =>
    simp only [call, statements, Statements.getEventAssignment, Program.query_bind, run, handle,
      Api.getEventAssignment]
    cases hget : data.database.eventAssignments.get? id with
    | none => rfl
    | some row =>
      rcases readEventAssignment_isSome (Table.get?_eq_some.mp hget).1 with ⟨read, hread⟩
      rw [Option.bind_some, hread]
      dsimp only
      rw [Statements.answer_respond, hread]
  | createEventAssignment payload id commits =>
    refine Eq.trans ((Statements.agrees_createEventAssignment payload id commits).answer_bind
      (Statements.stable_createEventAssignment payload id commits) rfl _) ?_
    rw [handle]
    cases Service.call data.database (Api.createEventAssignment payload id commits) with
    | mk outcome db =>
      cases outcome with
      | error e => rfl
      | ok row =>
        cases row with
        | none => rfl
        | some row =>
          dsimp only
          rw [Statements.answer_respond, Option.bind_some]
          cases readEventAssignment db row with
          | none => rfl
          | some read => rfl

section

variable {jwt : PyJWT} {settings : AuthSettings} {db : Accounts} {raised : Raised}

theorem getCurrentUser_raises {credentials : Option HTTPAuthorizationCredentials}
    (h : getCurrentUser jwt settings credentials db = .error raised)
    : raised = .http unauthorized ∨ raised = .unhandled := by
  unfold getCurrentUser at h
  repeat' split at h
  all_goals first
    | injection h with h
      exact Or.inl h.symm
    | injection h with h
      exact Or.inr h.symm
    | contradiction

/-- What the check of a permission can raise. -/
theorem requirePermission_raises {permission : Str}
    {httpBearer : Option Str → Option HTTPAuthorizationCredentials} {header : Option Str}
    (h : requirePermission permission jwt settings httpBearer header db = .error raised)
    : raised = .http unauthorized ∨ raised = .http forbidden ∨ raised = .unhandled := by
  unfold requirePermission at h
  cases huser : getCurrentUser jwt settings (httpBearer header) db with
  | error e =>
    rw [huser] at h
    injection h with h
    rw [h] at huser
    exact (getCurrentUser_raises huser).imp_right Or.inr
  | ok user =>
    rw [huser] at h
    simp only [bind, Except.bind] at h
    split at h
    . contradiction
    . injection h with h
      exact Or.inr (Or.inl h.symm)

end

/-- With nothing beside it, a request comes to what its check and its service come to. -/
theorem ProtectedRequest.answer_statements (deployment : Deployment) (request : ProtectedRequest)
    (data : Data)
    : (call (dataSchema .unhandled).apply data (request.statements deployment)).answer
        =
      request.handle deployment data := by
  unfold call statements handle
  rw [Statements.run_requirePermission_bind]
  cases requirePermission request.operation.permission request.jwt request.settings
    deployment.httpBearer request.header data.accounts with
  | error raised => rfl
  | ok user => exact request.operation.answer_statements deployment.loading deployment.collate data

end Api
