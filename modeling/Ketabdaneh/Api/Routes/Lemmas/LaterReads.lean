import Ketabdaneh.Api.Routes.Lemmas.Creations
import Ketabdaneh.Api.Services.Lemmas.EventReads

/-!
This module contains that a row which was in an answer is in the answers to all requests for it that
begin later.
-/

namespace Api

open Python Text Transaction

/-- One event, its time in whatever offset. -/
structure EventRead.SameEvent (a b : EventRead) : Prop where
  id : a.id = b.id
  title : a.title = b.title
  type : a.type = b.type
  plannedAt : a.plannedAt.instant = b.plannedAt.instant
  status : a.status = b.status

/-- The answer about an event of the tables. -/
structure Event.ReadsAs (event : Event) (row : EventRead) : Prop where
  id : row.id = event.id
  title : row.title = event.title
  type : row.type = event.type
  plannedAt : row.plannedAt.instant = some event.plannedAt
  status : row.status = event.status

/-- An answer about one row. -/
inductive Resource where
  | person (row : PersonRead)
  | event (row : EventRead)
  | eventAssignment (row : EventAssignmentRead)

namespace Resource

/-- The row is in the tables, as it was answered. -/
def In (db : Database) : Resource → Prop
  | person row => ∃ person ∈ db.persons.rows, readPerson db person = row
  | event row => ∃ event ∈ db.events.rows, event.ReadsAs row
  | eventAssignment row => ∃ assignment ∈ db.eventAssignments.rows,
      readEventAssignment db assignment = some row

/-- The answer has the row in it. -/
def Shown (body : Body) : Resource → Prop
  | person row => body = .person row ∨ ∃ rows, body = .persons rows ∧ row ∈ rows
  | event row => ∃ read : EventRead, read.SameEvent row
      ∧ (body = .event read ∨ ∃ rows, body = .events rows ∧ read ∈ rows)
  | eventAssignment row =>
    body = .eventAssignment row ∨ ∃ rows, body = .eventAssignments rows ∧ row ∈ rows

/-- The operation asks for the row. -/
def AskedBy (operation : Operation) : Resource → Prop
  | person _ => operation = .listPersons
  | event row => operation = .listEvents ∨ operation = .getEvent row.id
  | eventAssignment row =>
    operation = .listEventAssignments ∨ operation = .getEventAssignment row.id

end Resource

section

variable {a b : Database}

theorem Database.Extends.readPerson (h : a.Extends b) {person : Person} (hperson : person ∈ a.persons.rows)
    : Api.readPerson b person = Api.readPerson a person := by
  have hfilter : ∀ db : Database, db.personRoles.rows.filter (fun link => link.personId = person.id)
      = Statements.linksOf db [person.id] := by
    intro db
    simp [Statements.linksOf]
  have hids : [person.id] ⊆ a.persons.rows.map Person.id := by
    intro id hid
    rw [List.mem_singleton.mp hid]
    exact List.mem_map_of_mem hperson
  unfold Api.readPerson rolesOf
  rw [hfilter, hfilter, h.linksOf hids, h.grows.roles]

/-- What was in the tables stays there. -/
theorem Resource.In.mono {resource : Resource} (hin : resource.In a) (h : a.Extends b)
    : resource.In b := by
  cases resource with
  | person row =>
    rcases hin with ⟨person, hperson, hread⟩
    refine ⟨person, h.grows.persons.subset hperson, ?_⟩
    rw [h.readPerson hperson, hread]
  | event row =>
    rcases hin with ⟨event, hevent, hfields⟩
    exact ⟨event, h.grows.events.subset hevent, hfields⟩
  | eventAssignment row =>
    rcases hin with ⟨assignment, hassignment, hread⟩
    refine ⟨assignment, h.grows.eventAssignments.subset hassignment, ?_⟩
    unfold readEventAssignment at hread ⊢
    rw [h.grows.responsibilities]
    exact hread

theorem Event.readsAs_of_readEvent {event : Event} {read : EventRead}
    (h : readEvent event = some read) : event.ReadsAs read := by
  have hread := readEvent_eq_some h
  rw [readEvent, Option.map_eq_some_iff] at h
  rcases h with ⟨plannedAt, _, h⟩
  rw [← h] at hread ⊢
  exact ⟨rfl, rfl, rfl, hread.2, rfl⟩

theorem Event.ReadsAs.same {event : Event} {read row : EventRead} (hread : event.ReadsAs read)
    (hrow : event.ReadsAs row) : read.SameEvent row where
  id := hread.id.trans hrow.id.symm
  title := hread.title.trans hrow.title.symm
  type := hread.type.trans hrow.type.symm
  plannedAt := hread.plannedAt.trans hrow.plannedAt.symm
  status := hread.status.trans hrow.status.symm

theorem Event.ReadsAs.of_same {event : Event} {read row : EventRead} (hread : event.ReadsAs read)
    (hsame : read.SameEvent row) : event.ReadsAs row where
  id := hsame.id.symm.trans hread.id
  title := hsame.title.symm.trans hread.title
  type := hsame.type.symm.trans hread.type
  plannedAt := hsame.plannedAt.symm.trans hread.plannedAt
  status := hsame.status.symm.trans hread.status

theorem in_of_getEvent {db : Database} {id : UUID} {read : EventRead} (h : getEvent db id = .ok read)
    : (Resource.event read).In db := by
  unfold getEvent at h
  cases hget : db.events.get? id with
  | none =>
    rw [hget] at h
    contradiction
  | some event =>
    rw [hget] at h
    dsimp only at h
    cases hread : readEvent event with
    | none =>
      rw [hread] at h
      contradiction
    | some read' =>
      rw [hread, Except.ok.injEq] at h
      rw [← h]
      exact ⟨event, (Table.get?_eq_some.mp hget).1, Event.readsAs_of_readEvent hread⟩

theorem in_of_listEvents {db : Database} {reads : List EventRead} (h : listEvents db = some reads)
    {read : EventRead} (hread : read ∈ reads) : (Resource.event read).In db := by
  rw [listEvents, List.mapM_eq_some_iff] at h
  have hmem := List.mem_map_of_mem (f := some) hread
  rw [← h, List.mem_map] at hmem
  rcases hmem with ⟨event, hevent, hread⟩
  rw [List.mem_mergeSort] at hevent
  exact ⟨event, hevent, Event.readsAs_of_readEvent hread⟩

/-- The person that was created, with the roles that were resolved. -/
theorem in_of_createPerson {payload : PersonCreate} {id : UUID} {commits : Bool} {person : Person}
    {db db' : Database} (h : Service.call db (createPerson payload id commits) = (.ok person, db'))
    : (Resource.person (readPerson db' person)).In db' := by
  rcases Service.call_eq_ok h with ⟨t, hservice, ht⟩
  rcases createPerson_eq_ok hservice with ⟨_, added, db'', hadded, _, hinsert, hwrites⟩
  have hperson : person = ⟨id, payload.name, payload.phone, payload.active⟩ := by
    unfold createPerson at hservice
    rw [EStateM.bind_eq_ok] at hservice
    rcases hservice with ⟨_, _, _, hservice⟩
    rw [EStateM.bind_eq_ok] at hservice
    rcases hservice with ⟨_, _, _, hservice⟩
    rw [EStateM.bind_eq_ok] at hservice
    rcases hservice with ⟨_, _, _, hservice⟩
    rw [EStateM.pure_eq_ok] at hservice
    exact hservice.1.symm
  refine ⟨person, ?_, rfl⟩
  rw [Call.row, Option.some.injEq] at hadded
  rw [← ht, hwrites, (NewRow.insert_adds hinsert).persons, ← hadded, hperson]
  exact List.mem_append_right _ List.mem_cons_self

theorem in_of_createEvent {payload : EventCreate} {id : UUID} {commits : Bool} {event : Event}
    {db db' : Database} (h : Service.call db (createEvent payload id commits) = (.ok event, db'))
    : (Resource.event ⟨event.id, event.title, event.type, payload.plannedAt, event.status⟩).In db' := by
  rcases Service.call_eq_ok h with ⟨t, hservice, ht⟩
  rcases createEvent_eq_ok hservice with ⟨_, added, db'', hadded, _, hinsert, hwrites⟩
  have hevent : event
      = { id, title := payload.title, type := payload.type, plannedAt := payload.instant } := by
    unfold createEvent at hservice
    rw [EStateM.bind_eq_ok] at hservice
    rcases hservice with ⟨_, _, _, hservice⟩
    rw [EStateM.bind_eq_ok] at hservice
    rcases hservice with ⟨_, _, _, hservice⟩
    rw [EStateM.pure_eq_ok] at hservice
    exact hservice.1.symm
  rw [Call.row, Option.some.injEq] at hadded
  refine ⟨event, ?_, rfl, rfl, rfl, ?_, rfl⟩
  . rw [← ht, hwrites, (NewRow.insert_adds hinsert).events, ← hadded, hevent]
    exact List.mem_append_right _ List.mem_cons_self
  . rw [hevent]
    exact payload.instant_plannedAt

theorem in_of_createEventAssignment {payload : EventAssignmentCreate} {id : UUID} {commits : Bool}
    {row : Option EventAssignment} {read : EventAssignmentRead} {db db' : Database}
    (h : Service.call db (createEventAssignment payload id commits) = (.ok row, db'))
    (hread : row.bind (readEventAssignment db') = some read)
    : (Resource.eventAssignment read).In db' := by
  rw [Option.bind_eq_some_iff] at hread
  rcases hread with ⟨assignment, hassignment, hread⟩
  refine ⟨assignment, ?_, hread⟩
  rw [returned_createEventAssignment h, Table.get?_eq_some] at hassignment
  exact hassignment.1

end

namespace Resource

variable {resource : Resource}

theorem not_shown_roles (rows : List Role) : ¬resource.Shown (.roles rows) := by
  cases resource <;> simp [Shown]

theorem shown_persons {rows : List PersonRead}
    : resource.Shown (.persons rows) ↔ ∃ row ∈ rows, resource = .person row := by
  cases resource <;> simp [Shown]

theorem shown_person {row : PersonRead}
    : resource.Shown (.person row) ↔ resource = .person row := by
  cases resource <;> simp [Shown, eq_comm]

theorem shown_events {rows : List EventRead}
    : resource.Shown (.events rows)
        ↔
      ∃ read ∈ rows, ∃ row, read.SameEvent row ∧ resource = .event row := by
  cases resource <;> simp [Shown, and_comm]

theorem shown_event {read : EventRead}
    : resource.Shown (.event read) ↔ ∃ row, read.SameEvent row ∧ resource = .event row := by
  cases resource <;> simp [Shown]

theorem shown_eventAssignments {rows : List EventAssignmentRead}
    : resource.Shown (.eventAssignments rows) ↔ ∃ row ∈ rows, resource = .eventAssignment row := by
  cases resource <;> simp [Shown]

theorem shown_eventAssignment {row : EventAssignmentRead}
    : resource.Shown (.eventAssignment row) ↔ resource = .eventAssignment row := by
  cases resource <;> simp [Shown, eq_comm]

theorem In.of_same {db : Database} {read row : EventRead} (h : (event read).In db)
    (hsame : read.SameEvent row) : (event row).In db := by
  rcases h with ⟨stored, hstored, hreads⟩
  exact ⟨stored, hstored, hreads.of_same hsame⟩

end Resource

namespace Operation

variable {operation : Operation} {collate : Collation} {db : Database} {response : Response}
  {resource : Resource}

/-- What is shown in an answer is in the tables by then. -/
theorem in_of_shown (h : (operation.handle collate db).1 = .ok response)
    (hshown : resource.Shown response.body) : resource.In (operation.handle collate db).2 := by
  cases operation with
  | listRoles =>
    rw [handle, Except.ok.injEq] at h
    rw [← h] at hshown
    exact absurd hshown (Resource.not_shown_roles _)
  | listPersons =>
    rw [handle, Except.ok.injEq] at h
    rw [← h, Resource.shown_persons, Api.listPersons] at hshown
    rcases hshown with ⟨row, hrow, hresource⟩
    rw [List.mem_map] at hrow
    rcases hrow with ⟨person, hperson, hread⟩
    rw [List.mem_mergeSort] at hperson
    rw [hresource]
    exact ⟨person, hperson, hread⟩
  | createPerson payload id commits =>
    rw [handle] at h ⊢
    cases hcall : Service.call db (Api.createPerson payload id commits) with
    | mk outcome db' =>
      rw [hcall] at h
      cases outcome with
      | error e => contradiction
      | ok person =>
        rw [Except.ok.injEq] at h
        rw [← h, Resource.shown_person] at hshown
        rw [hshown]
        exact in_of_createPerson hcall
  | listEvents =>
    rw [handle] at h ⊢
    cases hlist : Api.listEvents db with
    | none =>
      rw [hlist] at h
      contradiction
    | some reads =>
      rw [hlist, Except.ok.injEq] at h
      rw [← h, Resource.shown_events] at hshown
      rcases hshown with ⟨read, hread, row, hsame, hresource⟩
      rw [hresource]
      exact (in_of_listEvents hlist hread).of_same hsame
  | getEvent id =>
    rw [handle] at h ⊢
    cases hget : Api.getEvent db id with
    | ok read =>
      rw [hget, Except.ok.injEq] at h
      rw [← h, Resource.shown_event] at hshown
      rcases hshown with ⟨row, hsame, hresource⟩
      rw [hresource]
      exact (in_of_getEvent hget).of_same hsame
    | error e =>
      rw [hget] at h
      cases e with
      | notFound => contradiction
      | database => contradiction
  | createEvent payload id commits =>
    rw [handle] at h ⊢
    cases hcall : Service.call db (Api.createEvent payload id commits) with
    | mk outcome db' =>
      rw [hcall] at h
      cases outcome with
      | error e => contradiction
      | ok event =>
        rw [Except.ok.injEq] at h
        rw [← h, Resource.shown_event] at hshown
        rcases hshown with ⟨row, hsame, hresource⟩
        rw [hresource]
        exact (in_of_createEvent hcall).of_same hsame
  | listEventAssignments =>
    rw [handle, Except.ok.injEq] at h
    rw [← h, Resource.shown_eventAssignments, Api.listEventAssignments] at hshown
    rcases hshown with ⟨row, hrow, hresource⟩
    rw [List.mem_filterMap] at hrow
    rcases hrow with ⟨assignment, hassignment, hread⟩
    rw [List.mem_mergeSort] at hassignment
    rw [hresource]
    exact ⟨assignment, hassignment, hread⟩
  | getEventAssignment id =>
    rw [handle] at h ⊢
    cases hget : Api.getEventAssignment db id with
    | none =>
      rw [hget] at h
      contradiction
    | some read =>
      rw [hget, Except.ok.injEq] at h
      rw [← h, Resource.shown_eventAssignment] at hshown
      rw [Api.getEventAssignment, Option.bind_eq_some_iff] at hget
      rcases hget with ⟨assignment, hassignment, hread⟩
      rw [hshown]
      exact ⟨assignment, (Table.get?_eq_some.mp hassignment).1, hread⟩
  | createEventAssignment payload id commits =>
    rw [handle] at h ⊢
    cases hcall : Service.call db (Api.createEventAssignment payload id commits) with
    | mk outcome db' =>
      rw [hcall] at h
      cases outcome with
      | error e => contradiction
      | ok row =>
        dsimp only at h
        cases hread : row.bind (readEventAssignment db') with
        | none =>
          rw [hread] at h
          contradiction
        | some read =>
          rw [hread, Except.ok.injEq] at h
          rw [← h, Resource.shown_eventAssignment] at hshown
          rw [hshown]
          simp only [hread]
          exact in_of_createEventAssignment hcall hread

/-- A request for a row that is in the tables answers with it, or fails, but not for want of it. -/
theorem shown_of_in (hin : resource.In db) (hasked : resource.AskedBy operation)
    : (∀ detail, (operation.handle collate db).1 ≠ .error (.notFound detail))
        ∧ ∀ response, (operation.handle collate db).1 = .ok response →
          response.status = 200 ∧ resource.Shown response.body := by
  cases resource with
  | person row =>
    rcases hin with ⟨person, hperson, hread⟩
    rw [hasked, handle]
    refine ⟨by simp, ?_⟩
    intro response hresponse
    rw [Except.ok.injEq] at hresponse
    rw [← hresponse, Resource.shown_persons]
    refine ⟨rfl, row, ?_, rfl⟩
    rw [← hread]
    apply List.mem_map_of_mem
    rwa [List.mem_mergeSort]
  | event row =>
    rcases hin with ⟨event, hevent, hreads⟩
    cases hasked with
    | inl hasked =>
      rw [hasked, handle]
      cases hlist : Api.listEvents db with
      | none => simp [Raised.notFound]
      | some reads =>
        refine ⟨by simp, ?_⟩
        intro response hresponse
        rw [Except.ok.injEq] at hresponse
        rcases Database.mem_listEvents hlist hevent with ⟨read, hmem, hread⟩
        rw [← hresponse, Resource.shown_events]
        exact ⟨rfl, read, hmem, row, (Event.readsAs_of_readEvent hread).same hreads, rfl⟩
    | inr hasked =>
      rw [hasked, handle, hreads.id, Database.getEvent_of_mem hevent]
      cases hread : readEvent event with
      | none => simp [Raised.notFound]
      | some read =>
        refine ⟨by simp, ?_⟩
        intro response hresponse
        rw [Except.ok.injEq] at hresponse
        rw [← hresponse, Resource.shown_event]
        exact ⟨rfl, row, (Event.readsAs_of_readEvent hread).same hreads, rfl⟩
  | eventAssignment row =>
    rcases hin with ⟨assignment, hassignment, hread⟩
    cases hasked with
    | inl hasked =>
      rw [hasked, handle]
      refine ⟨by simp, ?_⟩
      intro response hresponse
      rw [Except.ok.injEq] at hresponse
      rw [← hresponse, Resource.shown_eventAssignments, Api.listEventAssignments]
      refine ⟨rfl, row, ?_, rfl⟩
      rw [List.mem_filterMap]
      refine ⟨assignment, ?_, hread⟩
      rwa [List.mem_mergeSort]
    | inr hasked =>
      have hid : assignment.id = row.id := by
        rw [readEventAssignment, Option.map_eq_some_iff] at hread
        rcases hread with ⟨responsibility, _, hread⟩
        rw [← hread]
      rw [hasked, handle, Api.getEventAssignment, Table.get?_eq_some.mpr ⟨hassignment, hid⟩,
        Option.bind_some, hread]
      refine ⟨by simp, ?_⟩
      intro response hresponse
      rw [Except.ok.injEq] at hresponse
      rw [← hresponse, Resource.shown_eventAssignment]
      exact ⟨rfl, rfl⟩

end Operation

namespace ProtectedRequest

variable {deployment : Deployment} {request : ProtectedRequest} {data : Data} {resource : Resource}

theorem in_of_shown {response : Response} (h : (request.handle deployment data).1 = .ok response)
    (hshown : resource.Shown response.body)
    : resource.In (request.handle deployment data).2.database := by
  unfold handle at h ⊢
  split at h
  . contradiction
  . exact Operation.in_of_shown h hshown

theorem shown_of_in (hin : resource.In data.database) (hasked : resource.AskedBy request.operation)
    : (∀ detail, (request.handle deployment data).1 ≠ .error (.notFound detail))
        ∧ ∀ response, (request.handle deployment data).1 = .ok response →
          response.status = 200 ∧ resource.Shown response.body := by
  unfold handle
  split
  . next raised hraised =>
    refine ⟨?_, by simp⟩
    intro detail h
    rw [Except.error.injEq] at h
    rw [h] at hraised
    rcases requirePermission_raises hraised with hdetail | hdetail | hdetail
    . injection hdetail with hdetail
      exact absurd (congrArg HTTPException.status hdetail) (by decide : (404 : Nat) ≠ 401)
    . injection hdetail with hdetail
      exact absurd (congrArg HTTPException.status hdetail) (by decide : (404 : Nat) ≠ 403)
    . injection hdetail
  . exact Operation.shown_of_in hin hasked

end ProtectedRequest

section

variable {ι : Type} {deployment : Deployment} {requests : ι → ProtectedRequest} {data : Data}
  {schedule : List (Action ι AccountWrite)} {w : System ι Data NewRow Empty Raised Response}

/-- What an answer shows is in the tables. -/
theorem Serializes.in_of_shown {order : List (Action ι AccountWrite)}
    (h : Serializes deployment requests data schedule w order) {i : ι} (hi : .statement i ∈ schedule)
    {response : Response} (hresponse : (w.sessions i).outcome = some (.ok response))
    {resource : Resource} (hshown : resource.Shown response.body)
    : resource.In w.store.database := by
  have hplace := h.answered i hi (by rw [hresponse]; apply Option.some_ne_none)
  rcases List.append_of_mem hplace with ⟨before, after, hsplit⟩
  have hanswer := h.answer before i after _ hsplit hresponse
  have hin := ProtectedRequest.in_of_shown hanswer hshown
  rw [h.store, hsplit, afterAll_split]
  exact hin.mono (le_afterAll deployment requests _ after).2

variable [Fintype ι] [DecidableEq ι]

/--
What was shown in an answer, of a creation or of a reading, is shown by every request for it that
begins after that answer.
-/
theorem serve_shows_later (hrun : serve deployment requests data schedule = some w)
    {before : List (Action ι AccountWrite)} (hbefore : before <+: schedule)
    {t : System ι Data NewRow Empty Raised Response}
    (ht : serve deployment requests data before = some t) {i j : ι} {response : Response}
    (hresponse : (t.sessions i).outcome = some (.ok response)) {resource : Resource}
    (hshown : resource.Shown response.body) (hlater : Action.statement j ∉ before)
    (hbegins : Action.statement j ∈ schedule) (hasked : resource.AskedBy (requests j).operation)
    {answer : Except Raised Response} (hanswer : (w.sessions j).outcome = some answer)
    : (∀ detail, answer ≠ .error (.notFound detail))
        ∧ ∀ later, answer = .ok later → later.status = 200 ∧ resource.Shown later.body := by
  rcases linearizable_serve hrun with ⟨order, h⟩
  rcases h.later hbefore ht hlater hbegins hanswer with ⟨between, hbetween⟩
  rw [outcome_call, performAll_eq] at hbetween
  have hi : .statement i ∈ before := by
    by_contra hnot
    rw [Schema.sessions_of_run ht hnot] at hresponse
    exact (requests i).outcome_start deployment _ hresponse
  rcases h.2 before t hbefore ht with ⟨earlier, _, hearlier⟩
  have hin := (serializes_of_linearizes hearlier).in_of_shown hi hresponse hshown
  rw [← hbetween]
  exact ProtectedRequest.shown_of_in (hin.mono (le_afterAll deployment requests _ between).2) hasked

end

section

def openingDay : Option EventCreate :=
  EventCreate.ofJson (ofString "Opening") (ofString "gathering") (ofString "2026-09-19T17:00:00+03:30")

theorem isSome_openingDay : openingDay.isSome = true := by decide +kernel

/-- One creates an event, the other gets it. -/
def postThenGet (i : Bool) : ProtectedRequest :=
  byOperator (if i then .createEvent (openingDay.get isSome_openingDay) 7 true else .getEvent 7)

def posted : List (Action Bool AccountWrite) :=
  [.statement true, .statement true, .statement true, .statement true]

def postedThenGot : List (Action Bool AccountWrite) :=
  posted ++ [.statement false, .statement false, .statement false]

def answersEvent (id : UUID) : Option (Except Raised Response) → Bool
  | some (.ok ⟨_, .event row⟩) => row.id = id
  | _ => false

theorem exists_of_answersEvent {id : UUID} {answer : Option (Except Raised Response)}
    (h : answersEvent id answer = true)
    : ∃ status row, answer = some (.ok ⟨status, .event row⟩) ∧ row.id = id := by
  unfold answersEvent at h
  split at h
  . next status row => exact ⟨status, row, rfl, of_decide_eq_true h⟩
  . contradiction

theorem serve_shows_opening :
    ∃ row t w, serve plainDeployment postThenGet registrars posted = some t
      ∧ serve plainDeployment postThenGet registrars postedThenGot = some w
      ∧ (∃ status, (t.sessions true).outcome = some (.ok ⟨status, .event row⟩))
      ∧ ∀ later, (w.sessions false).outcome = some (.ok later) →
        later.status = 200 ∧ (Resource.event row).Shown later.body := by
  have hposted : ((serve plainDeployment postThenGet registrars posted).any
      fun t => answersEvent 7 (t.sessions true).outcome) = true := by decide +kernel
  have hgot : (serve plainDeployment postThenGet registrars postedThenGot).isSome = true := by
    decide +kernel
  rw [Option.any_eq_true] at hposted
  rcases hposted with ⟨t, ht, hanswer⟩
  rcases exists_of_answersEvent hanswer with ⟨status, row, hresponse, hid⟩
  rcases Option.isSome_iff_exists.mp hgot with ⟨w, hw⟩
  refine ⟨row, t, w, ht, hw, ⟨status, hresponse⟩, ?_⟩
  intro later hlater
  refine (serve_shows_later hw (List.prefix_append _ _) ht hresponse
    (Resource.shown_event.mpr ⟨row, ?_, rfl⟩) ?_ ?_ ?_ hlater).2 later rfl
  . exact ⟨rfl, rfl, rfl, rfl, rfl⟩
  . simp [posted]
  . simp [postedThenGot]
  . right
    rw [hid]
    rfl

end

end Api
