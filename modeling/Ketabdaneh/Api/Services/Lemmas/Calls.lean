import Ketabdaneh.Api.Lemmas.Session
import Ketabdaneh.Api.Services.Calls

/-!
This module contains what one call of a creating service does to the database.
-/

namespace Api

open Service Text

theorem keepsDatabase_resolveRoles (codes : List Str) : KeepsDatabase (resolveRoles codes) := by
  unfold resolveRoles
  split
  . apply keepsDatabase_pure
  . apply keepsDatabase_bind
    . apply keepsDatabase_query
    . intro found
      simp only
      split
      . apply keepsDatabase_throw
      . apply keepsDatabase_pure

theorem atomic_createPerson (payload : PersonCreate) (id : UUID) (commits : Bool)
    : Atomic (createPerson payload id commits) := by
  unfold createPerson
  apply atomic_bind
  . apply keepsDatabase_resolveRoles
  . intro roles
    apply atomic_bind
    . apply keepsDatabase_add
    . intro _
      apply atomic_commit_bind
      apply infallible_pure

theorem atomic_createEvent (payload : EventCreate) (id : UUID) (commits : Bool)
    : Atomic (createEvent payload id commits) := by
  unfold createEvent
  apply atomic_bind
  . apply keepsDatabase_add
  . intro _
    apply atomic_commit_bind
    apply infallible_pure

theorem keepsDatabase_fetchEvent (id : UUID) : KeepsDatabase (fetchEvent id) := by
  unfold fetchEvent
  apply keepsDatabase_bind
  . apply keepsDatabase_query
  . intro found
    cases found with
    | ok event => apply keepsDatabase_pure
    | error e =>
      cases e with
      | notFound => apply keepsDatabase_throw
      | database => apply keepsDatabase_throw

theorem keepsDatabase_fetchPerson (id : UUID) : KeepsDatabase (fetchPerson id) := by
  unfold fetchPerson
  apply keepsDatabase_bind
  . apply keepsDatabase_query
  . intro found
    cases found with
    | none => apply keepsDatabase_throw
    | some person => apply keepsDatabase_pure

theorem keepsDatabase_fetchResponsibility (code : Str)
    : KeepsDatabase (fetchResponsibility code) := by
  unfold fetchResponsibility
  apply keepsDatabase_bind
  . apply keepsDatabase_query
  . intro found
    cases found with
    | none => apply keepsDatabase_throw
    | some responsibility => apply keepsDatabase_pure

theorem atomic_createEventAssignment (payload : EventAssignmentCreate) (id : UUID)
    (commits : Bool) : Atomic (createEventAssignment payload id commits) := by
  unfold createEventAssignment
  apply atomic_bind
  . apply keepsDatabase_fetchEvent
  . intro _
    apply atomic_bind
    . apply keepsDatabase_fetchPerson
    . intro _
      apply atomic_bind
      . apply keepsDatabase_fetchResponsibility
      . intro responsibility
        apply atomic_bind
        . apply keepsDatabase_add
        . intro _
          apply atomic_commit_bind
          apply infallible_query

theorem resolveRoles_eq_ok {codes : List Str} {s t : Session} {roles : List Role}
    (h : resolveRoles codes s = .ok roles t)
    : roles = codes.filterMap (findRole s.db) ∧ t = s := by
  unfold resolveRoles at h
  split at h
  . next hnil =>
    rw [EStateM.pure_eq_ok] at h
    rw [hnil, ← h.1, ← h.2]
    exact ⟨rfl, rfl⟩
  . rw [query_bind_eq_ok] at h
    have hrest := h.2
    split at hrest
    . exact absurd hrest EStateM.throw_ne_ok
    . rw [EStateM.pure_eq_ok] at hrest
      exact ⟨hrest.1.symm, hrest.2.symm⟩

theorem fetchEvent_eq_ok {id : UUID} {s t : Session} {event : EventRead}
    (h : fetchEvent id s = .ok event t) : getEvent s.db id = .ok event ∧ t = s := by
  rw [fetchEvent, query_bind_eq_ok] at h
  cases hget : getEvent s.db id with
  | error e =>
    rw [hget] at h
    cases e with
    | notFound => exact absurd h.2 EStateM.throw_ne_ok
    | database => exact absurd h.2 EStateM.throw_ne_ok
  | ok found =>
    rw [hget] at h
    rcases EStateM.pure_eq_ok.mp h.2 with ⟨hfound, hs⟩
    rw [hfound]
    exact ⟨rfl, hs.symm⟩

theorem fetchPerson_eq_ok {id : UUID} {s t : Session} {person : Person}
    (h : fetchPerson id s = .ok person t) : s.db.persons.get? id = some person ∧ t = s := by
  rw [fetchPerson, query_bind_eq_ok] at h
  cases hget : s.db.persons.get? id with
  | none =>
    rw [hget] at h
    exact absurd h.2 EStateM.throw_ne_ok
  | some found =>
    rw [hget] at h
    rcases EStateM.pure_eq_ok.mp h.2 with ⟨hfound, hs⟩
    rw [hfound]
    exact ⟨rfl, hs.symm⟩

theorem fetchResponsibility_eq_ok {code : Str} {s t : Session} {r : EventResponsibility}
    (h : fetchResponsibility code s = .ok r t) : findResponsibility s.db code = some r ∧ t = s := by
  rw [fetchResponsibility, query_bind_eq_ok] at h
  cases hget : findResponsibility s.db code with
  | none =>
    rw [hget] at h
    exact absurd h.2 EStateM.throw_ne_ok
  | some found =>
    rw [hget] at h
    rcases EStateM.pure_eq_ok.mp h.2 with ⟨hfound, hs⟩
    rw [hfound]
    exact ⟨rfl, hs.symm⟩

def Call.Writes (db : Database) (call : Call) (t : Session) : Prop :=
  ∃ row db', call.row db = some row ∧ row.texts.all storable = true ∧ row.insert db = some db'
    ∧ t = { db := db' }

theorem createPerson_eq_ok {payload : PersonCreate} {id : UUID} {commits : Bool} {db : Database}
    {t : Session} {person : Person} (h : createPerson payload id commits { db } = .ok person t)
    : commits = true ∧ (Call.createPerson payload id commits).Writes db t := by
  unfold createPerson at h
  rw [EStateM.bind_eq_ok] at h
  rcases h with ⟨roles, s, hroles, h⟩
  rcases resolveRoles_eq_ok hroles with ⟨hroles, hs⟩
  rw [EStateM.bind_eq_ok] at h
  rcases h with ⟨_, u, hadd, h⟩
  rw [EStateM.bind_eq_ok] at h
  rcases h with ⟨_, v, hcommit, h⟩
  rw [EStateM.pure_eq_ok] at h
  rw [hs] at hadd
  rcases commit_added rfl hadd hcommit with ⟨hcommits, htexts, db', hinsert, hv⟩
  refine ⟨hcommits, _, db', ?_, htexts, hinsert, ?_⟩
  . rw [hroles]
    rfl
  . rw [← h.2, hv]

theorem createEvent_eq_ok {payload : EventCreate} {id : UUID} {commits : Bool} {db : Database}
    {t : Session} {event : Event} (h : createEvent payload id commits { db } = .ok event t)
    : commits = true ∧ (Call.createEvent payload id commits).Writes db t := by
  unfold createEvent at h
  rw [EStateM.bind_eq_ok] at h
  rcases h with ⟨_, u, hadd, h⟩
  rw [EStateM.bind_eq_ok] at h
  rcases h with ⟨_, v, hcommit, h⟩
  rw [EStateM.pure_eq_ok] at h
  rcases commit_added rfl hadd hcommit with ⟨hcommits, htexts, db', hinsert, hv⟩
  refine ⟨hcommits, _, db', rfl, htexts, hinsert, ?_⟩
  rw [← h.2, hv]

theorem createEventAssignment_eq_ok {payload : EventAssignmentCreate} {id : UUID} {commits : Bool}
    {db : Database} {t : Session} {row : Option EventAssignment}
    (h : createEventAssignment payload id commits { db } = .ok row t)
    : commits = true ∧ (Call.createEventAssignment payload id commits).Writes db t := by
  unfold createEventAssignment at h
  rw [EStateM.bind_eq_ok] at h
  rcases h with ⟨_, s, hevent, h⟩
  rcases fetchEvent_eq_ok hevent with ⟨_, hs⟩
  rw [EStateM.bind_eq_ok, hs] at h
  rcases h with ⟨_, s, hperson, h⟩
  rcases fetchPerson_eq_ok hperson with ⟨_, hs⟩
  rw [EStateM.bind_eq_ok, hs] at h
  rcases h with ⟨responsibility, s, hresponsibility, h⟩
  rcases fetchResponsibility_eq_ok hresponsibility with ⟨hfound, hs⟩
  rw [EStateM.bind_eq_ok, hs] at h
  rcases h with ⟨_, u, hadd, h⟩
  rw [EStateM.bind_eq_ok] at h
  rcases h with ⟨_, v, hcommit, h⟩
  rw [query_eq_ok] at h
  rcases commit_added rfl hadd hcommit with ⟨hcommits, htexts, db', hinsert, hv⟩
  refine ⟨hcommits, _, db', ?_, htexts, hinsert, ?_⟩
  . simp only [Call.row]
    rw [hfound, Option.map_some]
  . rw [← h.2.2, hv]

namespace Call

theorem atomic_service (call : Call) : Atomic call.service := by
  cases call with
  | createPerson payload id commits =>
    apply atomic_bind_pure
    apply atomic_createPerson
  | createEvent payload id commits =>
    apply atomic_bind_pure
    apply atomic_createEvent
  | createEventAssignment payload id commits =>
    apply atomic_bind_pure
    apply atomic_createEventAssignment

theorem service_eq_ok {call : Call} {db : Database} {t : Session}
    (h : call.service { db } = .ok () t) : call.Writes db t := by
  cases call with
  | createPerson payload id commits =>
    rcases bind_pure_eq_ok h with ⟨person, h⟩
    exact (createPerson_eq_ok h).2
  | createEvent payload id commits =>
    rcases bind_pure_eq_ok h with ⟨event, h⟩
    exact (createEvent_eq_ok h).2
  | createEventAssignment payload id commits =>
    rcases bind_pure_eq_ok h with ⟨row, h⟩
    exact (createEventAssignment_eq_ok h).2

theorem succeeds_iff {call : Call} {db : Database}
    : call.succeeds db = true ↔ ∃ t, call.service { db } = .ok () t := by
  simp only [succeeds, perform, Service.call]
  cases call.service { db } with
  | ok a t => simp [Except.isOk, Except.toBool]
  | error e t => simp [Except.isOk, Except.toBool]

theorem after_of_succeeds {call : Call} {db : Database} (h : call.succeeds db = true)
    : ∃ row, call.row db = some row ∧ db.Adds (call.after db) row := by
  rcases succeeds_iff.mp h with ⟨t, hcall⟩
  rcases service_eq_ok hcall with ⟨row, db', hrow, _, hinsert, ht⟩
  refine ⟨row, hrow, ?_⟩
  simp only [after, perform, Service.call, hcall, ht]
  apply NewRow.insert_adds
  assumption

theorem after_of_fails {call : Call} {db : Database} (h : call.succeeds db = false)
    : call.after db = db := by
  simp only [succeeds, perform, Service.call] at h
  cases hcall : call.service { db } with
  | ok _ t =>
    rw [hcall] at h
    injection h
  | error e t =>
    simp only [after, perform, Service.call, hcall]
    exact atomic_service call _ _ _ hcall

theorem grows_after (db : Database) (call : Call) : db.Grows (call.after db) := by
  cases h : call.succeeds db with
  | true =>
    rcases after_of_succeeds h with ⟨row, _, hadds⟩
    exact hadds.grows
  | false =>
    rw [after_of_fails h]
    apply Database.Grows.refl

theorem count_row {call : Call} {db : Database} {row : NewRow} (h : call.row db = some row)
    (kind : Kind) : row.count kind = if call.kind = kind then 1 else 0 := by
  cases call with
  | createPerson payload id commits =>
    rw [Call.row, Option.some.injEq] at h
    rw [← h]
    cases kind with
    | person => rfl
    | event => rfl
    | eventAssignment => rfl
  | createEvent payload id commits =>
    rw [Call.row, Option.some.injEq] at h
    rw [← h]
    cases kind with
    | person => rfl
    | event => rfl
    | eventAssignment => rfl
  | createEventAssignment payload id commits =>
    rw [Call.row, Option.map_eq_some_iff] at h
    rcases h with ⟨responsibility, _, h⟩
    rw [← h]
    cases kind with
    | person => rfl
    | event => rfl
    | eventAssignment => rfl

end Call

namespace Database

theorem Adds.count_eq {db db' : Database} {row : NewRow} (h : db.Adds db' row) (kind : Kind)
    : db'.count kind = db.count kind + row.count kind := by
  cases kind with
  | person =>
    simp only [Database.count, NewRow.count]
    rw [h.persons, List.length_append]
  | event =>
    simp only [Database.count, NewRow.count]
    rw [h.events, List.length_append]
  | eventAssignment =>
    simp only [Database.count, NewRow.count]
    rw [h.eventAssignments, List.length_append]

theorem grows_afterAll (db : Database) (calls : List Call)
    : db.Grows (db.afterAll calls) := by
  induction calls generalizing db with
  | nil => apply Database.Grows.refl
  | cons call calls ih =>
    apply Database.Grows.trans (Call.grows_after db call)
    apply ih

theorem afterAll_append (db : Database) (calls more : List Call)
    : db.afterAll (calls ++ more) = (db.afterAll calls).afterAll more := by
  apply List.foldl_append

end Database

end Api
