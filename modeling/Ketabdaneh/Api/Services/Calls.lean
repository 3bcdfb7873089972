import Ketabdaneh.Api.Services.EventAssignments

/-!
This module contains calls of the creating services, made one after the other on a migrated
database.
-/

namespace Api

structure Seed where
  roles : Table Role Role.id
  responsibilities : Table EventResponsibility EventResponsibility.id
  uq_roles_code : (roles.rows.map Role.code).Nodup
  uq_roles_name : (roles.rows.map Role.name).Nodup
  uq_event_responsibilities_code : (responsibilities.rows.map EventResponsibility.code).Nodup
  uq_event_responsibilities_name : (responsibilities.rows.map EventResponsibility.name).Nodup

def Seed.database (seed : Seed) : Database :=
  { seed with }

/-- Nothing is seeded. -/
def bare : Seed :=
  ⟨{}, {}, by simp, by simp, by simp, by simp⟩

def bareDatabase : Database :=
  bare.database

inductive Kind where
  | person
  | event
  | eventAssignment
  deriving DecidableEq

def Database.count (db : Database) : Kind → Nat
  | .person => db.persons.rows.length
  | .event => db.events.rows.length
  | .eventAssignment => db.eventAssignments.rows.length

def NewRow.count (row : NewRow) : Kind → Nat
  | .person => row.persons.length
  | .event => row.events.length
  | .eventAssignment => row.eventAssignments.length

/-- A call, with the id its row gets and whether PostgreSQL takes its commit. -/
inductive Call where
  | createPerson (payload : PersonCreate) (id : UUID) (commits : Bool)
  | createEvent (payload : EventCreate) (id : UUID) (commits : Bool)
  | createEventAssignment (payload : EventAssignmentCreate) (id : UUID) (commits : Bool)

namespace Call

def kind : Call → Kind
  | createPerson .. => .person
  | createEvent .. => .event
  | createEventAssignment .. => .eventAssignment

def service : Call → Service Unit
  | createPerson payload id commits => do
    let _ ← Api.createPerson payload id commits
  | createEvent payload id commits => do
    let _ ← Api.createEvent payload id commits
  | createEventAssignment payload id commits => do
    let _ ← Api.createEventAssignment payload id commits

def perform (db : Database) (call : Call) : Except CreateError Unit × Database :=
  Service.call db call.service

def succeeds (db : Database) (call : Call) : Bool :=
  (call.perform db).1.isOk

def after (db : Database) (call : Call) : Database :=
  (call.perform db).2

def succeeding (db : Database) : List Call → List Call
  | [] => []
  | call :: calls =>
    if call.succeeds db then
      call :: succeeding (call.after db) calls
    else
      succeeding (call.after db) calls

/-- The row a call adds to its session, when what it refers to is found. -/
def row (db : Database) : Call → Option NewRow
  | createPerson payload id _ =>
    let roles := payload.roles.eraseDups.filterMap (findRole db)
    some (.person ⟨id, payload.name, payload.phone, payload.active⟩
      (roles.map fun role => ⟨id, role.id⟩))
  | createEvent payload id _ =>
    some (.event { id, title := payload.title, type := payload.type, plannedAt := payload.instant })
  | createEventAssignment payload id _ =>
    (findResponsibility db payload.responsibility).map fun responsibility =>
      .eventAssignment {
        id
        eventId := payload.eventId
        personId := payload.personId
        responsibilityId := responsibility.id
      }

end Call

def Database.afterAll (db : Database) (calls : List Call) : Database :=
  calls.foldl Call.after db

end Api
