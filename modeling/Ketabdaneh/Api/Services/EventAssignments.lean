import Ketabdaneh.Api.Services.Events
import Ketabdaneh.Api.Services.Persons

namespace Api

open Text

structure EventAssignmentCreate where
  eventId : UUID
  personId : UUID
  responsibility : Str

def findResponsibility (db : Database) (code : Str) : Option EventResponsibility :=
  db.responsibilities.rows.find? fun responsibility => responsibility.code = code

/-- `db.get(Event, …)`: a row that cannot be read is an error of the driver. -/
def fetchEvent (id : UUID) : Service EventRead := do
  let found ← Service.query [] fun db => getEvent db id
  match found with
  | .ok event => return event
  | .error .notFound => throw (.eventNotFound id)
  | .error .database => throw .database

def fetchPerson (id : UUID) : Service Person := do
  let found ← Service.query [] fun db => db.persons.get? id
  match found with
  | some person => return person
  | none => throw (.personNotFound id)

def fetchResponsibility (code : Str) : Service EventResponsibility := do
  let found ← Service.query [code] fun db => findResponsibility db code
  match found with
  | some responsibility => return responsibility
  | none => throw (.unknownResponsibility code)

def createEventAssignment (payload : EventAssignmentCreate) (id : UUID) (commits : Bool)
    : Service (Option EventAssignment) := do
  let _ ← fetchEvent payload.eventId
  let _ ← fetchPerson payload.personId
  let responsibility ← fetchResponsibility payload.responsibility
  Service.add (.eventAssignment {
    id
    eventId := payload.eventId
    personId := payload.personId
    responsibilityId := responsibility.id
  })
  Service.commit commits
  -- the row is read again, with its responsibility
  Service.query [] fun db => db.eventAssignments.get? id

structure EventAssignmentRead where
  id : UUID
  eventId : UUID
  personId : UUID
  responsibility : EventResponsibility
  approvalStatus : ApprovalStatus

/-- A row with the responsibility it refers to. -/
def readEventAssignment (db : Database) (row : EventAssignment) : Option EventAssignmentRead :=
  (db.responsibilities.get? row.responsibilityId).map fun responsibility =>
    ⟨row.id, row.eventId, row.personId, responsibility, row.approvalStatus⟩

/-- List assignments ordered by id. -/
def listEventAssignments (db : Database) : List EventAssignmentRead :=
  (db.eventAssignments.rows.mergeSort fun a b => a.id ≤ b.id).filterMap (readEventAssignment db)

end Api
