import Ketabdaneh.Api.Schemas.Event
import Ketabdaneh.Api.Session

namespace Api

open Python Text

def createEvent (payload : EventCreate) (id : UUID) (commits : Bool) : Service Event := do
  let event : Event := { id, title := payload.title, type := payload.type, plannedAt := payload.instant }
  Service.add (.event event)
  Service.commit commits
  return event

structure EventRead where
  id : UUID
  title : Str
  type : Str
  plannedAt : DateTime
  status : EventStatus

/-- A row as the driver reads it, whose time must be a Python value in UTC. -/
def readEvent (event : Event) : Option EventRead :=
  (DateTime.ofInstant event.plannedAt).map fun plannedAt =>
    ⟨event.id, event.title, event.type, plannedAt, event.status⟩

def eventBefore (a b : Event) : Bool :=
  a.plannedAt < b.plannedAt || (a.plannedAt = b.plannedAt && a.id ≤ b.id)

/-- List events ordered by planned time, then id; one row that cannot be read fails the list. -/
def listEvents (db : Database) : Option (List EventRead) :=
  (db.events.rows.mergeSort eventBefore).mapM readEvent

inductive GetEventError where
  | notFound
  | database

def getEvent (db : Database) (id : UUID) : Except GetEventError EventRead :=
  match db.events.get? id with
  | none => .error .notFound
  | some event =>
    match readEvent event with
    | none => .error .database
    | some read => .ok read

end Api
