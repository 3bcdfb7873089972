import Ketabdaneh.Api.Routes.Statements
import Ketabdaneh.Api.Services.Permissions

/-!
This module contains the protected requests: what each does statement by statement, and what it does
when nothing runs beside it.
-/

namespace Api

open Text Transaction

/-- A protected route, with the id a new row gets and whether PostgreSQL takes the commit. -/
inductive Operation where
  | listRoles
  | listPersons
  | createPerson (payload : PersonCreate) (id : UUID) (commits : Bool)
  | listEvents
  | getEvent (id : UUID)
  | createEvent (payload : EventCreate) (id : UUID) (commits : Bool)
  | listEventAssignments
  | getEventAssignment (id : UUID)
  | createEventAssignment (payload : EventAssignmentCreate) (id : UUID) (commits : Bool)

namespace Operation

def permission : Operation → Str
  | listRoles => ROLES_READ
  | listPersons => PEOPLE_READ
  | createPerson .. => PEOPLE_CREATE
  | listEvents => EVENTS_READ
  | getEvent _ => EVENTS_READ
  | createEvent .. => EVENTS_CREATE
  | listEventAssignments => ASSIGNMENTS_READ
  | getEventAssignment _ => ASSIGNMENTS_READ
  | createEventAssignment .. => ASSIGNMENTS_CREATE

def statements (loading : SelectInLoading) (collate : Collation)
    : Operation → DataProgram Raised Response
  | listRoles => Statements.listRoles collate
  | listPersons => Statements.listPersons loading collate
  | createPerson payload id commits => Statements.postPerson payload id commits
  | listEvents => Statements.listEvents
  | getEvent id => Statements.getEvent id
  | createEvent payload id commits => Statements.postEvent payload id commits
  | listEventAssignments => Statements.listEventAssignments loading
  | getEventAssignment id => Statements.getEventAssignment loading id
  | createEventAssignment payload id commits =>
    Statements.postEventAssignment loading payload id commits

/-- What comes of the route on a database that no one else uses. -/
def handle (collate : Collation) (db : Database) : Operation → Except Raised Response × Database
  | listRoles => (.ok ⟨200, .roles (Api.listRoles collate db)⟩, db)
  | listPersons => (.ok ⟨200, .persons (Api.listPersons collate db)⟩, db)
  | createPerson payload id commits =>
    match Service.call db (Api.createPerson payload id commits) with
    | (.ok person, db') => (.ok ⟨201, .person (readPerson db' person)⟩, db')
    | (.error e, db') => (.error (createPersonRaises e), db')
  | listEvents =>
    match Api.listEvents db with
    | some events => (.ok ⟨200, .events events⟩, db)
    | none => (.error .unhandled, db)
  | getEvent id =>
    match Api.getEvent db id with
    | .ok event => (.ok ⟨200, .event event⟩, db)
    | .error .notFound => (.error (.notFound "Event not found"), db)
    | .error .database => (.error .unhandled, db)
  | createEvent payload id commits =>
    match Service.call db (Api.createEvent payload id commits) with
    | (.ok event, db') =>
      (.ok ⟨201, .event ⟨event.id, event.title, event.type, payload.plannedAt, event.status⟩⟩, db')
    | (.error _, db') => (.error .unhandled, db')
  | listEventAssignments => (.ok ⟨200, .eventAssignments (Api.listEventAssignments db)⟩, db)
  | getEventAssignment id =>
    match Api.getEventAssignment db id with
    | some read => (.ok ⟨200, .eventAssignment read⟩, db)
    | none => (.error (.notFound "Event assignment not found"), db)
  | createEventAssignment payload id commits =>
    match Service.call db (Api.createEventAssignment payload id commits) with
    | (.ok row, db') =>
      match row.bind (readEventAssignment db') with
      | some read => (.ok ⟨201, .eventAssignment read⟩, db')
      | none => (.error .unhandled, db')
    | (.error e, db') => (.error (createEventAssignmentRaises e), db')

end Operation

/-- The libraries and the database settings that all requests share. -/
structure Deployment where
  httpBearer : Option Str → Option HTTPAuthorizationCredentials
  loading : SelectInLoading
  collate : Collation

/-- A request whose path and body have been read, with PyJWT as it is at the time of the request. -/
structure ProtectedRequest where
  operation : Operation
  header : Option Str
  jwt : PyJWT
  settings : AuthSettings

namespace ProtectedRequest

variable (deployment : Deployment)

def statements (request : ProtectedRequest) : DataProgram Raised Response := do
  let _ ← Statements.requirePermission request.jwt request.settings request.operation.permission
    deployment.httpBearer request.header
  request.operation.statements deployment.loading deployment.collate

def handle (data : Data) (request : ProtectedRequest) : Except Raised Response × Data :=
  match requirePermission request.operation.permission request.jwt request.settings
    deployment.httpBearer request.header data.accounts with
  | .error raised => (.error raised, data)
  | .ok _ =>
    let (answer, database) := request.operation.handle deployment.collate data.database
    (answer, { data with database })

end ProtectedRequest

/-- What is written to the tables of the users beside the requests: by logins and by the operators. -/
def Data.write (data : Data) (write : AccountWrite) : Data :=
  match write.apply data.accounts with
  | .ok accounts => { data with accounts }
  | .error _ => data

end Api
