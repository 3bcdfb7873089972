import Ketabdaneh.Api.Accounts
import Ketabdaneh.Api.Services.EventAssignments
import Ketabdaneh.Library.Transaction.Rethrow

/-!
This module contains the creating services statement by statement, as they run beside other requests.
-/

namespace Api

open Text Transaction

/-- All the tables. -/
structure Data where
  accounts : Accounts
  database : Database

namespace NewRow

/-- Two rows of one unique key. -/
def conflicts : NewRow → NewRow → Bool
  | .person row _, .person other _ => row.id = other.id
  | .event row, .event other => row.id = other.id
  | .eventAssignment row, .eventAssignment other => row.id = other.id
  | _, _ => false

end NewRow

/-- The writes of the services, and the one error for all that goes wrong with them. -/
def dataSchema {ε : Type} (failed : ε) : Schema Data NewRow ε where
  apply data row :=
    if row.texts.all storable then
      (row.insert data.database).elim (.error failed) fun database => .ok { data with database }
    else
      .error failed
  conflicts := NewRow.conflicts

abbrev DataProgram :=
  Program Data NewRow Empty

namespace Statements

def query {α : Type} (texts : List Str) (select : Database → α) : DataProgram CreateError α :=
  if texts.all storable then .query fun data => select data.database else .throw .database

/-- The flush and the commit, which is all that is done with a row that was added. -/
def addCommit (row : NewRow) (commits : Bool) : DataProgram CreateError Unit :=
  .write row (if commits then .commit (.pure ()) else .throw .database)

def resolveRoles (codes : List Str) : DataProgram CreateError (List Role) :=
  if codes = [] then
    .pure []
  else do
    let found ← query codes findRole
    let missing := codes.filter fun code => (found code).isNone
    if missing ≠ [] then .throw (.unknownRole missing) else .pure (codes.filterMap found)

/-- The person as it was added, with its roles. -/
def createPerson (payload : PersonCreate) (id : UUID) (commits : Bool)
    : DataProgram CreateError (Person × List Role) := do
  let codes := payload.roles.eraseDups
  let roles ← resolveRoles codes
  let person : Person := ⟨id, payload.name, payload.phone, payload.active⟩
  addCommit (.person person (roles.map fun role => ⟨id, role.id⟩)) commits
  .pure (person, roles)

def createEvent (payload : EventCreate) (id : UUID) (commits : Bool)
    : DataProgram CreateError Event := do
  let event : Event := { id, title := payload.title, type := payload.type, plannedAt := payload.instant }
  addCommit (.event event) commits
  .pure event

def fetchEvent (id : UUID) : DataProgram CreateError EventRead := do
  let found ← query [] fun db => getEvent db id
  match found with
  | .ok event => .pure event
  | .error .notFound => .throw (.eventNotFound id)
  | .error .database => .throw .database

def fetchPerson (id : UUID) : DataProgram CreateError Person := do
  let found ← query [] fun db => db.persons.get? id
  match found with
  | some person => .pure person
  | none => .throw (.personNotFound id)

def fetchResponsibility (code : Str) : DataProgram CreateError EventResponsibility := do
  let found ← query [code] fun db => findResponsibility db code
  match found with
  | some responsibility => .pure responsibility
  | none => .throw (.unknownResponsibility code)

def createEventAssignment (payload : EventAssignmentCreate) (id : UUID) (commits : Bool)
    : DataProgram CreateError (Option EventAssignment) := do
  let _ ← fetchEvent payload.eventId
  let _ ← fetchPerson payload.personId
  let responsibility ← fetchResponsibility payload.responsibility
  addCommit (.eventAssignment {
    id
    eventId := payload.eventId
    personId := payload.personId
    responsibilityId := responsibility.id
  }) commits
  -- in a transaction of its own
  query [] fun db => db.eventAssignments.get? id

end Statements

end Api
