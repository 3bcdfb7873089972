import Ketabdaneh.Api.Routes.Deps
import Ketabdaneh.Api.Routes.Reads
import Ketabdaneh.Api.Services.Statements

/-!
This module contains the routes for people, events and assignments statement by statement, behind
their permission checks.
-/

namespace Api

open Python Text Transaction

inductive Body where
  | roles (rows : List Role)
  | persons (rows : List PersonRead)
  | person (row : PersonRead)
  | events (rows : List EventRead)
  | event (row : EventRead)
  | eventAssignments (rows : List EventAssignmentRead)
  | eventAssignment (row : EventAssignmentRead)

structure Response where
  status : Nat
  body : Body

/-- `selectinload` asks for what belongs to so many rows at a time. -/
structure SelectInLoading where
  batches (keys : List UUID) : List (List UUID)
  flatten : ∀ keys, (batches keys).flatten = keys

def Raised.notFound (detail : String) : Raised :=
  .http { status := 404, detail := ofString detail }

def Raised.unprocessable (detail : Str) : Raised :=
  .http { status := 422, detail }

def unknownRoleText (codes : List Str) : Str :=
  ofString "Unknown role code(s): " ++ (ofString ", ").intercalate codes

def unknownResponsibilityText (code : Str) : Str :=
  ofString "Unknown responsibility code: " ++ code

/-- What `POST /api/persons` catches of its service. -/
def createPersonRaises : CreateError → Raised
  | .unknownRole codes => .unprocessable (unknownRoleText codes)
  | _ => .unhandled

/-- What `POST /api/event-assignments` catches of its service. -/
def createEventAssignmentRaises : CreateError → Raised
  | .eventNotFound _ => .notFound "Event not found"
  | .personNotFound _ => .notFound "Person not found"
  | .unknownResponsibility code => .unprocessable (unknownResponsibilityText code)
  | _ => .unhandled

namespace Statements

section

variable (jwt : PyJWT) (settings : AuthSettings)

def getCurrentUser (credentials : Option HTTPAuthorizationCredentials) : DataProgram Raised User :=
  match credentials with
  | none => .throw (.http unauthorized)
  | some credentials =>
    if asciiLower credentials.scheme ≠ ofString "bearer" then
      .throw (.http unauthorized)
    else
      match resolveTokenSubject jwt settings credentials.credentials with
      | .error .invalidToken => .throw (.http unauthorized)
      | .error .insecureSecret => .throw .unhandled
      | .error .other => .throw .unhandled
      | .ok subject =>
        match uuid subject with
        | none => .throw (.http unauthorized)
        | some userId => do
          let found ← .query fun (data : Data) => data.accounts.users.get? userId
          match found with
          | none => .throw (.http unauthorized)
          | some user => if user.active then .pure user else .throw (.http unauthorized)

def requirePermission (permission : Str)
    (httpBearer : Option Str → Option HTTPAuthorizationCredentials) (header : Option Str)
    : DataProgram Raised User := do
  let currentUser ← getCurrentUser jwt settings (httpBearer header)
  let permitted ← .query fun (data : Data) => userHasPermission data.accounts currentUser permission
  if permitted then .pure currentUser else .throw (.http forbidden)

end

/-- The rows of these keys, batch by batch. -/
def selectIn {Row : Type} (select : Database → List UUID → List Row)
    : List (List UUID) → DataProgram Raised (List Row)
  | [] => .pure []
  | keys :: batches => do
    let rows ← .query fun (data : Data) => select data.database keys
    let rest ← selectIn select batches
    .pure (rows ++ rest)

def rolesIn (db : Database) (ids : List UUID) : List Role :=
  db.roles.rows.filter fun role => role.id ∈ ids

def linksOf (db : Database) (personIds : List UUID) : List PersonRole :=
  db.personRoles.rows.filter fun link => link.personId ∈ personIds

def responsibilitiesIn (db : Database) (ids : List UUID) : List EventResponsibility :=
  db.responsibilities.rows.filter fun responsibility => responsibility.id ∈ ids

section

variable (loading : SelectInLoading) (collate : Collation)

def listRoles : DataProgram Raised Response := do
  let roles ← .query fun (data : Data) => Api.listRoles collate data.database
  .pure ⟨200, .roles roles⟩

/-- For each batch of people their links, and for those the roles. -/
def loadLinks : List (List UUID) → DataProgram Raised (List (PersonRole × Role))
  | [] => .pure []
  | personIds :: batches => do
    let links ← .query fun (data : Data) => linksOf data.database personIds
    let roles ← selectIn rolesIn (loading.batches (links.map PersonRole.roleId).eraseDups)
    let rest ← loadLinks batches
    .pure (links.filterMap (fun link =>
      (roles.find? fun role => role.id = link.roleId).map fun role => (link, role)) ++ rest)

def listPersons : DataProgram Raised Response := do
  let persons ← .query fun (data : Data) =>
    data.database.persons.rows.mergeSort (personBefore collate)
  let links ← loadLinks loading (loading.batches (persons.map Person.id))
  .pure ⟨200, .persons (persons.map fun person =>
    .ofPerson person ((links.filter fun link => link.1.personId = person.id).map Prod.snd))⟩

def postPerson (payload : PersonCreate) (id : UUID) (commits : Bool) : DataProgram Raised Response := do
  let (person, roles) ← (createPerson payload id commits).mapError createPersonRaises
  .pure ⟨201, .person (.ofPerson person roles)⟩

def listEvents : DataProgram Raised Response := do
  let found ← .query fun (data : Data) => Api.listEvents data.database
  match found with
  | some events => .pure ⟨200, .events events⟩
  | none => .throw .unhandled

def getEvent (id : UUID) : DataProgram Raised Response := do
  let found ← .query fun (data : Data) => Api.getEvent data.database id
  match found with
  | .ok event => .pure ⟨200, .event event⟩
  | .error .notFound => .throw (.notFound "Event not found")
  | .error .database => .throw .unhandled

/-- The answer has the time as it was sent, since nothing reads the row again. -/
def postEvent (payload : EventCreate) (id : UUID) (commits : Bool) : DataProgram Raised Response := do
  let event ← (createEvent payload id commits).mapError fun _ => .unhandled
  .pure ⟨201, .event ⟨event.id, event.title, event.type, payload.plannedAt, event.status⟩⟩

def loadResponsibilities (rows : List EventAssignment)
    : DataProgram Raised (List EventAssignmentRead) := do
  let ids := (rows.map EventAssignment.responsibilityId).eraseDups
  let responsibilities ← selectIn responsibilitiesIn (loading.batches ids)
  .pure (rows.filterMap fun row =>
    (responsibilities.find? fun responsibility => responsibility.id = row.responsibilityId).map
      fun responsibility =>
        ⟨row.id, row.eventId, row.personId, responsibility, row.approvalStatus⟩)

def listEventAssignments : DataProgram Raised Response := do
  let rows ← .query fun (data : Data) =>
    data.database.eventAssignments.rows.mergeSort fun a b => a.id ≤ b.id
  let reads ← loadResponsibilities loading rows
  .pure ⟨200, .eventAssignments reads⟩

/-- The answer for one row, with its responsibility. -/
def respond (status : Nat) (row : EventAssignment) : DataProgram Raised Response := do
  let reads ← loadResponsibilities loading [row]
  match reads with
  | [] => .throw .unhandled
  | read :: _ => .pure ⟨status, .eventAssignment read⟩

def getEventAssignment (id : UUID) : DataProgram Raised Response := do
  let found ← .query fun (data : Data) => data.database.eventAssignments.get? id
  match found with
  | none => .throw (.notFound "Event assignment not found")
  | some row => respond loading 200 row

def postEventAssignment (payload : EventAssignmentCreate) (id : UUID) (commits : Bool)
    : DataProgram Raised Response := do
  let found ← (createEventAssignment payload id commits).mapError createEventAssignmentRaises
  match found with
  | none => .throw .unhandled
  | some row => respond loading 201 row

end

end Statements

end Api
