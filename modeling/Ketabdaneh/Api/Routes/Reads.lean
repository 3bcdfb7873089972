import Ketabdaneh.Api.Schemas.Person
import Ketabdaneh.Api.Services.EventAssignments

/-!
This module contains what the reading routes answer from a database that stays as it is.
-/

namespace Api

open Text

/-- The order of texts in the database, which is that of its collation. -/
abbrev Collation :=
  Str → Str → Ordering

/-- List the permanent organizational roles, ordered by code. -/
def listRoles (collate : Collation) (db : Database) : List Role :=
  db.roles.rows.mergeSort fun a b => (collate a.code b.code).isLE

def personBefore (collate : Collation) (a b : Person) : Bool :=
  match collate a.name b.name with
  | .lt => true
  | .eq => a.id ≤ b.id
  | .gt => false

def rolesOf (db : Database) (personId : UUID) : List Role :=
  (db.personRoles.rows.filter fun link => link.personId = personId).filterMap fun link =>
    db.roles.get? link.roleId

def readPerson (db : Database) (person : Person) : PersonRead :=
  .ofPerson person (rolesOf db person.id)

/-- List branch members (ordered by name, then id), each with their roles. -/
def listPersons (collate : Collation) (db : Database) : List PersonRead :=
  (db.persons.rows.mergeSort (personBefore collate)).map (readPerson db)

/-- Return one assignment by id. -/
def getEventAssignment (db : Database) (id : UUID) : Option EventAssignmentRead :=
  (db.eventAssignments.get? id).bind (readEventAssignment db)

end Api
