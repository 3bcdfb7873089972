import Ketabdaneh.Api.Services.Calls

/-!
This module contains the assignments section of an event's page, with the API that its requests go to.
-/

namespace Web

open Api Text

structure EventAssignments where
  assignments : List EventAssignmentRead
  refreshError : Bool := false
  success : Bool := false

/-- The section and the API's database, which others write to as well. -/
structure EventPage where
  db : Database
  view : EventAssignments
  /-- The assignment whose creation the form goes on handling; it is submitting until then. -/
  refreshing : Option UUID := none
  /-- The assignments that were created here, when their handling was complete. -/
  created : List UUID := []

namespace EventPage

/-- What the section keeps of the list that the API returns. -/
def ofEvent (db : Database) (eventId : UUID) : List EventAssignmentRead :=
  (listEventAssignments db).filter fun a => a.eventId = eventId

def mount (db : Database) (eventId : UUID) : EventPage where
  db := db
  view := { assignments := ofEvent db eventId }

inductive Action where
  /-- A call of the API from elsewhere, or one of this form whose answer was lost. -/
  | elsewhere (call : Call)
  /-- A submit of the form, with the id the row would get and whether PostgreSQL takes the commit. -/
  | submit (personId : Option UUID) (responsibility : Str) (id : UUID) (commits : Bool)
  | refreshed
  | refreshFailed

/-- Where an option was not chosen nothing is sent. -/
def handleSubmit (page : EventPage) (eventId : UUID) (personId : Option UUID) (responsibility : Str)
    (id : UUID) (commits : Bool) : EventPage :=
  match page.refreshing, personId with
  | some _, _ => page
  | none, none => page
  | none, some personId =>
    if responsibility = [] then
      page
    else
      let call := Call.createEventAssignment ⟨eventId, personId, responsibility⟩ id commits
      if call.succeeds page.db then
        { page with
          db := call.after page.db
          view := { page.view with success := true }
          refreshing := some id
        }
      else
        { page with view := { page.view with success := false } }

def complete (page : EventPage) (id : UUID) : EventPage :=
  { page with refreshing := none, created := page.created ++ [id] }

def step (eventId : UUID) (page : EventPage) : Action → Option EventPage
  | .elsewhere call => some { page with db := call.after page.db }
  | .submit personId responsibility id commits =>
    some (page.handleSubmit eventId personId responsibility id commits)
  | .refreshed =>
    page.refreshing.map fun id =>
      let view := { page.view with assignments := ofEvent page.db eventId, refreshError := false }
      { page with view }.complete id
  | .refreshFailed =>
    page.refreshing.map fun id =>
      { page with view := { page.view with refreshError := true } }.complete id

end EventPage

end Web
