import Ketabdaneh.Library.Ecma.Map
import Ketabdaneh.Web.Calendar.CalendarGrid

/-!
This module contains what the dashboard derives from the lists of events and of assignments.
-/

namespace Web.Dashboard

open Ecma Text

/-- What the dashboard reads of an event. -/
structure EventRead extends Web.EventRead where
  title : Str

/-- What the dashboard reads of an assignment. -/
structure EventAssignmentRead where
  eventId : Str

structure UpcomingEvent where
  event : EventRead
  assignmentCount : Nat

structure DashboardEvents where
  upcoming : List UpcomingEvent := []
  unassigned : List EventRead := []
  assigned : List EventRead := []
  assignmentCount : Nat

variable (browser : Browser)

def parseInstant (iso : Str) : Option TimeValue :=
  browser.newDate iso

def countOf (counts : Map Str Nat) (event : EventRead) : Nat :=
  (counts.get event.id).getD 0

/-- The body of the loop over the events. -/
def pushEvent (now : TimeValue) (counts : Map Str Nat) (result : DashboardEvents) (event : EventRead)
    : DashboardEvents :=
  let count := countOf counts event
  let result :=
    if count = 0 then
      { result with unassigned := result.unassigned ++ [event] }
    else
      { result with assigned := result.assigned ++ [event] }
  match parseInstant browser event.plannedAt with
  | none => result
  | some time =>
    if time ≥ now then
      { result with upcoming := result.upcoming ++ [⟨event, count⟩] }
    else
      result

def compareUpcoming (a b : UpcomingEvent) : Int :=
  let timeA := (parseInstant browser a.event.plannedAt).getD 0
  let timeB := (parseInstant browser b.event.plannedAt).getD 0
  if timeA ≠ timeB then timeA - timeB else browser.localeCompare a.event.title b.event.title

def assignmentCounts (assignments : List EventAssignmentRead) : Map Str Nat :=
  ({} : Map Str Nat).count EventAssignmentRead.eventId assignments

def buildDashboardEvents (now : TimeValue) (events : List EventRead)
    (assignments : List EventAssignmentRead) : DashboardEvents :=
  let counts := assignmentCounts assignments
  let result := events.foldl (pushEvent browser now counts) { assignmentCount := assignments.length }
  { result with
    upcoming := result.upcoming.mergeSort fun a b => compareUpcoming browser a b ≤ 0
  }

end Web.Dashboard
