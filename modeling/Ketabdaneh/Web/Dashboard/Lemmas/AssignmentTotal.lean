import Ketabdaneh.Web.Calendar.Lemmas.DayOrder
import Ketabdaneh.Web.Dashboard.Lemmas.DashboardData
import Ketabdaneh.Web.Events.Lemmas.EventAssignments

/-!
This module contains when the dashboard's total counts the assignments of the listed events.
-/

namespace Web.Dashboard

open Ecma Python Text

def Existing (events : List EventRead) (assignment : EventAssignmentRead) : Prop :=
  ∃ event ∈ events, event.id = assignment.eventId

instance (events : List EventRead) : DecidablePred (Existing events) :=
  fun assignment => inferInstanceAs (Decidable (∃ event ∈ events, event.id = assignment.eventId))

/-- What the declaration of the total says, and that the events' own counts sum up to it. -/
structure Totals (events : List EventRead) (assignments : List EventAssignmentRead)
    (result : DashboardEvents) : Prop where
  existing : result.assignmentCount = assignments.countP fun assignment => Existing events assignment
  sum : (events.map fun event => event.id).Nodup →
    result.assignmentCount = (events.map (countOf (assignmentCounts assignments))).sum

theorem existing_cons {event : EventRead} {events : List EventRead} {assignment : EventAssignmentRead}
    : Existing (event :: events) assignment
        ↔
      assignment.eventId = event.id ∨ Existing events assignment := by
  unfold Existing
  rw [List.exists_mem_cons_iff, eq_comm]

theorem countP_existing_cons {event : EventRead} {events : List EventRead}
    (hnew : event.id ∉ events.map fun event => event.id) (assignments : List EventAssignmentRead)
    : (assignments.countP fun assignment => Existing (event :: events) assignment)
        =
      references assignments event
        + assignments.countP fun assignment => Existing events assignment := by
  unfold references
  induction assignments with
  | nil => rfl
  | cons assignment assignments ih =>
    rw [List.countP_cons, List.countP_cons, List.countP_cons, ih]
    simp only [existing_cons, decide_eq_true_iff]
    by_cases hself : assignment.eventId = event.id
    . have hother : ¬Existing events assignment := by
        intro h
        obtain ⟨other, hmem, hid⟩ := h
        apply hnew
        rw [← hself, ← hid]
        exact List.mem_map_of_mem hmem
      simp only [hself, hother, true_or, ↓reduceIte]
      omega
    . simp only [hself, false_or, ↓reduceIte]
      omega

/-- Each assignment of a listed event is counted for one event. -/
theorem sum_references {events : List EventRead} (hids : (events.map fun event => event.id).Nodup)
    (assignments : List EventAssignmentRead)
    : (events.map (references assignments)).sum
        =
      assignments.countP fun assignment => Existing events assignment := by
  induction events with
  | nil =>
    symm
    rw [List.map_nil, List.sum_nil, List.countP_eq_zero]
    simp [Existing]
  | cons event events ih =>
    rw [List.map_cons, List.nodup_cons] at hids
    rw [List.map_cons, List.sum_cons, ih hids.2, countP_existing_cons hids.1]

theorem totals_of_existing (browser : Browser) (now : TimeValue) {events : List EventRead}
    {assignments : List EventAssignmentRead}
    (h : ∀ assignment ∈ assignments, Existing events assignment)
    : Totals events assignments (buildDashboardEvents browser now events assignments) := by
  have hcount : (assignments.countP fun assignment => Existing events assignment)
      = assignments.length := by
    rw [List.countP_eq_length]
    simpa only [decide_eq_true_iff] using h
  rw [buildDashboardEvents_eq]
  constructor
  case existing => exact hcount.symm
  case sum =>
    intro hids
    rw [funext (countOf_assignmentCounts assignments), sum_references hids, hcount]

/-- The total is right exactly when each assignment is one of a listed event. -/
theorem totals_iff (browser : Browser) (now : TimeValue) (events : List EventRead)
    (assignments : List EventAssignmentRead)
    : Totals events assignments (buildDashboardEvents browser now events assignments)
        ↔
      ∀ assignment ∈ assignments, Existing events assignment := by
  constructor
  . intro h
    have hcount := h.existing
    rw [buildDashboardEvents_eq, eq_comm, List.countP_eq_length] at hcount
    simpa only [decide_eq_true_iff] using hcount
  . exact totals_of_existing browser now

def deliveredEvent (isoformat : DateTime → Str) (read : Api.EventRead) : EventRead where
  toEventRead := delivered isoformat read
  title := read.title

def deliveredAssignment (read : Api.EventAssignmentRead) : EventAssignmentRead where
  eventId := uuidText read.eventId

/-- Where the assignments are not read after the events, their foreign key sees to the total. -/
theorem totals_of_grows (browser : Browser) (now : TimeValue) (isoformat : DateTime → Str)
    {db db' : Api.Database} (hgrows : db.Grows db') {reads : List Api.EventRead}
    (hreads : Api.listEvents db' = some reads)
    : Totals (reads.map (deliveredEvent isoformat))
        ((Api.listEventAssignments db).map deliveredAssignment)
        (buildDashboardEvents browser now (reads.map (deliveredEvent isoformat))
          ((Api.listEventAssignments db).map deliveredAssignment)) := by
  apply totals_of_existing
  intro assignment hassignment
  rw [List.mem_map] at hassignment
  obtain ⟨read, hread, hassignment⟩ := hassignment
  rw [Api.listEventAssignments, List.mem_filterMap] at hread
  obtain ⟨row, hrow, hread⟩ := hread
  rw [List.mem_mergeSort] at hrow
  have hevent := db.fk_event_assignments_event_id row hrow
  rw [List.mem_map] at hevent
  obtain ⟨event, hmem, hid⟩ := hevent
  obtain ⟨eventRead, heventRead, hevent⟩ :=
    Api.Database.mem_listEvents hreads (hgrows.events.subset hmem)
  refine ⟨_, List.mem_map_of_mem heventRead, ?_⟩
  rw [← hassignment]
  unfold deliveredEvent delivered deliveredAssignment
  dsimp only
  rw [(Api.readEvent_eq_some hevent).1, hid, (readEventAssignment_eq_some hread).2]

/-- The only event of `EventPage.readingClub`, where nobody is assigned yet. -/
def readingClub : Api.Event where
  id := 1
  title := ofString "Reading club"
  type := ofString "READING_CLUB"
  plannedAt := 1784530800000000

def excursion : Option Api.EventCreate :=
  Api.EventCreate.ofJson (ofString "Excursion") (ofString "OUTING")
    (ofString "2026-07-24T09:00:00+03:30")

/-- What is created after the events were listed and before the assignments are. -/
def excursionCalls (payload : Api.EventCreate) : List Api.Call :=
  [.createEvent payload 9 true, .createEventAssignment ⟨9, 2, ofString "registration"⟩ 7 true]

/-- The total is 1, and the only event on the dashboard has no assignment. -/
theorem excursion_not_totals
    : ∃ payload reads, excursion = some payload
        ∧ Api.listEvents EventPage.readingClub = some reads
        ∧ ∀ (browser : Browser) (now : TimeValue) (isoformat : DateTime → Str),
            ¬Totals (reads.map (deliveredEvent isoformat))
              ((Api.listEventAssignments
                (EventPage.readingClub.afterAll (excursionCalls payload))).map deliveredAssignment)
              (buildDashboardEvents browser now (reads.map (deliveredEvent isoformat))
                ((Api.listEventAssignments
                  (EventPage.readingClub.afterAll (excursionCalls payload))).map
                    deliveredAssignment)) := by
  have hpayload : excursion.isSome = true := by
    decide
  have hread : (Api.readEvent readingClub).isSome = true := by
    decide
  have hevents : Api.listEvents EventPage.readingClub
      = some [(Api.readEvent readingClub).get hread] := by
    rw [Api.listEvents, show EventPage.readingClub.events.rows = [readingClub] from rfl,
      List.mergeSort_singleton]
    rfl
  have hrows : (EventPage.readingClub.afterAll
      (excursionCalls (excursion.get hpayload))).eventAssignments.rows
      = [⟨7, 9, 2, 3, .PENDING⟩] := by
    rfl
  have hassignments :
      (Api.listEventAssignments
        (EventPage.readingClub.afterAll (excursionCalls (excursion.get hpayload)))).map
          deliveredAssignment
        =
      [⟨uuidText 9⟩] := by
    rw [Api.listEventAssignments, hrows, List.mergeSort_singleton]
    rfl
  refine ⟨excursion.get hpayload, _, (Option.some_get _).symm, hevents, ?_⟩
  intro browser now isoformat h
  have hcount := h.existing
  rw [hassignments, buildDashboardEvents_eq, eq_comm, List.countP_eq_length] at hcount
  obtain ⟨event, hmem, hid⟩ := of_decide_eq_true (hcount _ List.mem_cons_self)
  rw [List.map_singleton, List.mem_singleton] at hmem
  rw [hmem] at hid
  exact absurd hid (by decide : uuidText 1 ≠ uuidText 9)

end Web.Dashboard
