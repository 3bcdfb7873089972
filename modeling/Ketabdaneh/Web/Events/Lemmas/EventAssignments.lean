import Ketabdaneh.Api.Services.Lemmas.Store
import Ketabdaneh.Library.Transition
import Ketabdaneh.Web.Events.EventAssignments

/-!
This module contains which assignments an event's page shows after any creations and refreshes.
-/

namespace Web

open Api Text Transition

variable {db db' : Database} {eventId : UUID}

def Stored (db : Database) (eventId id : UUID) : Prop :=
  ∃ row ∈ db.eventAssignments.rows, row.id = id ∧ row.eventId = eventId

theorem Stored.mono {id : UUID} (h : Stored db eventId id) (hgrows : db.Grows db')
    : Stored db' eventId id := by
  obtain ⟨row, hrow, hid⟩ := h
  exact ⟨row, hgrows.eventAssignments.subset hrow, hid⟩

theorem readEventAssignment_eq_some {row : EventAssignment} {read : EventAssignmentRead}
    (h : readEventAssignment db row = some read) : read.id = row.id ∧ read.eventId = row.eventId := by
  rw [readEventAssignment, Option.map_eq_some_iff] at h
  obtain ⟨responsibility, _, h⟩ := h
  rw [← h]
  exact ⟨rfl, rfl⟩

/-- The foreign key sees to the responsibility. -/
theorem isSome_readEventAssignment {row : EventAssignment} (h : row ∈ db.eventAssignments.rows)
    : ∃ read, readEventAssignment db row = some read := by
  have hresponsibility := db.fk_event_assignments_responsibility_id row h
  rw [List.mem_map] at hresponsibility
  obtain ⟨responsibility, hmem, hid⟩ := hresponsibility
  have hget : db.responsibilities.get? row.responsibilityId = some responsibility :=
    Table.get?_eq_some.mpr ⟨hmem, hid⟩
  rw [readEventAssignment, hget, Option.map_some]
  exact ⟨_, rfl⟩

namespace EventPage

theorem eventId_of_mem_ofEvent {read : EventAssignmentRead} (h : read ∈ ofEvent db eventId)
    : read.eventId = eventId := by
  rw [ofEvent, List.mem_filter, decide_eq_true_iff] at h
  exact h.2

theorem mem_map_ofEvent {id : UUID}
    : id ∈ (ofEvent db eventId).map EventAssignmentRead.id ↔ Stored db eventId id := by
  rw [List.mem_map]
  constructor
  . intro h
    obtain ⟨read, hread, hid⟩ := h
    have hevent := eventId_of_mem_ofEvent hread
    rw [ofEvent, List.mem_filter, listEventAssignments, List.mem_filterMap] at hread
    obtain ⟨⟨row, hrow, hread⟩, _⟩ := hread
    obtain ⟨hrowId, hrowEvent⟩ := readEventAssignment_eq_some hread
    rw [List.mem_mergeSort] at hrow
    exact ⟨row, hrow, hrowId.symm.trans hid, hrowEvent.symm.trans hevent⟩
  . intro h
    obtain ⟨row, hrow, hid, hevent⟩ := h
    obtain ⟨read, hread⟩ := isSome_readEventAssignment hrow
    obtain ⟨hreadId, hreadEvent⟩ := readEventAssignment_eq_some hread
    refine ⟨read, ?_, hreadId.trans hid⟩
    rw [ofEvent, List.mem_filter, listEventAssignments, List.mem_filterMap, decide_eq_true_iff]
    refine ⟨⟨row, ?_, hread⟩, hreadEvent.trans hevent⟩
    rwa [List.mem_mergeSort]

theorem nodup_ofEvent (db : Database) (eventId : UUID)
    : ((ofEvent db eventId).map EventAssignmentRead.id).Nodup := by
  have hrows : ((db.eventAssignments.rows.mergeSort fun a b => a.id ≤ b.id).map
      EventAssignment.id).Nodup := by
    rw [((List.mergeSort_perm _ _).map _).nodup_iff]
    exact db.eventAssignments.nodup
  have hreads : ((listEventAssignments db).map EventAssignmentRead.id).Nodup := by
    rw [List.Nodup, List.pairwise_map] at hrows ⊢
    rw [listEventAssignments, List.pairwise_filterMap]
    apply hrows.imp
    intro a b hab read hread read' hread'
    rw [(readEventAssignment_eq_some hread).1, (readEventAssignment_eq_some hread').1]
    exact hab
  exact hreads.sublist (List.Sublist.map _ List.filter_sublist)

/-- What the page is to show once the handling of each creation is complete. -/
structure Shows (eventId : UUID) (page : EventPage) : Prop where
  created : ∀ id ∈ page.created, id ∈ page.view.assignments.map EventAssignmentRead.id
  nodup : (page.view.assignments.map EventAssignmentRead.id).Nodup
  ofEvent : ∀ a ∈ page.view.assignments, a.eventId = eventId

structure Keeps (eventId : UUID) (page : EventPage) : Prop where
  shows : page.Shows eventId
  known : ∀ a ∈ page.view.assignments, Stored page.db eventId a.id
  stored : ∀ id ∈ page.created ++ page.refreshing.toList, Stored page.db eventId id
  fresh : ∀ id, page.refreshing = some id → id ∉ page.view.assignments.map EventAssignmentRead.id

def Refreshes (_ : EventPage) (action : Action) : Prop :=
  action ≠ .refreshFailed

theorem keeps_mount (db : Database) (eventId : UUID) : (mount db eventId).Keeps eventId where
  shows := by
    constructor
    case created =>
      intro id h
      contradiction
    case nodup => apply nodup_ofEvent
    case ofEvent =>
      intro a ha
      exact eventId_of_mem_ofEvent ha
  known := by
    intro a ha
    rw [← mem_map_ofEvent]
    exact List.mem_map_of_mem ha
  stored := by
    intro id h
    contradiction
  fresh := by
    intro id h
    contradiction

variable {page page' : EventPage}

theorem keeps_elsewhere (h : page.Keeps eventId) (hgrows : page.db.Grows db')
    : ({ page with db := db' } : EventPage).Keeps eventId where
  shows := ⟨h.shows.created, h.shows.nodup, h.shows.ofEvent⟩
  known := by
    intro a ha
    exact (h.known a ha).mono hgrows
  stored := by
    intro id hid
    exact (h.stored id hid).mono hgrows
  fresh := h.fresh

/-- A creation that succeeds adds a row that no list had before. -/
theorem stored_of_succeeds {personId id : UUID} {responsibility : Str} {commits : Bool}
    (h : (Call.createEventAssignment ⟨eventId, personId, responsibility⟩ id commits).succeeds db)
    : Stored ((Call.createEventAssignment ⟨eventId, personId, responsibility⟩ id commits).after db)
          eventId id
        ∧ id ∉ db.eventAssignments.rows.map EventAssignment.id := by
  obtain ⟨row, hrow, hadds⟩ := Call.after_of_succeeds h
  rw [Call.row, Option.map_eq_some_iff] at hrow
  obtain ⟨found, _, hrow⟩ := hrow
  have hrows := hadds.eventAssignments
  rw [← hrow, NewRow.eventAssignments] at hrows
  constructor
  . rw [Stored, hrows]
    exact ⟨_, List.mem_append_right _ (List.mem_singleton_self _), rfl, rfl⟩
  . have hnodup :=
      ((Call.createEventAssignment ⟨eventId, personId, responsibility⟩ id commits).after
        db).eventAssignments.nodup
    rw [hrows, List.map_append, List.map_singleton, ← List.concat_eq_append,
      List.nodup_concat] at hnodup
    exact hnodup.1

theorem keeps_handleSubmit (h : page.Keeps eventId) (personId : Option UUID) (responsibility : Str)
    (id : UUID) (commits : Bool)
    : (page.handleSubmit eventId personId responsibility id commits).Keeps eventId := by
  unfold handleSubmit
  split
  . exact h
  . exact h
  . next personId hidle =>
    split
    . exact h
    . dsimp only
      split
      . next hsucceeds =>
        obtain ⟨hstored, hnew⟩ := stored_of_succeeds hsucceeds
        have hgrows := Call.grows_after page.db
          (.createEventAssignment ⟨eventId, personId, responsibility⟩ id commits)
        constructor
        case shows => exact ⟨h.shows.created, h.shows.nodup, h.shows.ofEvent⟩
        case known =>
          intro a ha
          exact (h.known a ha).mono hgrows
        case stored =>
          intro id' hid'
          rw [List.mem_append] at hid'
          cases hid' with
          | inl hcreated => exact (h.stored id' (List.mem_append_left _ hcreated)).mono hgrows
          | inr hrefreshing =>
            rw [Option.toList_some, List.mem_singleton] at hrefreshing
            rw [hrefreshing]
            exact hstored
        case fresh =>
          intro id' hid' hshown
          rw [← Option.some.inj hid', List.mem_map] at hshown
          obtain ⟨a, ha, haid⟩ := hshown
          obtain ⟨row, hrow, hrowId, _⟩ := h.known a ha
          apply hnew
          rw [← haid, ← hrowId]
          exact List.mem_map_of_mem hrow
      . exact ⟨⟨h.shows.created, h.shows.nodup, h.shows.ofEvent⟩, h.known, h.stored, h.fresh⟩

theorem keeps_refreshed (h : page.Keeps eventId) {id : UUID} (hid : page.refreshing = some id)
    : ({ page with
          view := { page.view with
            assignments := ofEvent page.db eventId
            refreshError := false } }.complete id).Keeps eventId := by
  have hstored : ∀ id' ∈ page.created ++ [id], Stored page.db eventId id' := by
    have hstored := h.stored
    rwa [hid] at hstored
  constructor
  case shows =>
    constructor
    case created =>
      intro id' hid'
      exact mem_map_ofEvent.mpr (hstored id' hid')
    case nodup => apply nodup_ofEvent
    case ofEvent =>
      intro a ha
      exact eventId_of_mem_ofEvent ha
  case known =>
    intro a ha
    exact mem_map_ofEvent.mp (List.mem_map_of_mem ha)
  case stored =>
    intro id' hid'
    exact hstored id' (by simpa [complete] using hid')
  case fresh =>
    intro id' hid'
    contradiction

theorem keeps_step {action : Action} (h : page.Keeps eventId) (hrefreshes : page.Refreshes action)
    (hstep : step eventId page action = some page') : page'.Keeps eventId := by
  cases action with
  | elsewhere call =>
    rw [← Option.some.inj hstep]
    exact keeps_elsewhere h (Call.grows_after page.db call)
  | submit personId responsibility id commits =>
    rw [← Option.some.inj hstep]
    exact keeps_handleSubmit h personId responsibility id commits
  | refreshed =>
    unfold step at hstep
    dsimp only at hstep
    rw [Option.map_eq_some_iff] at hstep
    obtain ⟨id, hid, hpage⟩ := hstep
    rw [← hpage]
    exact keeps_refreshed h hid
  | refreshFailed => exact absurd rfl hrefreshes

theorem refreshes_of_shows {action : Action} (h : page.Keeps eventId)
    (hstep : step eventId page action = some page') (hshows : page'.Shows eventId)
    : page.Refreshes action := by
  intro hfailed
  rw [hfailed] at hstep
  unfold step at hstep
  dsimp only at hstep
  rw [Option.map_eq_some_iff] at hstep
  obtain ⟨id, hid, hpage⟩ := hstep
  have hcreated := hshows.created id
  rw [← hpage] at hcreated
  apply h.fresh id hid
  apply hcreated
  simp [complete]

/-- The page shows what was created in exactly the runs in which no refresh fails. -/
theorem shows_iff (db : Database) (eventId : UUID) (actions : List Action)
    : Always (step eventId) (Shows eventId) (mount db eventId) actions
        ↔
      Along (step eventId) Refreshes (mount db eventId) actions := by
  have hmount := keeps_mount db eventId
  have hkeeps : ∀ page action page', Keeps eventId page → page.Refreshes action →
      step eventId page action = some page' → Keeps eventId page' := by
    intro page action page' h hrefreshes hstep
    exact keeps_step h hrefreshes hstep
  constructor
  . intro halways
    apply along_of_always hkeeps _ hmount halways
    intro page action page' h hstep hshows
    exact refreshes_of_shows h hstep hshows
  . intro halong
    have hall := always_of_along hkeeps hmount halong
    exact hall.mono fun page h => h.shows

def registrationSeed : Seed :=
  { bare with
    responsibilities := {
      rows := [⟨3, ofString "registration", ofString "Registration", true⟩]
      nodup := by decide
    }
    uq_event_responsibilities_code := by decide
    uq_event_responsibilities_name := by decide }

def registrationDatabase : Database :=
  registrationSeed.database

def readingClub : Database :=
  { registrationDatabase with
    persons := { rows := [⟨2, ofString "Sara", none, true⟩], nodup := by decide }
    events := {
      rows := [⟨1, ofString "Reading club", ofString "READING_CLUB", 1784530800000000, .DRAFT⟩]
      nodup := by decide
    }
    fk_person_roles_person_id := by decide
    fk_event_assignments_event_id := by decide
    fk_event_assignments_person_id := by decide }

/-- An assignment is created, and the list of them cannot be fetched. -/
def lostRefresh : List Action :=
  [.submit (some 2) (ofString "registration") 7 true, .refreshFailed]

theorem lostRefresh_not_shown
    : ((run (step 1) (mount readingClub 1) lostRefresh).map fun page =>
          (page.created, page.view.assignments.map EventAssignmentRead.id, page.view.refreshError))
          =
        some ([7], [], true)
        ∧ ¬Always (step 1) (Shows 1) (mount readingClub 1) lostRefresh := by
  have hshown : ((run (step 1) (mount readingClub 1) lostRefresh).map fun page =>
      (page.created, page.view.assignments.map EventAssignmentRead.id, page.view.refreshError))
      = some ([7], [], true) := by
    decide +kernel
  refine ⟨hshown, ?_⟩
  intro halways
  rw [Option.map_eq_some_iff] at hshown
  obtain ⟨page, hrun, hpage⟩ := hshown
  have hcreated := (halways lostRefresh page List.prefix_rfl hrun).created
  simp only [Prod.mk.injEq] at hpage
  rw [hpage.1, hpage.2.1] at hcreated
  exact absurd (hcreated 7 List.mem_cons_self) List.not_mem_nil

end EventPage

end Web
