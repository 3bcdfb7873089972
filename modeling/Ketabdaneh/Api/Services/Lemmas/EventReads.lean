import Ketabdaneh.Api.Services.Lemmas.Store
import Ketabdaneh.Library.Except
import Ketabdaneh.Library.Transition

/-!
This module contains when the events that were posted can be read again: a time is validated in its
own offset, and read in UTC.
-/

namespace Api

open Calendar Python Service Text Transition

def EventCreate.utcYear (payload : EventCreate) : Int :=
  (Wall.ofSeconds (payload.instant / 1000000)).date.year

theorem isSome_readEvent {event : Event}
    : (readEvent event).isSome = (DateTime.ofInstant event.plannedAt).isSome := by
  rw [readEvent, Option.isSome_map]

theorem readEvent_eq_some {event : Event} {read : EventRead} (h : readEvent event = some read)
    : read.id = event.id ∧ read.plannedAt.instant = some event.plannedAt := by
  rw [readEvent, Option.map_eq_some_iff] at h
  rcases h with ⟨plannedAt, hplanned, h⟩
  rw [← h]
  exact ⟨rfl, DateTime.instant_ofInstant hplanned⟩

namespace Database

def Readable (db : Database) : Prop :=
  ∀ event ∈ db.events.rows, (readEvent event).isSome = true

def ReadsBack (db : Database) (id : UUID) (instant : Int) : Prop :=
  (∃ reads, listEvents db = some reads
    ∧ ∃ read ∈ reads, read.id = id ∧ read.plannedAt.instant = some instant)
  ∧ ∃ read, getEvent db id = .ok read ∧ read.id = id ∧ read.plannedAt.instant = some instant

theorem mem_listEvents {db : Database} {reads : List EventRead} {event : Event}
    (h : listEvents db = some reads) (hevent : event ∈ db.events.rows)
    : ∃ read ∈ reads, readEvent event = some read := by
  rw [listEvents, List.mapM_eq_some_iff] at h
  have hmem : readEvent event ∈ reads.map some := by
    rw [← h]
    apply List.mem_map_of_mem
    rwa [List.mem_mergeSort]
  rw [List.mem_map] at hmem
  rcases hmem with ⟨read, hread, heq⟩
  exact ⟨read, hread, heq.symm⟩

theorem isSome_listEvents {db : Database} : (listEvents db).isSome = true ↔ db.Readable := by
  rw [Option.isSome_iff_exists]
  constructor
  . rintro ⟨reads, h⟩ event hevent
    rcases mem_listEvents h hevent with ⟨read, _, hread⟩
    rw [hread, Option.isSome_some]
  . intro h
    refine ⟨(db.events.rows.mergeSort eventBefore).filterMap readEvent, ?_⟩
    rw [listEvents, List.mapM_eq_some_iff, List.map_filterMap_some_eq_filter_map_isSome]
    symm
    rw [List.filter_eq_self]
    intro read hread
    rw [List.mem_map] at hread
    rcases hread with ⟨event, hevent, hread⟩
    rw [List.mem_mergeSort] at hevent
    rw [← hread]
    exact h event hevent

theorem getEvent_of_mem {db : Database} {event : Event} (hevent : event ∈ db.events.rows)
    : getEvent db event.id
        =
      match readEvent event with
      | none => .error .database
      | some read => .ok read := by
  have hget : db.events.get? event.id = some event := Table.get?_eq_some.mpr ⟨hevent, rfl⟩
  cases hread : readEvent event with
  | none => simp [getEvent, hget, hread]
  | some read => simp [getEvent, hget, hread]

theorem readsBack_of_mem {db : Database} {event : Event} (h : db.Readable)
    (hevent : event ∈ db.events.rows) : db.ReadsBack event.id event.plannedAt := by
  rcases Option.isSome_iff_exists.mp (isSome_listEvents.mpr h) with ⟨reads, hreads⟩
  rcases mem_listEvents hreads hevent with ⟨read, hmem, hread⟩
  constructor
  . exact ⟨reads, hreads, read, hmem, readEvent_eq_some hread⟩
  . refine ⟨read, ?_, readEvent_eq_some hread⟩
    rw [getEvent_of_mem hevent, hread]

theorem isSome_of_readsBack {db : Database} {event : Event} {instant : Int}
    (h : db.ReadsBack event.id instant) (hevent : event ∈ db.events.rows)
    : (readEvent event).isSome = true := by
  rcases h.2 with ⟨read, hget, _⟩
  rw [getEvent_of_mem hevent] at hget
  split at hget
  . injection hget
  . next heq => rw [heq, Option.isSome_some]

end Database

theorem isSome_insertEvent {db : Database} {event : Event}
    : (db.insertEvent event).isSome = true ↔ event.id ∉ db.events.rows.map Event.id := by
  have hinsert : (db.events.insert? event).isSome = true ↔ event.id ∉ db.events.rows.map Event.id :=
    Table.isSome_insert?
  rw [← hinsert]
  unfold Database.insertEvent
  split
  . next h => simp [h]
  . next h => simp [h]

namespace Call

theorem succeeds_createEvent {payload : EventCreate} {id : UUID} {commits : Bool} {db : Database}
    : (createEvent payload id commits).succeeds db = true
        ↔
      commits = true ∧ storable payload.title = true ∧ storable payload.type = true
        ∧ id ∉ db.events.rows.map Event.id := by
  rw [succeeds_iff]
  constructor
  . rintro ⟨t, h⟩
    rcases EStateM.bind_eq_ok.mp h with ⟨event, u, h, _⟩
    rcases createEvent_eq_ok h with ⟨hcommits, row, db', hrow, htexts, hinsert, _⟩
    rw [Call.row, Option.some.injEq] at hrow
    rw [← hrow] at htexts hinsert
    simp only [NewRow.texts, List.all_cons, List.all_nil, Bool.and_true, Bool.and_eq_true] at htexts
    have hsome := Option.isSome_of_eq_some hinsert
    exact ⟨hcommits, htexts.1, htexts.2, isSome_insertEvent.mp hsome⟩
  . rintro ⟨hcommits, htitle, htype, hid⟩
    have hsome : (db.insertEvent
        ⟨id, payload.title, payload.type, payload.instant, .DRAFT⟩).isSome = true :=
      isSome_insertEvent.mpr hid
    rcases Option.isSome_iff_exists.mp hsome with ⟨db', hinsert⟩
    refine ⟨{ db := db' }, ?_⟩
    simp only [service, Api.createEvent, add_eq, bind, EStateM.bind, commit_eq, List.nil_append,
      flush, NewRow.texts, NewRow.insert, List.all_cons, List.all_nil, htitle, htype, hcommits,
      Bool.and_self, if_true, hinsert]
    rfl

def InYears (db : Database) : Call → Prop
  | createEvent payload id commits =>
    commits = true ∧ storable payload.title = true ∧ storable payload.type = true
        ∧ id ∉ db.events.rows.map Event.id →
      MINYEAR ≤ payload.utcYear ∧ payload.utcYear ≤ MAXYEAR
  | _ => True

def step (db : Database) (call : Call) : Option Database :=
  some (call.after db)

theorem run_step (db : Database) (calls : List Call) : run step db calls = some (db.afterAll calls) := by
  apply run_total

theorem events_after_createEvent {payload : EventCreate} {id : UUID} {commits : Bool}
    {db : Database} (h : (createEvent payload id commits).succeeds db = true)
    : ((createEvent payload id commits).after db).events.rows
        =
      db.events.rows ++ [⟨id, payload.title, payload.type, payload.instant, .DRAFT⟩] := by
  rcases after_of_succeeds h with ⟨row, hrow, hadds⟩
  rw [Call.row, Option.some.injEq] at hrow
  rw [hadds.events, ← hrow]
  rfl

theorem events_after_other {call : Call} (db : Database) (h : call.kind ≠ .event)
    : (call.after db).events.rows = db.events.rows := by
  cases hcall : call.succeeds db with
  | false => rw [after_of_fails hcall]
  | true =>
    rcases after_of_succeeds hcall with ⟨row, hrow, hadds⟩
    have hcount := count_row hrow .event
    rw [if_neg h, NewRow.count, List.length_eq_zero_iff] at hcount
    rw [hadds.events, hcount, List.append_nil]

theorem readable_after_iff {db : Database} (h : db.Readable) (call : Call)
    : (call.after db).Readable ↔ call.InYears db := by
  cases call with
  | createPerson payload id commits =>
    rw [Database.Readable, events_after_other db (by simp [kind])]
    exact iff_of_true h trivial
  | createEventAssignment payload id commits =>
    rw [Database.Readable, events_after_other db (by simp [kind])]
    exact iff_of_true h trivial
  | createEvent payload id commits =>
    rw [InYears, ← succeeds_createEvent]
    cases hcall : (createEvent payload id commits).succeeds db with
    | false =>
      rw [after_of_fails hcall]
      simp [h]
    | true =>
      rw [Database.Readable, events_after_createEvent hcall, List.forall_mem_append,
        List.forall_mem_singleton, isSome_readEvent, DateTime.ofInstant_isSome]
      constructor
      . intro hread _
        exact hread.2
      . intro hyears
        exact ⟨h, hyears rfl⟩

end Call

/--
Every event that is accepted in a run of calls reads back, from then on, at the instant that was
posted.
-/
def Seed.EventsReadBack (seed : Seed) (calls : List Call) : Prop :=
  ∀ earlier payload id commits later, earlier ++ .createEvent payload id commits :: later <+: calls →
    (Call.createEvent payload id commits).succeeds (seed.database.afterAll earlier) = true →
      (seed.database.afterAll (earlier ++ .createEvent payload id commits :: later)).ReadsBack
        id payload.instant

theorem Seed.readable_database (seed : Seed) : seed.database.Readable := by
  intro event hevent
  exact absurd hevent List.not_mem_nil

theorem Seed.readable_iff (seed : Seed) (calls : List Call)
    : Always Call.step Database.Readable seed.database calls
        ↔
      Along Call.step Call.InYears seed.database calls := by
  apply always_iff_along
  . intro db call db' h hstep
    rw [Call.step, Option.some.injEq] at hstep
    rw [← hstep]
    exact Call.readable_after_iff h call
  . apply Seed.readable_database

/-- The accepted events of a run all read back exactly when each is planned for a year of Python's. -/
theorem Seed.eventsReadBack_iff (seed : Seed) (calls : List Call)
    : seed.EventsReadBack calls ↔ Along Call.step Call.InYears seed.database calls := by
  constructor
  . intro h earlier call db hprefix hrun _
    rw [Call.run_step, Option.some.injEq] at hrun
    cases call with
    | createPerson payload id commits => trivial
    | createEventAssignment payload id commits => trivial
    | createEvent payload id commits =>
      rw [Call.InYears, ← Call.succeeds_createEvent]
      intro hcall
      rw [← hrun] at hcall
      have hback := h earlier payload id commits [] hprefix hcall
      rw [Database.afterAll_concat] at hback
      have hrow : (⟨id, payload.title, payload.type, payload.instant, .DRAFT⟩ : Event)
          ∈ ((Call.createEvent payload id commits).after
              (seed.database.afterAll earlier)).events.rows := by
        rw [Call.events_after_createEvent hcall]
        exact List.mem_append_right _ List.mem_cons_self
      have hsome := Database.isSome_of_readsBack hback hrow
      rwa [isSome_readEvent, DateTime.ofInstant_isSome] at hsome
  . intro h earlier payload id commits later hprefix hcall
    rw [← Seed.readable_iff] at h
    have hreadable := h _ _ hprefix (Call.run_step _ _)
    have hrow : (⟨id, payload.title, payload.type, payload.instant, .DRAFT⟩ : Event)
        ∈ (seed.database.afterAll
            (earlier ++ .createEvent payload id commits :: later)).events.rows := by
      rw [← List.singleton_append, ← List.append_assoc, Database.afterAll_append]
      apply (Database.grows_afterAll _ later).events.subset
      rw [Database.afterAll_concat, Call.events_after_createEvent hcall]
      exact List.mem_append_right _ List.mem_cons_self
    exact Database.readsBack_of_mem hreadable hrow

def firstSecond : Option EventCreate :=
  EventCreate.ofJson (ofString "Founding") (ofString "gathering")
    (ofString "0001-01-01T00:00:00+01:00")

/-- It is accepted, and from then on no event can be listed. -/
theorem firstSecond_breaks_list :
    ∃ payload, firstSecond = some payload
      ∧ (Call.createEvent payload 0 true).succeeds bare.database = true
      ∧ listEvents (bare.database.afterAll [.createEvent payload 0 true]) = none
      ∧ ¬bare.EventsReadBack [.createEvent payload 0 true] := by
  have hsome : firstSecond.isSome = true := by decide
  have hcall : (Call.createEvent (firstSecond.get hsome) 0 true).succeeds bare.database = true :=
    rfl
  have hread : (DateTime.ofInstant (firstSecond.get hsome).instant).isSome = false := rfl
  have hlist : listEvents (bare.database.afterAll [.createEvent (firstSecond.get hsome) 0 true])
      = none := by
    rw [← Option.not_isSome_iff_eq_none, Database.isSome_listEvents]
    intro hreadable
    have hrow := hreadable _ List.mem_cons_self
    rw [isSome_readEvent, hread] at hrow
    injection hrow
  refine ⟨firstSecond.get hsome, (Option.some_get hsome).symm, hcall, hlist, ?_⟩
  intro h
  rcases (h [] _ 0 true [] List.prefix_rfl hcall).1 with ⟨reads, hreads, _⟩
  rw [List.nil_append, hlist] at hreads
  injection hreads

end Api
