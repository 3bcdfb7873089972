import Ketabdaneh.Web.Calendar.CalendarGrid
import Ketabdaneh.Web.Calendar.Lemmas.WeekMath

namespace Web

open Calendar Ecma Text WeekMath

def DayColumn.Shows (column : DayColumn) (event : EventRead) : Prop :=
  event ∈ column.items.map LaidOutEvent.event

namespace CalendarGrid

variable {browser : Browser} {events : List EventRead} {event : EventRead}

theorem map_event_packLanes (laneEnds : List Int) (items : List LaidOutEvent)
    : (packLanes laneEnds items).1.map LaidOutEvent.event = items.map LaidOutEvent.event := by
  induction items generalizing laneEnds with
  | nil => rfl
  | cons item items ih =>
    unfold packLanes
    dsimp only
    rw [List.map_cons, List.map_cons, ih]

theorem event_layOut (date : TimeValue) : (layOut browser event date).event = event := by
  rfl

theorem dayEvent_eq_some {dayKey : Str} {item : LaidOutEvent}
    : dayEvent browser dayKey event = some item
        ↔
      ∃ date, browser.newDate event.plannedAt = some date
        ∧ localKey browser date = dayKey ∧ layOut browser event date = item := by
  unfold dayEvent
  cases browser.newDate event.plannedAt with
  | none => simp
  | some date =>
    by_cases hkey : localKey browser date = dayKey
    . simp [hkey]
    . simp [hkey]

theorem mem_dayEvents {dayKey : Str} {item : LaidOutEvent}
    : item ∈ dayEvents browser true events dayKey
        ↔
      ∃ event ∈ events, dayEvent browser dayKey event = some item := by
  unfold dayEvents
  rw [if_pos rfl, List.mem_mergeSort, List.mem_filterMap]

theorem shows_dayColumn {dayDate : DateObject}
    : (dayColumn browser true events dayDate).Shows event
        ↔
      event ∈ events
        ∧ ∃ date, browser.newDate event.plannedAt = some date
            ∧ localKey browser date = isoOf dayDate := by
  have hevents :
      (dayColumn browser true events dayDate).items.map LaidOutEvent.event
        =
      (dayEvents browser true events (isoOf dayDate)).map LaidOutEvent.event := by
    apply map_event_packLanes
  unfold DayColumn.Shows
  rw [hevents, List.mem_map]
  constructor
  . intro h
    obtain ⟨item, hmem, hitem⟩ := h
    obtain ⟨event', hmem', hevent⟩ := mem_dayEvents.mp hmem
    obtain ⟨date, hdate, hkey, hlay⟩ := dayEvent_eq_some.mp hevent
    have heq : event' = event := by
      rw [← hitem, ← hlay, event_layOut]
    rw [heq] at hmem' hdate
    exact ⟨hmem', date, hdate, hkey⟩
  . intro h
    obtain ⟨hmem, date, hdate, hkey⟩ := h
    exists layOut browser event date
    apply And.intro _ (event_layOut date)
    rw [mem_dayEvents]
    exists event
    apply And.intro hmem
    rw [dayEvent_eq_some]
    exists date

theorem localKey_eq (date : TimeValue)
    : localKey browser date = dateKey (DateParts.ofDate (browser.clock.wall date).date) := by
  rfl

/-- A column shows the events of its day, as the viewer's clock has it. -/
theorem shows_midnight {day : Calendar.Date}
    : (dayColumn browser true events (some (86400000 * day.toDays))).Shows event
        ↔
      event ∈ events
        ∧ ∃ date, browser.newDate event.plannedAt = some date
            ∧ (browser.clock.wall date).date = day := by
  rw [shows_dayColumn]
  apply and_congr_right
  intro _
  apply exists_congr
  intro date
  apply and_congr_right
  intro _
  rw [isoOf_midnight, localKey_eq]
  constructor
  . intro hkey
    exact dateKey_injective hkey
  . intro hday
    rw [hday]

/-- Whether the viewer's clock shows the day of a column at the time of an event. -/
def onDay (browser : Browser) (dayDate : DateObject) (event : EventRead) : Bool :=
  match browser.newDate event.plannedAt, dayDate with
  | some date, some midnight => (browser.clock.wall date).date = (utcWall midnight).date
  | _, _ => false

theorem localKey_eq_isoOf {date : TimeValue} {dayDate : DateObject}
    : localKey browser date = isoOf dayDate
        ↔
      ∃ midnight, dayDate = some midnight
        ∧ (browser.clock.wall date).date = (utcWall midnight).date := by
  cases dayDate with
  | none =>
    rw [localKey_eq]
    simp [dateKey_ne_isoOf_none]
  | some midnight =>
    rw [localKey_eq]
    constructor
    . intro hkey
      exact ⟨midnight, rfl, dateKey_injective hkey⟩
    . intro hday
      obtain ⟨_, hmidnight, hday⟩ := hday
      rw [hday, ← Option.some.inj hmidnight]
      rfl

theorem onDay_iff {dayDate : DateObject}
    : onDay browser dayDate event = true
        ↔
      ∃ date, browser.newDate event.plannedAt = some date
        ∧ localKey browser date = isoOf dayDate := by
  unfold onDay
  simp only [localKey_eq_isoOf]
  cases browser.newDate event.plannedAt with
  | none => simp
  | some date =>
    cases dayDate with
    | none => simp
    | some midnight => simp

/-- The items of a day come from its events, one each. -/
theorem map_event_filterMap (dayDate : DateObject)
    : (events.filterMap (dayEvent browser (isoOf dayDate))).map LaidOutEvent.event
        =
      events.filter (onDay browser dayDate) := by
  induction events with
  | nil => rfl
  | cons event events ih =>
    cases hevent : dayEvent browser (isoOf dayDate) event with
    | none =>
      rw [List.filterMap_cons_none hevent, ih, List.filter_cons_of_neg]
      rw [onDay_iff]
      intro h
      obtain ⟨date, hdate, hkey⟩ := h
      rw [dayEvent_eq_some.mpr ⟨date, hdate, hkey, rfl⟩] at hevent
      contradiction
    | some item =>
      obtain ⟨date, hdate, hkey, hlay⟩ := dayEvent_eq_some.mp hevent
      rw [List.filterMap_cons_some hevent, List.map_cons, ih, List.filter_cons_of_pos, ← hlay,
        event_layOut]
      rw [onDay_iff]
      exact ⟨date, hdate, hkey⟩

theorem getElem?_days {mounted : Bool} {weekStart : DateObject} {i : Nat} {column : DayColumn}
    : (days browser mounted events weekStart)[i]? = some column
        ↔
      i < 7 ∧ column = dayColumn browser mounted events (addDays weekStart i) := by
  unfold days
  rw [List.getElem?_map, Option.map_eq_some_iff]
  constructor
  . intro h
    obtain ⟨j, hj, hcolumn⟩ := h
    rw [List.getElem?_eq_some_iff] at hj
    obtain ⟨hlt, hget⟩ := hj
    rw [List.getElem_range] at hget
    rw [List.length_range] at hlt
    rw [← hget] at hcolumn
    exact ⟨hlt, hcolumn.symm⟩
  . intro h
    exists i
    exact ⟨List.getElem?_range h.1, h.2.symm⟩

theorem length_days (mounted : Bool) (weekStart : DateObject)
    : (days browser mounted events weekStart).length = 7 := by
  unfold days
  rw [List.length_map, List.length_range]

end CalendarGrid

end Web
