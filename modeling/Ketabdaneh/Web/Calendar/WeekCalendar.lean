import Ketabdaneh.Web.Calendar.CalendarGrid

namespace Web

open Ecma Text WeekMath

structure WeekCalendar where
  events : List EventRead
  today : Str
  weekStartDow : Int

namespace WeekCalendar

variable (calendar : WeekCalendar)

def todayDate : DateObject :=
  match parseIsoDate calendar.today with
  | some todayParts => toUtcDate todayParts
  | none => toUtcDate ⟨2026, 1, 1⟩

def weekStart (weekOffset : Int) : DateObject :=
  startOfWeek (addDays calendar.todayDate (weekOffset * 7)) calendar.weekStartDow

/-- The columns on the screen, once they are mounted. -/
def grid (browser : Browser) (weekOffset : Int) : List DayColumn :=
  CalendarGrid.days browser true calendar.events (calendar.weekStart weekOffset)

/-- What is shown of a week: a date that is no valid one throws as it is formatted for its header. -/
def render (browser : Browser) (weekOffset : Int) : Option (List DayColumn) :=
  let columns := calendar.grid browser weekOffset
  if columns.all fun column => column.dayDate.isSome then some columns else none

end WeekCalendar

/-- The calendar of the page, once the events are there. -/
def CalendarPage.calendar (browser : Browser) (firstDay : Str → Option Int) (locale : Str)
    (now : TimeValue) (events : List EventRead) : WeekCalendar where
  events := events
  today := todayIsoDate browser.clock now
  weekStartDow := weekStartDowForLocale firstDay locale

end Web
