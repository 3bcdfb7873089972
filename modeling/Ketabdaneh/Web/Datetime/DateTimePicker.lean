import Ketabdaneh.Web.Datetime.MonthGrid

/-!
This module contains the state of the datetime picker and what its buttons do. The popover opening
and closing changes none of it.
-/

namespace Web

open Calendar Ecma MonthGrid Text

structure DateTimePicker where
  /-- The viewer's calendar system, which is not the picker's own. -/
  system : CalendarSystem
  viewAnchor : Option TimeValue := none
  selectedDate : Option TimeValue
  timeStr : Str
  /-- When the picker was rendered last. -/
  now : TimeValue
  /-- What `onChange` was called with so far. -/
  emitted : List (Option DateObject) := []

namespace DateTimePicker

inductive Action where
  | dayClick (index : Nat)
  | timeChange (next : Str)
  | previousMonth
  | nextMonth
  | today
  | setSystem (system : CalendarSystem)

structure Event where
  action : Action
  now : TimeValue

section

variable (clock : LocalClock) (jalaali : Jalaali) (weekStartDow : Int)

def mount (value : Option TimeValue) (system : CalendarSystem) (now : TimeValue)
    : DateTimePicker where
  system := system
  selectedDate := value
  timeStr := value.elim [] (timeStringOf clock)
  now := now

def viewMonth (picker : DateTimePicker) : Option CalendarMonth := do
  let date := (picker.viewAnchor.or picker.selectedDate).getD picker.now
  let view ← dayPartsOf clock jalaali date picker.system
  return ⟨view.year, view.month⟩

def cells (picker : DateTimePicker) : Option (List DayCell) := do
  let view ← picker.viewMonth clock jalaali
  buildMonthGrid clock jalaali view weekStartDow picker.system

def emit (picker : DateTimePicker) (date : Option TimeValue) (time : Str) : DateTimePicker :=
  let combined := date.bind fun date => MonthGrid.combineDateAndTime clock date time
  { picker with emitted := picker.emitted ++ [combined] }

def handleDayClick (picker : DateTimePicker) (cellDate : TimeValue) : DateTimePicker :=
  let clicked := { picker with selectedDate := some cellDate, viewAnchor := some cellDate }
  clicked.emit clock (some cellDate) picker.timeStr

def handleTimeChange (picker : DateTimePicker) (next : Str) : DateTimePicker :=
  { picker with timeStr := next }.emit clock picker.selectedDate next

def goToToday (picker : DateTimePicker) (now : TimeValue) : DateTimePicker :=
  { picker with viewAnchor := some now }

/-- The buttons beside the month's name. -/
def showMonth (picker : DateTimePicker) (delta : Int) : Option DateTimePicker := do
  let view ← picker.viewMonth clock jalaali
  let anchor ← dateOf clock jalaali (addMonths view delta) 1 picker.system
  return { picker with viewAnchor := some anchor }

def handle (picker : DateTimePicker) (event : Event) : Option DateTimePicker :=
  match event.action with
  | .dayClick index => do
    let cells ← picker.cells clock jalaali weekStartDow
    let cell ← cells[index]?
    return picker.handleDayClick clock cell.date
  | .timeChange next => some (picker.handleTimeChange clock next)
  | .previousMonth => picker.showMonth clock jalaali (-1)
  | .nextMonth => picker.showMonth clock jalaali 1
  | .today => some (picker.goToToday event.now)
  | .setSystem system => some { picker with system }

/-- The handler, then the render; nothing where there is no such cell, or jalaali-js throws. -/
def step (picker : DateTimePicker) (event : Event) : Option DateTimePicker := do
  let handled ← picker.handle clock jalaali weekStartDow event
  return { handled with now := event.now }

end

end DateTimePicker

end Web
