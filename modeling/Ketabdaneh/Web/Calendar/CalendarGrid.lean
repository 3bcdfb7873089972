import Ketabdaneh.Web.Calendar.WeekMath
import Mathlib.Data.List.Sort

namespace Web

open Calendar Ecma Text WeekMath

/-- What the grid reads of an event. -/
structure EventRead where
  id : Str
  plannedAt : Str

/-- The viewer's browser: how it reads timestamps, its clock, and what its `Intl` says. -/
structure Browser where
  parse : Str → Option Int
  clock : Clock
  localeCompare : Str → Str → Int
  formatTime : TimeValue → Str

inductive Outside where
  | before
  | after
  deriving DecidableEq

structure LaidOutEvent where
  event : EventRead
  top : Int
  lane : Nat
  outside : Option Outside
  timeLabel : Str

structure DayColumn where
  dayDate : DateObject
  dayKey : Str
  items : List LaidOutEvent
  lanes : Nat

def GRID_START_HOUR : Int :=
  8

def GRID_END_HOUR : Int :=
  22

def HOURS : Int :=
  GRID_END_HOUR - GRID_START_HOUR

def HOUR_HEIGHT : Int :=
  60

def GRID_HEIGHT : Int :=
  HOURS * HOUR_HEIGHT

def EVENT_HEIGHT : Int :=
  48

def Browser.newDate (browser : Browser) (iso : Str) : DateObject :=
  (browser.parse iso).bind timeClip

namespace CalendarGrid

variable (browser : Browser)

/-- The key of the day that the viewer's clock shows. -/
def localKey (date : TimeValue) : Str :=
  let day := (browser.clock.wall date).date
  dateKey ⟨day.year, day.month, day.day⟩

/-- The place of an event in the column of its day, before the lanes are assigned. -/
def layOut (event : EventRead) (date : TimeValue) : LaidOutEvent :=
  let wall := browser.clock.wall date
  let minutesSinceMidnight := wall.hour * 60 + wall.minute
  let top := minutesSinceMidnight - GRID_START_HOUR * 60
  let (top, outside) := if top < 0 then (0, some .before) else (top, none)
  let maxTop := GRID_HEIGHT - EVENT_HEIGHT
  let (top, outside) := if top > maxTop then (maxTop, some .after) else (top, outside)
  {
    event := event
    top := top
    lane := 0
    outside := outside
    timeLabel := browser.formatTime date
  }

def dayEvent (dayKey : Str) (event : EventRead) : Option LaidOutEvent :=
  match browser.newDate event.plannedAt with
  | none => none
  | some date => if localKey browser date ≠ dayKey then none else some (layOut browser event date)

def compareItems (a b : LaidOutEvent) : Int :=
  if a.top - b.top ≠ 0 then a.top - b.top else browser.localeCompare a.event.id b.event.id

/-- Nothing is positioned before the component is mounted. -/
def dayEvents (mounted : Bool) (events : List EventRead) (dayKey : Str) : List LaidOutEvent :=
  if mounted then
    (events.filterMap (dayEvent browser dayKey)).mergeSort fun a b => compareItems browser a b ≤ 0
  else
    []

/-- The first lane whose last occupant has ended, or a new one, and where the lanes end then. -/
def joinLane (laneEnds : List Int) (item : LaidOutEvent) : Nat × List Int :=
  let ending := item.top + EVENT_HEIGHT
  match laneEnds.findIdx? fun laneEnd => laneEnd ≤ item.top with
  | none => (laneEnds.length, laneEnds ++ [ending])
  | some lane => (lane, laneEnds.set lane ending)

def packLanes (laneEnds : List Int) : List LaidOutEvent → List LaidOutEvent × List Int
  | [] => ([], laneEnds)
  | item :: items =>
    let (lane, laneEnds) := joinLane laneEnds item
    let (items, laneEnds) := packLanes laneEnds items
    ({ item with lane := lane } :: items, laneEnds)

def dayColumn (mounted : Bool) (events : List EventRead) (dayDate : DateObject) : DayColumn :=
  let dayKey := isoOf dayDate
  let (items, laneEnds) := packLanes [] (dayEvents browser mounted events dayKey)
  {
    dayDate := dayDate
    dayKey := dayKey
    items := items
    lanes := max 1 laneEnds.length
  }

def days (mounted : Bool) (events : List EventRead) (weekStart : DateObject) : List DayColumn :=
  (List.range 7).map fun (i : Nat) => dayColumn browser mounted events (addDays weekStart i)

end CalendarGrid

end Web
