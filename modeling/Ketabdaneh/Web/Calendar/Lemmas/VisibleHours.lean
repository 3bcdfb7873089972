import Ketabdaneh.Web.Calendar.Lemmas.CalendarGrid

namespace Web.CalendarGrid

open Calendar Ecma Text

/-- The minutes that a wall clock is past the start of the grid. -/
def gridMinute (wall : Wall) : Int :=
  wall.hour * 60 + wall.minute - GRID_START_HOUR * 60

/-- The local time of day in seconds. -/
def timeOfDay (wall : Wall) : Int :=
  wall.hour * 3600 + wall.minute * 60 + wall.second

variable {browser : Browser} {event : EventRead} {date : TimeValue}

theorem gridMinute_eq (wall : Wall) : gridMinute wall = timeOfDay wall / 60 - 480 := by
  have hsecond := And.intro wall.second_nonneg wall.second_le
  unfold gridMinute timeOfDay GRID_START_HOUR
  omega

theorem place_layOut (event : EventRead) (date : TimeValue)
    : ((layOut browser event date).top, (layOut browser event date).outside)
        =
      if gridMinute (browser.clock.wall date) < 0 then (0, some .before)
      else if 792 < gridMinute (browser.clock.wall date) then (792, some .after)
      else (gridMinute (browser.clock.wall date), none) := by
  unfold layOut gridMinute GRID_HEIGHT EVENT_HEIGHT HOURS HOUR_HEIGHT GRID_START_HOUR GRID_END_HOUR
  dsimp only
  generalize (browser.clock.wall date).hour * 60 + (browser.clock.wall date).minute - 8 * 60 = minute
  by_cases hlow : minute < 0
  . simp [hlow]
  . by_cases hhigh : 792 < minute
    . simp [hlow, hhigh]
    . simp [hlow, hhigh]

theorem top_layOut (event : EventRead) (date : TimeValue)
    : (layOut browser event date).top = max 0 (min (gridMinute (browser.clock.wall date)) 792) := by
  have hplace := congrArg Prod.fst (@place_layOut browser event date)
  dsimp only at hplace
  rw [hplace]
  split
  . dsimp only
    omega
  . split
    . dsimp only
      omega
    . dsimp only
      omega

theorem outside_layOut (event : EventRead) (date : TimeValue)
    : (layOut browser event date).outside
        =
      if gridMinute (browser.clock.wall date) < 0 then some .before
      else if 792 < gridMinute (browser.clock.wall date) then some .after
      else none := by
  have hplace := congrArg Prod.snd (@place_layOut browser event date)
  dsimp only at hplace
  rw [hplace]
  split
  . rfl
  . split
    . rfl
    . rfl

theorem outside_eq_before_iff
    : (layOut browser event date).outside = some .before
        ↔
      gridMinute (browser.clock.wall date) < 0 := by
  rw [outside_layOut]
  grind

theorem outside_eq_after_iff
    : (layOut browser event date).outside = some .after
        ↔
      792 < gridMinute (browser.clock.wall date) := by
  rw [outside_layOut]
  grind

theorem outside_eq_none_iff
    : (layOut browser event date).outside = none
        ↔
      0 ≤ gridMinute (browser.clock.wall date) ∧ gridMinute (browser.clock.wall date) ≤ 792 := by
  rw [outside_layOut]
  grind

/-- What the grid should make of an event, by its local time. -/
structure MarkedRight (browser : Browser) (event : EventRead) (date : TimeValue) : Prop where
  top_nonneg : 0 ≤ (layOut browser event date).top
  top_le : (layOut browser event date).top ≤ GRID_HEIGHT - EVENT_HEIGHT
  monotone : ∀ event' date',
    timeOfDay (browser.clock.wall date) ≤ timeOfDay (browser.clock.wall date') →
      (layOut browser event date).top ≤ (layOut browser event' date').top
  before_iff : (layOut browser event date).outside = some .before
    ↔ timeOfDay (browser.clock.wall date) < GRID_START_HOUR * 3600
  after_iff : (layOut browser event date).outside = some .after
    ↔ GRID_END_HOUR * 3600 ≤ timeOfDay (browser.clock.wall date)
  none_iff : (layOut browser event date).outside = none
    ↔ GRID_START_HOUR * 3600 ≤ timeOfDay (browser.clock.wall date)
      ∧ timeOfDay (browser.clock.wall date) < GRID_END_HOUR * 3600

/-- The marker is wrong from 21:13 on, where the block does not fit any more, until 22:00. -/
theorem markedRight_iff (browser : Browser) (event : EventRead) (date : TimeValue)
    : MarkedRight browser event date
        ↔
      ¬(21 * 3600 + 13 * 60 ≤ timeOfDay (browser.clock.wall date)
        ∧ timeOfDay (browser.clock.wall date) < 22 * 3600) := by
  have hminute := gridMinute_eq (browser.clock.wall date)
  constructor
  . intro h hlate
    have hnone := h.none_iff
    rw [outside_eq_none_iff] at hnone
    unfold GRID_START_HOUR GRID_END_HOUR at hnone
    omega
  . intro hfits
    constructor
    case top_nonneg =>
      rw [top_layOut]
      omega
    case top_le =>
      rw [top_layOut]
      unfold GRID_HEIGHT EVENT_HEIGHT HOURS HOUR_HEIGHT GRID_START_HOUR GRID_END_HOUR
      omega
    case monotone =>
      intro event' date' hle
      have hminute' := gridMinute_eq (browser.clock.wall date')
      rw [top_layOut, top_layOut]
      omega
    case before_iff =>
      rw [outside_eq_before_iff]
      unfold GRID_START_HOUR
      omega
    case after_iff =>
      rw [outside_eq_after_iff]
      unfold GRID_END_HOUR
      omega
    case none_iff =>
      rw [outside_eq_none_iff]
      unfold GRID_START_HOUR GRID_END_HOUR
      omega

def eveningReading : EventRead where
  id := ofString "5b0c4ad6-4f0e-4f0e-8a38-0c8c2b9b7c11"
  plannedAt := ofString "2026-07-20T21:30:00Z"

def utcViewer : Browser where
  parse iso := if iso = eveningReading.plannedAt then some 1784583000000 else none
  clock := ⟨fun _ => 0⟩
  localeCompare _ _ := 0
  formatTime _ := ofString "21:30"

/-- An event at half past nine in the evening is marked as past ten. -/
theorem eveningReading_after
    : (dayColumn utcViewer true [eveningReading] (some 1784505600000)).items.map
          LaidOutEvent.outside
        =
      [some .after]
        ∧ ¬MarkedRight utcViewer eveningReading 1784583000000 := by
  constructor
  . decide +kernel
  . intro h
    have hnone := h.none_iff
    revert hnone
    decide

end Web.CalendarGrid
