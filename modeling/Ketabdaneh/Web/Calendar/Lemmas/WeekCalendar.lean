import Ketabdaneh.Web.Calendar.WeekCalendar
import Ketabdaneh.Web.Calendar.Lemmas.CalendarGrid

namespace Web

open Calendar Ecma Text WeekMath

namespace WeekCalendar

/-- A calendar that is opened on a day of the years 1000 to 9999, whose weeks start on a weekday. -/
structure OpenedOn (calendar : WeekCalendar) (date : Calendar.Date) : Prop where
  today : calendar.today = isoDate date
  year_ge : 1000 ≤ date.year
  year_le : date.year ≤ 9999
  dow_nonneg : 0 ≤ calendar.weekStartDow
  dow_le : calendar.weekStartDow ≤ 6

/-- The first day of the week of `date`, the week that is shown at first. -/
def firstDay (calendar : WeekCalendar) (date : Calendar.Date) : Int :=
  Calendar.weekStart calendar.weekStartDow date.toDays

/-- The page opens its calendar on the viewer's own day. -/
theorem openedOn_calendarPage (browser : Browser) (firstDay : Str → Option Int) (locale : Str)
    (events : List EventRead) {now : TimeValue}
    (hlow : 1000 ≤ (browser.clock.wall now).date.year)
    (hhigh : (browser.clock.wall now).date.year ≤ 9999)
    : (CalendarPage.calendar browser firstDay locale now events).OpenedOn
        (browser.clock.wall now).date where
  today := todayIsoDate_eq hlow hhigh
  year_ge := hlow
  year_le := hhigh
  dow_nonneg := (weekStartDowForLocale_bounds firstDay locale).1
  dow_le := (weekStartDowForLocale_bounds firstDay locale).2

theorem mem_grid {browser : Browser} {calendar : WeekCalendar} {weekOffset : Int}
    {column : DayColumn}
    : column ∈ calendar.grid browser weekOffset
        ↔
      ∃ i : Nat, i < 7 ∧ column
        = CalendarGrid.dayColumn browser true calendar.events
            (addDays (calendar.weekStart weekOffset) i) := by
  rw [List.mem_iff_getElem?]
  unfold grid
  simp only [CalendarGrid.getElem?_days]

/-- All seven days of a week are days that a `Date` reaches. -/
def InRange (calendar : WeekCalendar) (date : Calendar.Date) (weekOffset : Int) : Prop :=
  -100000000 ≤ calendar.firstDay date + 7 * weekOffset
    ∧ calendar.firstDay date + 7 * weekOffset + 6 ≤ 100000000

namespace OpenedOn

variable {browser : Browser} {calendar : WeekCalendar} {date : Calendar.Date}
  (h : calendar.OpenedOn date)

include h

theorem todayDate_eq : calendar.todayDate = some (86400000 * date.toDays) := by
  have hlow := h.year_ge
  have hbounds := Date.toDays_bounds (by omega) h.year_le
  unfold todayDate
  rw [h.today, parseIsoDate_isoDate (by omega) h.year_le]
  dsimp only
  rw [toUtcDate_ofDate (by omega), timeClip_midnight (by omega) (by omega)]

theorem weekStart_eq (weekOffset : Int)
    : calendar.weekStart weekOffset
        =
      (timeClip (86400000 * (date.toDays + weekOffset * 7))).bind fun _ =>
        timeClip (86400000 * (calendar.firstDay date + 7 * weekOffset)) := by
  unfold weekStart
  rw [h.todayDate_eq, addDays_midnight]
  cases hclip : timeClip (86400000 * (date.toDays + weekOffset * 7)) with
  | none => rfl
  | some time =>
    rw [← timeClip_eq_some hclip, startOfWeek_midnight h.dow_nonneg h.dow_le,
      Int.mul_comm weekOffset 7, weekStart_add_mul]
    rfl

theorem addDays_weekStart {weekOffset : Int} {i : Nat} (hi : i < 7)
    (hrange : InRange calendar date weekOffset)
    : addDays (calendar.weekStart weekOffset) i
        =
      some (86400000 * (calendar.firstDay date + 7 * weekOffset + i)) := by
  have hle : calendar.firstDay date ≤ date.toDays := by
    apply weekStart_le
  have hlt : date.toDays < calendar.firstDay date + 7 := by
    apply lt_weekStart_add
  unfold InRange at hrange
  rw [h.weekStart_eq, timeClip_midnight (by omega) (by omega), Option.bind_some,
    timeClip_midnight (by omega) (by omega), addDays_midnight,
    timeClip_midnight (by omega) (by omega)]

theorem bounds_of_addDays {weekOffset : Int} {i : Nat} {midnight : TimeValue}
    (hday : addDays (calendar.weekStart weekOffset) i = some midnight)
    : -100000000 ≤ calendar.firstDay date + 7 * weekOffset + i
        ∧ calendar.firstDay date + 7 * weekOffset + i ≤ 100000000 := by
  rw [h.weekStart_eq] at hday
  unfold addDays at hday
  rw [Option.bind_eq_some_iff] at hday
  obtain ⟨start, hstart, hday⟩ := hday
  rw [Option.bind_eq_some_iff] at hstart
  obtain ⟨_, _, hstart⟩ := hstart
  rw [← timeClip_eq_some hstart] at hday
  have hbounds := bounds_of_timeClip hday
  unfold DAY_MS maxTime at hbounds
  omega

theorem isSome_render {weekOffset : Int}
    : (calendar.render browser weekOffset).isSome = true ↔ InRange calendar date weekOffset := by
  unfold render
  dsimp only
  constructor
  . intro hrender
    split at hrender
    . next hall =>
      have hvalid : ∀ i : Nat, i < 7 →
          ∃ midnight, addDays (calendar.weekStart weekOffset) i = some midnight := by
        intro i hi
        rw [← Option.isSome_iff_exists]
        apply List.all_eq_true.mp hall
          (CalendarGrid.dayColumn browser true calendar.events
            (addDays (calendar.weekStart weekOffset) i))
        exact mem_grid.mpr ⟨i, hi, rfl⟩
      obtain ⟨_, hfirst⟩ := hvalid 0 (by omega)
      obtain ⟨_, hlast⟩ := hvalid 6 (by omega)
      have hlow := h.bounds_of_addDays hfirst
      have hhigh := h.bounds_of_addDays hlast
      unfold InRange
      omega
    . injection hrender
  . intro hrange
    rw [if_pos]
    . rfl
    . rw [List.all_eq_true]
      intro column hcolumn
      obtain ⟨i, hi, hcolumn⟩ := mem_grid.mp hcolumn
      rw [hcolumn]
      show (addDays (calendar.weekStart weekOffset) i).isSome = true
      rw [h.addDays_weekStart hi hrange]
      rfl

theorem render_eq_some {weekOffset : Int} {columns : List DayColumn}
    : calendar.render browser weekOffset = some columns
        ↔
      InRange calendar date weekOffset ∧ columns = calendar.grid browser weekOffset := by
  constructor
  . intro hrender
    have hrange := h.isSome_render.mp (Option.isSome_iff_exists.mpr ⟨columns, hrender⟩)
    unfold render at hrender
    dsimp only at hrender
    split at hrender
    . exact ⟨hrange, (Option.some.inj hrender).symm⟩
    . injection hrender
  . rintro ⟨hrange, rfl⟩
    have hsome : (calendar.render browser weekOffset).isSome = true := (h.isSome_render).mpr hrange
    unfold render at hsome ⊢
    dsimp only at hsome ⊢
    split at hsome
    . next hall => rw [if_pos hall]
    . injection hsome

/-- The columns of a week that is shown are those of seven days, from its first one on. -/
theorem getElem?_of_render {weekOffset : Int} {columns : List DayColumn}
    (hrender : calendar.render browser weekOffset = some columns) {i : Nat} {column : DayColumn}
    : columns[i]? = some column
        ↔
      i < 7 ∧ column = CalendarGrid.dayColumn browser true calendar.events
        (some (86400000 * (calendar.firstDay date + 7 * weekOffset + i))) := by
  obtain ⟨hrange, rfl⟩ := h.render_eq_some.mp hrender
  unfold grid
  rw [CalendarGrid.getElem?_days, and_congr_right_iff]
  intro hi
  rw [h.addDays_weekStart hi hrange]

/-- Every day is some column's, but for six at either end of the days that a `Date` reaches. -/
theorem exists_column (browser : Browser) {day : Calendar.Date} (hfrom : -99999994 ≤ day.toDays)
    (hto : day.toDays ≤ 99999994)
    : ∃ (weekOffset : Int) (columns : List DayColumn) (i : Nat),
        calendar.render browser weekOffset = some columns
          ∧ columns[i]?
            =
          some (CalendarGrid.dayColumn browser true calendar.events
            (some (86400000 * day.toDays))) := by
  obtain ⟨weekOffset, i, hi, hday⟩ := exists_week calendar.weekStartDow date.toDays day.toDays
  have hfirst : day.toDays = calendar.firstDay date + 7 * weekOffset + i := hday
  have hrange : InRange calendar date weekOffset := by
    unfold InRange
    omega
  have hrender : calendar.render browser weekOffset = some _ :=
    h.render_eq_some.mpr ⟨hrange, rfl⟩
  exact ⟨weekOffset, _, i, hrender, (h.getElem?_of_render hrender).mpr ⟨hi, by rw [hfirst]⟩⟩

theorem today_mem_grid (browser : Browser)
    : CalendarGrid.dayColumn browser true calendar.events (some (86400000 * date.toDays))
        ∈ calendar.grid browser 0 := by
  have hle : calendar.firstDay date ≤ date.toDays := by
    apply weekStart_le
  have hlt : date.toDays < calendar.firstDay date + 7 := by
    apply lt_weekStart_add
  have hlow := h.year_ge
  have hbounds := Date.toDays_bounds (by omega) h.year_le
  have hrange : InRange calendar date 0 := by
    unfold InRange
    omega
  rw [mem_grid]
  refine ⟨(date.toDays - calendar.firstDay date).toNat, by omega, ?_⟩
  rw [h.addDays_weekStart (by omega) hrange, show calendar.firstDay date + 7 * 0
    + ((date.toDays - calendar.firstDay date).toNat : Int) = date.toDays by omega]

theorem getUTCDay_first (weekOffset : Int)
    : getUTCDay (86400000 * (calendar.firstDay date + 7 * weekOffset)) = calendar.weekStartDow := by
  have hfirst :
      calendar.firstDay date + 7 * weekOffset
        =
      Calendar.weekStart calendar.weekStartDow (date.toDays + 7 * weekOffset) := by
    rw [weekStart_add_mul]
    rfl
  rw [getUTCDay_midnight, hfirst, weekday_weekStart h.dow_nonneg h.dow_le]

theorem shows_of_render {weekOffset : Int} {columns : List DayColumn}
    (hrender : calendar.render browser weekOffset = some columns) {i : Nat} {column : DayColumn}
    (hcolumn : columns[i]? = some column) {event : EventRead} {instant : TimeValue}
    (hshows : column.Shows event) (hinstant : browser.newDate event.plannedAt = some instant)
    : i < 7 ∧ calendar.firstDay date + 7 * weekOffset + i
        = (browser.clock.wall instant).date.toDays := by
  obtain ⟨hi, hday⟩ := (h.getElem?_of_render hrender).mp hcolumn
  rw [hday, ← Date.toDays_ofDays (calendar.firstDay date + 7 * weekOffset + i),
    CalendarGrid.shows_midnight] at hshows
  obtain ⟨_, instant', hinstant', hwall⟩ := hshows
  rw [hinstant] at hinstant'
  rw [Option.some.inj hinstant', hwall, Date.toDays_ofDays]
  exact ⟨hi, rfl⟩

end OpenedOn

/--
The weeks that are shown cut the days into columns: seven a week, one a day, from one day on that is
the first of the week, and each event is in one of them.
-/
structure Tiles (browser : Browser) (calendar : WeekCalendar) : Prop where
  shown : ∀ event ∈ calendar.events, ∀ instant, browser.newDate event.plannedAt = some instant →
    1 ≤ (browser.clock.wall instant).date.year → (browser.clock.wall instant).date.year ≤ 9999 →
      ∃ (weekOffset : Int) (columns : List DayColumn) (i : Nat) (column : DayColumn),
        calendar.render browser weekOffset = some columns ∧ columns[i]? = some column
          ∧ column.Shows event
          ∧ column.dayDate = some (86400000 * (browser.clock.wall instant).date.toDays)
          ∧ ∀ (weekOffset' : Int) (columns' : List DayColumn) (i' : Nat) (column' : DayColumn),
              calendar.render browser weekOffset' = some columns' →
                columns'[i']? = some column' → column'.Shows event →
                  weekOffset' = weekOffset ∧ i' = i
  unparsed : ∀ event, browser.newDate event.plannedAt = none →
    ∀ weekOffset columns, calendar.render browser weekOffset = some columns →
      ∀ column ∈ columns, ¬column.Shows event
  seven : ∀ weekOffset columns, calendar.render browser weekOffset = some columns →
    columns.length = 7
  first : ∀ weekOffset columns, calendar.render browser weekOffset = some columns →
    ∃ column midnight, columns[0]? = some column ∧ column.dayDate = some midnight
      ∧ getUTCDay midnight = calendar.weekStartDow
  consecutive : ∃ firstDay : Int, ∀ weekOffset columns,
    calendar.render browser weekOffset = some columns → ∀ (i : Nat) column,
      columns[i]? = some column → column.dayDate = some (86400000 * (firstDay + 7 * weekOffset + i))
  covered : ∀ day : Calendar.Date, -99999994 ≤ day.toDays → day.toDays ≤ 99999994 →
    ∃ weekOffset columns, calendar.render browser weekOffset = some columns
      ∧ ∃ column ∈ columns, column.dayDate = some (86400000 * day.toDays)
  disjoint : ∀ (weekOffset weekOffset' : Int) (columns columns' : List DayColumn) (i i' : Nat)
    (column column' : DayColumn), calendar.render browser weekOffset = some columns →
      calendar.render browser weekOffset' = some columns' → columns[i]? = some column →
        columns'[i']? = some column' → column.dayDate = column'.dayDate →
          weekOffset = weekOffset' ∧ i = i'

theorem tiles (browser : Browser) (calendar : WeekCalendar) (date : Calendar.Date)
    (h : calendar.OpenedOn date)
    : Tiles browser calendar := by
  constructor
  case shown =>
    intro event hmem instant hinstant hyear hyear'
    have hbounds := Date.toDays_bounds hyear hyear'
    obtain ⟨weekOffset, columns, i, hrender, hcolumn⟩ := h.exists_column browser
      (Int.le_trans (by decide) hbounds.1) (Int.le_trans hbounds.2 (by decide))
    have hshows : (CalendarGrid.dayColumn browser true calendar.events
        (some (86400000 * (browser.clock.wall instant).date.toDays))).Shows event := by
      rw [CalendarGrid.shows_midnight]
      exact ⟨hmem, instant, hinstant, rfl⟩
    obtain ⟨hi, hday⟩ := h.shows_of_render hrender hcolumn hshows hinstant
    refine ⟨weekOffset, columns, i, _, hrender, hcolumn, hshows, rfl, ?_⟩
    intro weekOffset' columns' i' column' hrender' hcolumn' hshows'
    obtain ⟨hi', hday'⟩ := h.shows_of_render hrender' hcolumn' hshows' hinstant
    exact week_unique hi' hi (hday'.trans hday.symm)
  case unparsed =>
    intro event hnone weekOffset columns hrender column hmem hshows
    obtain ⟨i, hcolumn⟩ := List.mem_iff_getElem?.mp hmem
    obtain ⟨_, hcolumn⟩ := (h.getElem?_of_render hrender).mp hcolumn
    rw [hcolumn, CalendarGrid.shows_dayColumn] at hshows
    obtain ⟨_, instant, hinstant, _⟩ := hshows
    simp [hnone] at hinstant
  case seven =>
    intro weekOffset columns hrender
    obtain ⟨_, rfl⟩ := h.render_eq_some.mp hrender
    apply CalendarGrid.length_days
  case first =>
    intro weekOffset columns hrender
    refine ⟨_, _, (h.getElem?_of_render hrender).mpr ⟨by omega, rfl⟩, rfl, ?_⟩
    rw [Int.natCast_zero, Int.add_zero]
    apply h.getUTCDay_first
  case consecutive =>
    exists calendar.firstDay date
    intro weekOffset columns hrender i column hcolumn
    obtain ⟨_, hcolumn⟩ := (h.getElem?_of_render hrender).mp hcolumn
    rw [hcolumn]
    rfl
  case covered =>
    intro day hfrom hto
    obtain ⟨weekOffset, columns, i, hrender, hcolumn⟩ := h.exists_column browser hfrom hto
    exact ⟨weekOffset, columns, hrender, _, List.mem_of_getElem? hcolumn, rfl⟩
  case disjoint =>
    intro weekOffset weekOffset' columns columns' i i' column column' hrender hrender' hcolumn
      hcolumn' hsame
    obtain ⟨hi, hday⟩ := (h.getElem?_of_render hrender).mp hcolumn
    obtain ⟨hi', hday'⟩ := (h.getElem?_of_render hrender').mp hcolumn'
    rw [hday, hday'] at hsame
    apply week_unique hi hi'
    exact Int.eq_of_mul_eq_mul_left (by decide) (Option.some.inj hsame)

def readingClub : EventRead where
  id := ofString "0b0e7f0c-3f5e-4c39-9d0a-2f6f3a1f6f55"
  plannedAt := ofString "2026-07-20T22:00:00Z"

def viewer : Browser where
  parse iso := if iso = readingClub.plannedAt then some 1784584800000 else none
  clock := ⟨fun _ => 12600000⟩
  localeCompare _ _ := 0
  formatTime _ := ofString "01:30"

def july : WeekCalendar where
  events := [readingClub]
  today := ofString "2026-07-20"
  weekStartDow := 6

theorem july_tiles : Tiles viewer july := by
  apply tiles viewer july ⟨2026, 7, 20, by decide, by decide, by decide, by decide⟩
  constructor
  case today => decide +kernel
  all_goals
    decide

end WeekCalendar

end Web
