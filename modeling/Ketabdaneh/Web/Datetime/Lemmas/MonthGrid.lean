import Ketabdaneh.Library.Except
import Ketabdaneh.Web.Datetime.Lemmas.Jalaali
import Ketabdaneh.Web.Datetime.MonthGrid
import Mathlib.Data.List.Forall2

/-!
This module contains what the month grid shows, in both calendar systems.
-/

namespace Web.MonthGrid

open Calendar Ecma

variable {clock : LocalClock} {jalaali : Jalaali} {times : Set Int} {system : CalendarSystem}
variable {view : CalendarMonth} {weekStartDow : Int}

/-- The days of a month are `length` days from `first` on, and no other day has a name of theirs. -/
structure Names (clock : LocalClock) (jalaali : Jalaali) (system : CalendarSystem)
    (view : CalendarMonth) (first length : Int) : Prop where
  length_ge : 28 ≤ length
  length_le : length ≤ 31
  first_ge : -70000000 ≤ first
  first_le : first ≤ 70000000
  dateOf : ∀ day, 1 ≤ day → day ≤ length →
    dateOf clock jalaali view day system = timeClip (clock.utc (86400000 * (first + day - 1)))
  around : ∀ t, first - 6 ≤ clock.day t → clock.day t ≤ first + 41 →
    (dayPartsOf clock jalaali t system).isSome = true
  named : ∀ t, first ≤ clock.day t → clock.day t < first + length →
    dayPartsOf clock jalaali t system = some ⟨view.year, view.month, clock.day t - first + 1⟩
  inMonth : ∀ t parts, dayPartsOf clock jalaali t system = some parts →
    parts.year = view.year → parts.month = view.month →
      first ≤ clock.day t ∧ clock.day t < first + length

/-- On a clock that skips no day the code finds the days and their number. -/
structure Lays (clock : LocalClock) (jalaali : Jalaali) (times : Set Int) (system : CalendarSystem)
    (view : CalendarMonth) (first length : Int) : Prop
    extends Names clock jalaali system view first length where
  monthLength : monthLength clock jalaali view system = some length
  reach : ∀ day, 1 ≤ day → day ≤ length →
    ∃ t, MonthGrid.dateOf clock jalaali view day system = some t ∧ clock.day t = first + day - 1
      ∧ clock.timeWithinDay t ∈ times

theorem lays_of_names {first length : Int} (h : clock.KeepsDays times)
    (hnames : Names clock jalaali system view first length)
    (hlength : monthLength clock jalaali view system = some length)
    : Lays clock jalaali times system view first length where
  toNames := hnames
  monthLength := hlength
  reach := by
    intro day hd1 hd
    have hlow := hnames.first_ge
    have hhigh := hnames.first_le
    have hle := hnames.length_le
    rw [hnames.dateOf day hd1 hd]
    exact h.reach_midnight (by omega) (by omega)

theorem names_gregory (hlow : 100 ≤ view.year) (hhigh : view.year ≤ 9999) (h1 : 1 ≤ view.month)
    (h12 : view.month ≤ 12)
    : Names clock jalaali .gregory view (dayNumber view.year view.month 1)
        (Calendar.monthLength view.year view.month) := by
  have hfirst := dayNumber_bounds h1 h12 (by omega) hhigh
  constructor
  case length_ge => exact monthLength_ge view.year view.month
  case length_le => exact monthLength_le view.year view.month
  case first_ge => omega
  case first_le => omega
  case dateOf =>
    intro day hd1 hd
    have hday : makeDay view.year (view.month - 1) day = dayNumber view.year view.month 1 + day - 1 := by
      have hdate := makeDay_date ⟨view.year, view.month, day, h1, h12, hd1, hd⟩
      rw [Date.toDays_eq] at hdate
      rw [hdate]
      dsimp only
      omega
    exact LocalClock.newDate_midnight hlow hday
  case around =>
    intro t _ _
    rfl
  case named =>
    intro t ht ht'
    have hmonth := (Date.ofDays_month h1 h12).mpr (And.intro ht ht')
    have hday := Date.day_ofDays (clock.day t)
    rw [hmonth.1, hmonth.2] at hday
    simp only [dayPartsOf, LocalClock.date, hmonth.1, hmonth.2, hday]
  case inMonth =>
    intro t parts hparts hyear hmonth
    rw [dayPartsOf, Option.some.injEq] at hparts
    rw [← Date.ofDays_month h1 h12, ← hyear, ← hmonth, ← hparts]
    exact ⟨rfl, rfl⟩

theorem monthLength_gregory (h : clock.KeepsDays times) (hlow : 100 ≤ view.year)
    (hhigh : view.year ≤ 9999) (h1 : 1 ≤ view.month) (h12 : view.month ≤ 12)
    : monthLength clock jalaali view .gregory
        =
      some (Calendar.monthLength view.year view.month) := by
  have hfirst := dayNumber_bounds h1 h12 (by omega) hhigh
  have hge := monthLength_ge view.year view.month
  have hle := monthLength_le view.year view.month
  have hday : makeDay view.year view.month 0
      = dayNumber view.year view.month 1 + Calendar.monthLength view.year view.month - 1 := by
    have hadd := @LocalClock.makeDay_add view.year view.month 1 (-1)
    have hnext := dayNumber_next view.year h1 h12
    rw [← hnext]
    exact hadd
  obtain ⟨last, hlast, hn, _⟩ := h.reach_midnight
    (show -90000000
      ≤ dayNumber view.year view.month 1 + Calendar.monthLength view.year view.month - 1 by omega)
    (by omega)
  rw [monthLength, LocalClock.newDate_midnight hlow hday, hlast, Option.map_some, LocalClock.date, hn,
    Date.day_ofDays]
  have hmonth := (@Date.ofDays_month view.year view.month
    (dayNumber view.year view.month 1 + Calendar.monthLength view.year view.month - 1)
    h1 h12).mpr (by omega)
  rw [hmonth.1, hmonth.2]
  congr 1
  omega

variable {first last : Int} {start : Int → Int → Int}

theorem isDay_of_month {year month day length : Int} (hlow : first ≤ year)
    (hhigh : year ≤ last) (h1 : 1 ≤ month) (h12 : month ≤ 12)
    (hlength : jalaali.jalaaliMonthLength year month = some length) (hd1 : 1 ≤ day)
    (hd : day ≤ length) : jalaali.IsDay first last ⟨year, month, day⟩ where
  year_ge := hlow
  year_le := hhigh
  month_pos := h1
  month_le := h12
  day_pos := hd1
  day_le := by
    intro length' hlength'
    rw [hlength, Option.some.injEq] at hlength'
    rwa [← hlength']

theorem names_persian (hexact : jalaali.Exact first last start) (hlow : first ≤ view.year)
    (hhigh : view.year ≤ last) (h1 : 1 ≤ view.month) (h12 : view.month ≤ 12)
    : ∃ length, Names clock jalaali .persian view (start view.year view.month) length
        ∧ jalaali.jalaaliMonthLength view.year view.month = some length := by
  obtain ⟨length, hlength, h29, h31⟩ := hexact.monthLength view.year view.month hlow hhigh h1 h12
  have hday : ∀ day, 1 ≤ day → day ≤ length →
      jalaali.IsDay first last ⟨view.year, view.month, day⟩ := by
    intro day hd1 hd
    exact isDay_of_month hlow hhigh h1 h12 hlength hd1 hd
  have hnumber : -719468 ≤ start view.year view.month + 1 - 1
      ∧ start view.year view.month + 1 - 1 ≤ 2933262 := by
    obtain ⟨hyear, hyear', _⟩ := hexact.toGregorian _ (hday 1 (by decide) (by omega))
    have hbounds := Date.toDays_bounds (Int.le_trans (by decide) hyear) hyear'
    rwa [Date.toDays_ofDays] at hbounds
  have hnamed : ∀ t, start view.year view.month ≤ clock.day t
      → clock.day t < start view.year view.month + length
      → dayPartsOf clock jalaali t .persian
          = some ⟨view.year, view.month, clock.day t - start view.year view.month + 1⟩ := by
    intro t ht ht'
    have hparts := hexact.toJalaali _
      (hday (clock.day t - start view.year view.month + 1) (by omega) (by omega))
    simp only at hparts
    rw [show start view.year view.month + (clock.day t - start view.year view.month + 1) - 1
      = clock.day t by omega] at hparts
    exact hparts
  refine ⟨length, ?_, hlength⟩
  constructor
  case length_ge => omega
  case length_le => exact h31
  case first_ge => omega
  case first_le => omega
  case dateOf =>
    intro day hd1 hd
    obtain ⟨hyear, _, hgregorian⟩ := hexact.toGregorian _ (hday day hd1 hd)
    simp only [dateOf, jalaaliToDateObject, hgregorian, Option.bind_eq_bind, Option.bind_some]
    apply LocalClock.newDate_midnight hyear
    rw [makeDay_date, Date.toDays_ofDays]
  case around =>
    intro t ht ht'
    have hfirst := hexact.around _ (clock.day t) (hday 1 (by decide) (by omega))
    have hlast := hexact.around _ (clock.day t) (hday length (by omega) (Int.le_refl _))
    simp only at hfirst hlast
    by_cases hbefore : clock.day t < start view.year view.month
    . exact hfirst (by omega) (by omega)
    . by_cases hafter : start view.year view.month + length ≤ clock.day t
      . exact hlast (by omega) (by omega)
      . rw [hnamed t (by omega) (by omega)]
        rfl
  case named => exact hnamed
  case inMonth =>
    intro t parts hparts hyear hmonth
    obtain ⟨hisDay, hn⟩ := hexact.isDay (clock.day t) parts hparts (by omega) (by omega)
    have hd1 := hisDay.day_pos
    have hd := hisDay.day_le length
    rw [hyear, hmonth] at hd hn
    have hle := hd hlength
    omega

structure ViewCorrect (clock : LocalClock) (jalaali : Jalaali) (view : CalendarMonth)
    (weekStartDow : Int) (system : CalendarSystem) (cells : List DayCell) : Prop where
  length : cells.length = 42
  weekday : ∀ cell, cells[0]? = some cell → clock.getDay cell.date = weekStartDow
  consecutive : ∀ i cell next, cells[i]? = some cell → cells[i + 1]? = some next →
    clock.day next.date = clock.day cell.date + 1
  parts : ∀ cell ∈ cells, ∃ parts, dayPartsOf clock jalaali cell.date system = some parts
    ∧ cell.day = parts.day
  block : ∃ leading length : Nat, leading < 7 ∧ leading + length ≤ 42
    ∧ monthLength clock jalaali view system = some length
    ∧ ∀ i cell, cells[i]? = some cell →
        (cell.inMonth = true ↔ leading ≤ i ∧ i < leading + length)
          ∧ (cell.inMonth = true → cell.day = (i : Int) - leading + 1)
  dayPartsOf_dateOf : ∀ day length, monthLength clock jalaali view system = some length →
    1 ≤ day → day ≤ length → ∃ date, dateOf clock jalaali view day system = some date
      ∧ dayPartsOf clock jalaali date system = some ⟨view.year, view.month, day⟩
  dateOf_dayPartsOf : ∀ date day,
    dayPartsOf clock jalaali date system = some ⟨view.year, view.month, day⟩ →
      ∃ date', dateOf clock jalaali view day system = some date' ∧ isSameDay clock date' date = true

variable {s length : Int}

structure IsCell (clock : LocalClock) (jalaali : Jalaali) (system : CalendarSystem)
    (view : CalendarMonth) (day : Int) (cell : DayCell) : Prop where
  day_date : clock.day cell.date = day
  exists_parts : ∃ parts, dayPartsOf clock jalaali cell.date system = some parts
    ∧ cell.day = parts.day ∧ (cell.inMonth = true ↔ parts.year = view.year ∧ parts.month = view.month)

theorem leading_eq (n : Int) (h0 : 0 ≤ weekStartDow) (h6 : weekStartDow ≤ 6)
    : n + -(Calendar.weekday n - weekStartDow + 7).tmod 7 = weekStart weekStartDow n := by
  have hweekday : 0 ≤ Calendar.weekday n ∧ Calendar.weekday n ≤ 6 := by
    unfold Calendar.weekday
    omega
  rw [Int.tmod_eq_emod_of_nonneg (by omega), weekStart]
  omega

theorem exists_buildMonthGrid (h : clock.KeepsDays times)
    (hlays : Lays clock jalaali times system view s length) (h0 : 0 ≤ weekStartDow)
    (h6 : weekStartDow ≤ 6)
    : ∃ cells, buildMonthGrid clock jalaali view weekStartDow system = some cells
        ∧ List.Forall₂ (fun (i : Nat) cell =>
            IsCell clock jalaali system view (weekStart weekStartDow s + i) cell)
          (List.range 42) cells := by
  have hge := hlays.first_ge
  have hle := hlays.first_le
  have hstart := weekStart_le weekStartDow s
  have hstart' := lt_weekStart_add weekStartDow s
  obtain ⟨t, hfirst, hday, htime⟩ := hlays.reach 1 (by decide)
    (Int.le_trans (by decide) hlays.length_ge)
  have hday1 : clock.day t = s := by omega
  obtain ⟨u, hset, hudays, hutime⟩ := h.setDate htime
    (leading_eq (clock.day t) h0 h6) (by rw [hday1]; omega) (by rw [hday1]; omega)
  rw [hday1] at hudays
  rw [← Int.sub_eq_add_neg] at hset
  simp only [buildMonthGrid, hfirst, Option.bind_eq_bind, Option.bind_some, LocalClock.getDay, hset]
  apply List.exists_mapM_eq_some
  intro i hi
  rw [List.mem_range] at hi
  obtain ⟨date, hdate, hdateDay, _⟩ := h.setDate hutime (k := i) rfl (by omega) (by omega)
  rw [hudays] at hdateDay
  obtain ⟨parts, hparts⟩ := Option.isSome_iff_exists.mp
    (hlays.around date (by omega) (by omega))
  rw [hdate, Option.bind_some, hparts, Option.bind_some]
  refine ⟨_, rfl, hdateDay, parts, hparts, rfl, ?_⟩
  rw [Bool.and_eq_true, decide_eq_true_eq, decide_eq_true_eq]

theorem isCell_of_getElem? {cells : List DayCell} {n : Int}
    (h : List.Forall₂ (fun (i : Nat) cell => IsCell clock jalaali system view (n + i) cell)
      (List.range 42) cells)
    {i : Nat} {cell : DayCell} (hcell : cells[i]? = some cell)
    : i < 42 ∧ IsCell clock jalaali system view (n + i) cell := by
  obtain ⟨hi, hcell⟩ := List.getElem?_eq_some_iff.mp hcell
  have hlength := h.length_eq
  rw [List.length_range] at hlength
  have hget := h.get (by rw [List.length_range]; omega) hi
  rw [List.get_eq_getElem, List.get_eq_getElem, List.getElem_range, hcell] at hget
  exact ⟨by omega, hget⟩

theorem IsCell.inMonth_iff (hlays : Lays clock jalaali times system view s length) {n : Int}
    {cell : DayCell} (h : IsCell clock jalaali system view n cell)
    : cell.inMonth = true ↔ s ≤ n ∧ n < s + length := by
  obtain ⟨parts, hparts, _, hinMonth⟩ := h.exists_parts
  rw [hinMonth, ← h.day_date]
  constructor
  . intro hview
    exact hlays.inMonth cell.date parts hparts hview.1 hview.2
  . intro hn
    have hnamed := hlays.named cell.date hn.1 hn.2
    rw [hparts, Option.some.injEq] at hnamed
    rw [hnamed]
    exact ⟨rfl, rfl⟩

theorem IsCell.day_eq (hlays : Lays clock jalaali times system view s length) {n : Int}
    {cell : DayCell} (h : IsCell clock jalaali system view n cell) (hin : cell.inMonth = true)
    : cell.day = n - s + 1 := by
  obtain ⟨parts, hparts, hday, _⟩ := h.exists_parts
  rw [h.inMonth_iff hlays, ← h.day_date] at hin
  have hnamed := hlays.named cell.date hin.1 hin.2
  rw [hparts, Option.some.injEq] at hnamed
  rw [hday, hnamed, h.day_date]

theorem viewCorrect_of_lays (hlays : Lays clock jalaali times system view s length)
    (h0 : 0 ≤ weekStartDow) (h6 : weekStartDow ≤ 6) {cells : List DayCell}
    (hcells : List.Forall₂ (fun (i : Nat) cell =>
        IsCell clock jalaali system view (weekStart weekStartDow s + i) cell) (List.range 42) cells)
    : ViewCorrect clock jalaali view weekStartDow system cells := by
  have hge := hlays.length_ge
  have hle := hlays.length_le
  constructor
  case length => exact hcells.length_eq.symm.trans List.length_range
  case weekday =>
    intro cell hcell
    obtain ⟨_, hiscell⟩ := isCell_of_getElem? hcells hcell
    rw [LocalClock.getDay, hiscell.day_date]
    simp only [Int.natCast_zero, Int.add_zero]
    exact weekday_weekStart h0 h6 s
  case consecutive =>
    intro i cell next hcell hnext
    obtain ⟨_, hiscell⟩ := isCell_of_getElem? hcells hcell
    obtain ⟨_, hisnext⟩ := isCell_of_getElem? hcells hnext
    rw [hiscell.day_date, hisnext.day_date]
    omega
  case parts =>
    intro cell hcell
    obtain ⟨i, hcell⟩ := List.mem_iff_getElem?.mp hcell
    obtain ⟨_, hiscell⟩ := isCell_of_getElem? hcells hcell
    obtain ⟨parts, hparts, hday, _⟩ := hiscell.exists_parts
    exact ⟨parts, hparts, hday⟩
  case block =>
    have hstart := weekStart_le weekStartDow s
    have hstart' := lt_weekStart_add weekStartDow s
    refine ⟨(s - weekStart weekStartDow s).toNat, length.toNat, by omega, by omega, ?_, ?_⟩
    . rw [hlays.monthLength]
      congr 1
      omega
    . intro i cell hcell
      obtain ⟨_, hiscell⟩ := isCell_of_getElem? hcells hcell
      constructor
      . rw [hiscell.inMonth_iff hlays]
        omega
      . intro hin
        rw [hiscell.day_eq hlays hin]
        omega
  case dayPartsOf_dateOf =>
    intro day length' hlength hd1 hd
    rw [hlays.monthLength, Option.some.injEq] at hlength
    obtain ⟨date, hdate, hn, _⟩ := hlays.reach day hd1 (by omega)
    refine ⟨date, hdate, ?_⟩
    rw [hlays.named date (by omega) (by omega), hn]
    congr 2
    omega
  case dateOf_dayPartsOf =>
    intro date day hparts
    have hin := hlays.inMonth date _ hparts rfl rfl
    have hnamed := hlays.named date hin.1 hin.2
    rw [hparts, Option.some.injEq, DayParts.mk.injEq] at hnamed
    obtain ⟨date', hdate', hn, _⟩ := hlays.reach day (by omega) (by omega)
    refine ⟨date', hdate', ?_⟩
    have hsame : clock.date date' = clock.date date := by
      unfold LocalClock.date
      congr 1
      omega
    rw [isSameDay, hsame]
    simp

/-- The views of the two systems: `first` and `last` are the Persian years that are supported. -/
def Supports (first last : Int) (system : CalendarSystem) (view : CalendarMonth) : Prop :=
  1 ≤ view.month ∧ view.month ≤ 12 ∧
    match system with
    | .persian => first ≤ view.year ∧ view.year ≤ last
    | .gregory => 100 ≤ view.year ∧ view.year ≤ 9999

theorem exists_names (clock : LocalClock) (hexact : jalaali.Exact first last start)
    (hview : Supports first last system view)
    : ∃ s length, Names clock jalaali system view s length := by
  obtain ⟨h1, h12, hyear⟩ := hview
  cases system with
  | persian =>
    obtain ⟨length, hnames, _⟩ := names_persian hexact hyear.1 hyear.2 h1 h12
    exact ⟨_, length, hnames⟩
  | gregory => exact ⟨_, _, names_gregory hyear.1 hyear.2 h1 h12⟩

theorem exists_lays (h : clock.KeepsDays times) (hexact : jalaali.Exact first last start)
    (hview : Supports first last system view)
    : ∃ s length, Lays clock jalaali times system view s length := by
  obtain ⟨h1, h12, hyear⟩ := hview
  cases system with
  | persian =>
    obtain ⟨length, hnames, hlength⟩ := names_persian hexact hyear.1 hyear.2 h1 h12
    exact ⟨_, length, lays_of_names h hnames hlength⟩
  | gregory =>
    have hnames := @names_gregory clock jalaali view hyear.1 hyear.2 h1 h12
    exact ⟨_, _, lays_of_names h hnames (monthLength_gregory h hyear.1 hyear.2 h1 h12)⟩

theorem buildMonthGrid_correct (clock : LocalClock) (jalaali : Jalaali) (view : CalendarMonth)
    (weekStartDow : Int) (system : CalendarSystem) (h : clock.SkipsNoDay)
    (hexact : jalaali.Exact first last start) (hview : Supports first last system view)
    (h0 : 0 ≤ weekStartDow) (h6 : weekStartDow ≤ 6)
    : ∃ cells, buildMonthGrid clock jalaali view weekStartDow system = some cells
        ∧ ViewCorrect clock jalaali view weekStartDow system cells := by
  obtain ⟨times, htimes⟩ := h
  obtain ⟨s, length, hlays⟩ := exists_lays htimes hexact hview
  obtain ⟨cells, hbuild, hcells⟩ := exists_buildMonthGrid htimes hlays h0 h6
  exact ⟨cells, hbuild, viewCorrect_of_lays hlays h0 h6 hcells⟩

def tehran : LocalClock :=
  .fixed 12600000 (by decide) (by decide)

/-- The leap cycle of the years from 1210 on; the test's 1 Farvardin 1405 is 21 March 2026. -/
def currentCycle : Jalaali :=
  .cycle 1210 (-50690)

example : currentCycle.toJalaali 2026 3 21 = some ⟨1405, 1, 1⟩ := by decide

theorem farvardin_correct
    : ∃ cells, buildMonthGrid tehran currentCycle ⟨1405, 1⟩ 6 .persian = some cells
        ∧ ViewCorrect tehran currentCycle ⟨1405, 1⟩ 6 .persian cells :=
  buildMonthGrid_correct tehran currentCycle ⟨1405, 1⟩ 6 .persian
    (LocalClock.skipsNoDay_fixed (by decide) (by decide))
    (@Jalaali.exact_cycle 1210 (-50690) 1210 1633 (by decide) (by decide))
    (by unfold Supports; decide) (by decide) (by decide)

end Web.MonthGrid
