import Ketabdaneh.Library.Transition
import Ketabdaneh.Web.Datetime.DateTimePicker
import Ketabdaneh.Web.Datetime.Lemmas.AddMonths
import Ketabdaneh.Web.Datetime.Lemmas.TimeField

/-!
This module contains what the datetime picker hands to its form over any run, and the way back of its
month buttons.
-/

namespace Web.DateTimePicker

open Calendar Ecma MonthGrid Text Transition

/-- What the viewer has picked: the day of the last cell clicked or of the seed, and the last time. -/
structure Choice where
  day : Option Calendar.Date
  time : Str

structure Choice.Gives (clock : LocalClock) (choice : Choice) (value : Option DateObject)
    : Prop where
  both : ∀ day hours minutes, choice.day = some day → IsTime choice.time hours minutes →
    ∃ date, value = some date ∧ IsLocal clock day hours minutes date
  missing : choice.day = none ∨ (∀ hours minutes, ¬IsTime choice.time hours minutes) → value = none

structure Watched where
  picker : DateTimePicker
  choice : Choice

section

variable (clock : LocalClock) (jalaali : Jalaali) (weekStartDow : Int)

def clicked (picker : DateTimePicker) (index : Nat) : Option DayCell :=
  (picker.cells clock jalaali weekStartDow).bind fun cells => cells[index]?

def Watched.after (watched : Watched) (event : Event) : Choice :=
  match event.action with
  | .dayClick index =>
    match watched.picker.clicked clock jalaali weekStartDow index with
    | some cell => { watched.choice with day := some (clock.date cell.date) }
    | none => watched.choice
  | .timeChange next => { watched.choice with time := next }
  | _ => watched.choice

def Watched.step (watched : Watched) (event : Event) : Option Watched :=
  (watched.picker.step clock jalaali weekStartDow event).map fun picker =>
    ⟨picker, watched.after clock jalaali weekStartDow event⟩

def Watched.mount (value : Option TimeValue) (system : CalendarSystem) (now : TimeValue)
    : Watched where
  picker := .mount clock value system now
  choice := ⟨value.map clock.date, value.elim [] (timeStringOf clock)⟩

/-- The dates that are clicked are of the years that are supported. -/
def Watched.InYears (watched : Watched) (event : Event) : Prop :=
  ∀ index cell, event.action = .dayClick index →
    watched.picker.clicked clock jalaali weekStartDow index = some cell →
      100 ≤ (clock.date cell.date).year ∧ (clock.date cell.date).year ≤ 9999

end

def Action.Moves : Action → Prop
  | .dayClick _ => False
  | .timeChange _ => False
  | _ => True

variable {clock : LocalClock} {jalaali : Jalaali} {weekStartDow : Int}

structure Watched.Follows (clock : LocalClock) (watched : Watched) : Prop where
  day : watched.picker.selectedDate.map clock.date = watched.choice.day
  time : watched.picker.timeStr = watched.choice.time
  years : ∀ day, watched.choice.day = some day → 100 ≤ day.year ∧ day.year ≤ 9999
  last : ∀ value, watched.picker.emitted.getLast? = some value → watched.choice.Gives clock value

theorem gives_combine {date : Option TimeValue} {choice : Choice}
    (hday : date.map clock.date = choice.day)
    (hyears : ∀ day, choice.day = some day → 100 ≤ day.year ∧ day.year ≤ 9999)
    : choice.Gives clock
        (date.bind fun date => MonthGrid.combineDateAndTime clock date choice.time) where
  both := by
    intro day hours minutes hchosen htime
    have hyear := hyears day hchosen
    rw [← hday, Option.map_eq_some_iff] at hchosen
    obtain ⟨t, ht, hdate⟩ := hchosen
    have hinRange : ¬(hours > 23 ∨ minutes > 59) := by
      have := htime.1
      have := htime.2.1
      omega
    rw [ht, Option.bind_some, MonthGrid.combineDateAndTime, combine, matchTime_of_isTime htime]
    simp only [Option.bind_eq_bind, Option.bind_some, if_neg hinRange, hdate]
    exact ⟨_, rfl, isLocal_newDate hyear.1 hyear.2 htime.1 htime.2.1⟩
  missing := by
    intro hmissing
    cases date with
    | none => rfl
    | some t =>
      rw [Option.bind_some]
      rcases hmissing with hnone | hnoTime
      . rw [← hday] at hnone
        contradiction
      . rw [MonthGrid.combineDateAndTime, combine]
        cases hmatch : matchTime choice.time with
        | none => rfl
        | some time =>
          obtain ⟨hours, minutes⟩ := time
          simp only [Option.bind_eq_bind, Option.bind_some]
          by_cases hinRange : hours > 23 ∨ minutes > 59
          . rw [if_pos hinRange]
          . exact absurd (isTime_of_matchTime hmatch (by omega) (by omega)) (hnoTime hours minutes)

theorem showMonth_frame {picker handled : DateTimePicker} {delta : Int}
    (h : picker.showMonth clock jalaali delta = some handled)
    : handled.emitted = picker.emitted ∧ handled.selectedDate = picker.selectedDate
        ∧ handled.timeStr = picker.timeStr := by
  simp only [showMonth, Option.bind_eq_bind, Option.bind_eq_some_iff] at h
  obtain ⟨_, _, _, _, h⟩ := h
  rw [← Option.some.inj h]
  exact ⟨rfl, rfl, rfl⟩

theorem step_frame {picker next : DateTimePicker} {event : Event} (hmoves : event.action.Moves)
    (h : picker.step clock jalaali weekStartDow event = some next)
    : next.emitted = picker.emitted ∧ next.selectedDate = picker.selectedDate
        ∧ next.timeStr = picker.timeStr := by
  simp only [step, Option.bind_eq_bind, Option.bind_eq_some_iff] at h
  obtain ⟨handled, hhandle, h⟩ := h
  rw [← Option.some.inj h]
  unfold handle at hhandle
  unfold Action.Moves at hmoves
  cases haction : event.action with
  | dayClick index =>
    rw [haction] at hmoves
    contradiction
  | timeChange text =>
    rw [haction] at hmoves
    contradiction
  | previousMonth =>
    rw [haction] at hhandle
    have hframe := showMonth_frame hhandle
    exact hframe
  | nextMonth =>
    rw [haction] at hhandle
    have hframe := showMonth_frame hhandle
    exact hframe
  | today =>
    rw [haction] at hhandle
    rw [← Option.some.inj hhandle]
    exact ⟨rfl, rfl, rfl⟩
  | setSystem system =>
    rw [haction] at hhandle
    rw [← Option.some.inj hhandle]
    exact ⟨rfl, rfl, rfl⟩

theorem after_of_moves {watched : Watched} {event : Event} (h : event.action.Moves)
    : watched.after clock jalaali weekStartDow event = watched.choice := by
  unfold Watched.after
  unfold Action.Moves at h
  cases haction : event.action with
  | dayClick index =>
    rw [haction] at h
    contradiction
  | timeChange text =>
    rw [haction] at h
    contradiction
  | previousMonth => rfl
  | nextMonth => rfl
  | today => rfl
  | setSystem system => rfl

theorem eq_of_not_moves {action : Action} (h : ¬action.Moves)
    : (∃ index, action = .dayClick index) ∨ ∃ next, action = .timeChange next := by
  cases action with
  | dayClick index => exact Or.inl ⟨index, rfl⟩
  | timeChange next => exact Or.inr ⟨next, rfl⟩
  | previousMonth => exact absurd trivial h
  | nextMonth => exact absurd trivial h
  | today => exact absurd trivial h
  | setSystem system => exact absurd trivial h

theorem follows_mount {value : Option TimeValue} {system : CalendarSystem} {now : TimeValue}
    (hvalue : ∀ t, value = some t → 100 ≤ (clock.date t).year ∧ (clock.date t).year ≤ 9999)
    : (Watched.mount clock value system now).Follows clock where
  day := rfl
  time := rfl
  years := by
    intro day hday
    simp only [Watched.mount, Option.map_eq_some_iff] at hday
    obtain ⟨t, ht, hday⟩ := hday
    rw [← hday]
    exact hvalue t ht
  last := by
    intro value h
    contradiction

theorem step_dayClick {picker next : DateTimePicker} {event : Event} {index : Nat}
    (haction : event.action = .dayClick index)
    (h : picker.step clock jalaali weekStartDow event = some next)
    : ∃ cell, picker.clicked clock jalaali weekStartDow index = some cell
        ∧ next = { picker.handleDayClick clock cell.date with now := event.now } := by
  simp only [step, handle, haction, Option.bind_eq_bind, Option.bind_eq_some_iff] at h
  obtain ⟨handled, ⟨cells, hcells, cell, hcell, hhandled⟩, h⟩ := h
  refine ⟨cell, ?_, ?_⟩
  . rw [clicked, hcells, Option.bind_some, hcell]
  . rw [← Option.some.inj h, ← Option.some.inj hhandled]

theorem step_timeChange {picker next : DateTimePicker} {event : Event} {text : Str}
    (haction : event.action = .timeChange text)
    (h : picker.step clock jalaali weekStartDow event = some next)
    : next = { picker.handleTimeChange clock text with now := event.now } := by
  simp only [step, handle, haction, Option.bind_eq_bind, Option.bind_some] at h
  exact (Option.some.inj h).symm

theorem follows_step {watched next : Watched} {event : Event} (hfollows : watched.Follows clock)
    (hyears : watched.InYears clock jalaali weekStartDow event)
    (h : watched.step clock jalaali weekStartDow event = some next) : next.Follows clock := by
  rw [Watched.step, Option.map_eq_some_iff] at h
  obtain ⟨picker, hpicker, h⟩ := h
  rw [← h]
  by_cases hmoves : event.action.Moves
  . obtain ⟨hemitted, hselected, htime⟩ := step_frame hmoves hpicker
    rw [after_of_moves hmoves]
    constructor
    case day => exact (congrArg _ hselected).trans hfollows.day
    case time => exact htime.trans hfollows.time
    case years => exact hfollows.years
    case last =>
      intro value hvalue
      dsimp only at hvalue
      rw [hemitted] at hvalue
      exact hfollows.last value hvalue
  . rcases eq_of_not_moves hmoves with ⟨index, haction⟩ | ⟨text, haction⟩
    . obtain ⟨cell, hcell, hnext⟩ := step_dayClick haction hpicker
      have hchoice : watched.after clock jalaali weekStartDow event
          = { watched.choice with day := some (clock.date cell.date) } := by
        simp only [Watched.after, haction, hcell]
      have hcellYears := hyears index cell haction hcell
      have hchosen : ∀ day, some (clock.date cell.date) = some day
          → 100 ≤ day.year ∧ day.year ≤ 9999 := by
        intro day hday
        rw [← Option.some.inj hday]
        exact hcellYears
      rw [hchoice, hnext]
      constructor
      case day => rfl
      case time => exact hfollows.time
      case years => exact hchosen
      case last =>
        intro value hvalue
        simp only [handleDayClick, emit, List.getLast?_concat, Option.some.injEq] at hvalue
        rw [← hvalue, hfollows.time]
        exact @gives_combine clock (some cell.date) ⟨some _, watched.choice.time⟩ rfl hchosen
    . have hnext := step_timeChange haction hpicker
      have hchoice : watched.after clock jalaali weekStartDow event
          = { watched.choice with time := text } := by
        simp only [Watched.after, haction]
      rw [hchoice, hnext]
      constructor
      case day => exact hfollows.day
      case time => rfl
      case years => exact hfollows.years
      case last =>
        intro value hvalue
        simp only [handleTimeChange, emit, List.getLast?_concat, Option.some.injEq] at hvalue
        rw [← hvalue]
        exact @gives_combine clock _ ⟨watched.choice.day, text⟩ hfollows.day hfollows.years

variable {first last : Int} {start : Int → Int → Int}

theorem step_showMonth (hexact : jalaali.Exact first last start)
    {picker : DateTimePicker} {view : CalendarMonth} {event : Event} {delta : Int}
    (hhandle : picker.handle clock jalaali weekStartDow event
      = picker.showMonth clock jalaali delta)
    (hview : picker.viewMonth clock jalaali = some view) (hindex : 0 ≤ index view + delta)
    (hsupports : Supports first last picker.system (later view delta))
    : ∃ next, picker.step clock jalaali weekStartDow event = some next
        ∧ next.system = picker.system ∧ next.viewMonth clock jalaali = some (later view delta) := by
  obtain ⟨s, length, hnames⟩ := exists_names clock hexact hsupports
  have hlength := hnames.length_ge
  have hlow := hnames.first_ge
  have hhigh := hnames.first_le
  obtain ⟨anchor, hanchor, hday, hday'⟩ :=
    @LocalClock.reach_forward clock (s + 1 - 1) (by omega) (by omega)
  rw [← hnames.dateOf 1 (by decide) (by omega)] at hanchor
  have hnamed := hnames.named anchor (by omega) (by omega)
  have hshow : picker.showMonth clock jalaali delta
      = some { picker with viewAnchor := some anchor } := by
    simp only [showMonth, hview, addMonths_eq_later hindex, hanchor, Option.bind_eq_bind,
      Option.bind_some]
    rfl
  refine ⟨{ picker with viewAnchor := some anchor, now := event.now }, ?_, rfl, ?_⟩
  . simp only [step, hhandle, hshow, Option.bind_eq_bind, Option.bind_some]
    rfl
  . simp only [viewMonth, Option.some_or, Option.getD_some, hnamed, Option.bind_eq_bind,
      Option.bind_some]
    rfl

/-- Presses of one of the month buttons, each from the month the one before has shown. -/
theorem run_showMonth (hexact : jalaali.Exact first last start)
    {delta : Int} {events : List Event}
    (hhandle : ∀ event ∈ events, ∀ picker : DateTimePicker,
      picker.handle clock jalaali weekStartDow event = picker.showMonth clock jalaali delta)
    {picker : DateTimePicker} {view : CalendarMonth}
    (hview : picker.viewMonth clock jalaali = some view) (h1 : 1 ≤ view.month)
    (h12 : view.month ≤ 12)
    (hsupports : ∀ k : Nat, k ≤ events.length → 0 ≤ index view + delta * k
      ∧ Supports first last picker.system (later view (delta * k)))
    : ∃ shown, run (step clock jalaali weekStartDow) picker events = some shown
        ∧ shown.system = picker.system
        ∧ shown.viewMonth clock jalaali = some (later view (delta * events.length)) := by
  induction events generalizing picker view with
  | nil =>
    refine ⟨picker, rfl, rfl, ?_⟩
    rw [hview, List.length_nil, Int.natCast_zero, Int.mul_zero, later_zero h1 h12]
  | cons event events ih =>
    rw [List.forall_mem_cons] at hhandle
    have hstep := hsupports 1 (by rw [List.length_cons]; omega)
    rw [Int.natCast_one, Int.mul_one] at hstep
    obtain ⟨next, hnext, hsystem, hnextView⟩ :=
      step_showMonth hexact (hhandle.1 picker) hview hstep.1 hstep.2
    have hrest := ih hhandle.2 hnextView hstep.2.1 hstep.2.2.1 (by
      intro k hk
      have hlater := hsupports (k + 1) (by rw [List.length_cons]; omega)
      rw [index_later, later_later, hsystem]
      rw [Int.natCast_succ, Int.mul_add, Int.mul_one, Int.add_comm (delta * k)] at hlater
      rwa [← Int.add_assoc] at hlater)
    obtain ⟨shown, hrun, hshown, hshownView⟩ := hrest
    refine ⟨shown, ?_, hshown.trans hsystem, ?_⟩
    . rw [run_cons, hnext, Option.bind_some]
      exact hrun
    . rw [hshownView, later_later, List.length_cons, Int.natCast_succ, Int.mul_add, Int.mul_one,
        Int.add_comm (delta * _)]

def RoundTrips (clock : LocalClock) (jalaali : Jalaali) (weekStartDow first last : Int)
    (picker : DateTimePicker) (view : CalendarMonth) : Prop :=
  ∀ nexts previous : List Event, nexts.length = previous.length →
    (∀ event ∈ nexts, event.action = .nextMonth) →
    (∀ event ∈ previous, event.action = .previousMonth) →
    Supports first last picker.system (later view nexts.length) →
      ∃ shown, run (step clock jalaali weekStartDow) picker (nexts ++ previous) = some shown
        ∧ shown.viewMonth clock jalaali = some view

theorem roundTrips_of_year (hexact : jalaali.Exact first last start)
    {picker : DateTimePicker} {view : CalendarMonth}
    (hview : picker.viewMonth clock jalaali = some view)
    (hsupports : Supports first last picker.system view) (hyear : 0 ≤ view.year)
    : RoundTrips clock jalaali weekStartDow first last picker view := by
  intro nexts previous hlength hnexts hprevious hlater
  have h1 := hsupports.1
  have h12 := hsupports.2.1
  have hindex : 0 ≤ index view := by
    unfold index
    omega
  have hnext : ∀ event ∈ nexts, ∀ picker : DateTimePicker,
      picker.handle clock jalaali weekStartDow event = picker.showMonth clock jalaali 1 := by
    intro event hevent picker
    simp only [handle, hnexts event hevent]
  have hprev : ∀ event ∈ previous, ∀ picker : DateTimePicker,
      picker.handle clock jalaali weekStartDow event = picker.showMonth clock jalaali (-1) := by
    intro event hevent picker
    simp only [handle, hprevious event hevent]
  obtain ⟨there, hthere, hsystem, hthereView⟩ := run_showMonth hexact hnext hview h1 h12 (by
    intro k hk
    rw [Int.one_mul]
    exact ⟨by omega, supports_later hsupports hlater (by omega) (by omega)⟩)
  rw [Int.one_mul] at hthereView
  obtain ⟨back, hback, _, hbackView⟩ := run_showMonth hexact hprev hthereView hlater.1
    hlater.2.1 (by
      intro k hk
      rw [index_later, later_later, hsystem]
      exact ⟨by omega, supports_later hsupports hlater (by omega) (by omega)⟩)
  refine ⟨back, ?_, ?_⟩
  . rw [run_append, hthere, Option.bind_some]
    exact hback
  . rw [hbackView, later_later, show (nexts.length : Int) + -1 * previous.length = 0 by omega,
      later_zero h1 h12]

structure Correct (clock : LocalClock) (jalaali : Jalaali) (weekStartDow first last : Int)
    (watched : Watched) : Prop where
  given : ∀ value, watched.picker.emitted.getLast? = some value → watched.choice.Gives clock value
  combines : watched.picker.selectedDate.map clock.date = watched.choice.day
    ∧ watched.picker.timeStr = watched.choice.time
  emits : ∀ event next, ¬event.action.Moves →
    watched.picker.step clock jalaali weekStartDow event = some next →
      ∃ value, next.emitted = watched.picker.emitted ++ [value]
  silent : ∀ event next, event.action.Moves →
    watched.picker.step clock jalaali weekStartDow event = some next →
      next.emitted = watched.picker.emitted ∧ next.selectedDate = watched.picker.selectedDate
        ∧ next.timeStr = watched.picker.timeStr
  roundTrips : ∀ view, watched.picker.viewMonth clock jalaali = some view →
    Supports first last watched.picker.system view → 0 ≤ view.year →
      RoundTrips clock jalaali weekStartDow first last watched.picker view

theorem step_emits {picker next : DateTimePicker} {event : Event} (hmoves : ¬event.action.Moves)
    (h : picker.step clock jalaali weekStartDow event = some next)
    : ∃ value, next.emitted = picker.emitted ++ [value] := by
  rcases eq_of_not_moves hmoves with ⟨index, haction⟩ | ⟨text, haction⟩
  . obtain ⟨cell, _, hnext⟩ := step_dayClick haction h
    rw [hnext]
    exact ⟨_, rfl⟩
  . rw [step_timeChange haction h]
    exact ⟨_, rfl⟩

theorem always_correct (clock : LocalClock) (jalaali : Jalaali) (weekStartDow : Int)
    (value : Option TimeValue) (system : CalendarSystem) (now : TimeValue) (events : List Event)
    (hexact : jalaali.Exact first last start)
    (hvalue : ∀ t, value = some t → 100 ≤ (clock.date t).year ∧ (clock.date t).year ≤ 9999)
    (hyears : Along (Watched.step clock jalaali weekStartDow)
      (Watched.InYears clock jalaali weekStartDow) (.mount clock value system now) events)
    : Always (Watched.step clock jalaali weekStartDow)
        (Correct clock jalaali weekStartDow first last) (.mount clock value system now) events := by
  have hfollows : Always (Watched.step clock jalaali weekStartDow) (Watched.Follows clock)
      (.mount clock value system now) events := by
    apply always_of_along _ (follows_mount hvalue) hyears
    intro watched event next hfollows hguard hstep
    exact follows_step hfollows hguard hstep
  refine Always.mono ?_ hfollows
  intro watched hwatched
  constructor
  case given => exact hwatched.last
  case combines => exact ⟨hwatched.day, hwatched.time⟩
  case emits =>
    intro event next hmoves hstep
    exact step_emits hmoves hstep
  case silent =>
    intro event next hmoves hstep
    exact step_frame hmoves hstep
  case roundTrips =>
    intro view hview hsupports hyear
    exact roundTrips_of_year hexact hview hsupports hyear

theorem inYears_of_not_click {watched : Watched} {event : Event}
    (h : ∀ index, event.action ≠ .dayClick index)
    : watched.InYears clock jalaali weekStartDow event := by
  intro index cell haction
  exact absurd haction (h index)

/-- The start of 21 March 2026 in UTC. -/
def farvardin : TimeValue :=
  1774051200000

def meeting : List Event :=
  [⟨.dayClick 3, farvardin⟩, ⟨.timeChange (ofString "10:30"), farvardin⟩, ⟨.nextMonth, farvardin⟩,
    ⟨.previousMonth, farvardin⟩]

theorem meeting_correct
    : Always (Watched.step tehran currentCycle 6) (Correct tehran currentCycle 6 1210 1633)
        (.mount tehran none .persian farvardin) meeting := by
  apply always_correct tehran currentCycle 6 none .persian farvardin meeting
    (@Jalaali.exact_cycle 1210 (-50690) 1210 1633 (by decide) (by decide))
  . intro t ht
    contradiction
  . unfold meeting
    rw [along_cons]
    intro watched _
    constructor
    . intro index cell haction hcell
      have hindex : index = 3 := by
        injection haction with haction
        exact haction.symm
      have hclicked : (DateTimePicker.mount tehran none .persian farvardin).clicked tehran
          currentCycle 6 3 = some ⟨1774297800000, 4, true⟩ := by decide +kernel
      rw [hindex] at hcell
      rw [← Option.some.inj (hclicked.symm.trans hcell)]
      decide
    . rw [along_cons]
      intro watched' _
      refine ⟨inYears_of_not_click (by simp), ?_⟩
      rw [along_cons]
      intro watched'' _
      refine ⟨inYears_of_not_click (by simp), ?_⟩
      rw [along_cons]
      intro watched''' _
      exact ⟨inYears_of_not_click (by simp), along_nil⟩

/-- The leap cycle of the years from -61 on; 1 Farvardin of the year 0 is 21 March 621. -/
def firstCycle : Jalaali :=
  .cycle (-61) (-514913)

/-- 1 March 621, which is in the last month of the year -1. -/
def esfand : DateTimePicker :=
  .mount tehran (some (86400000 * dayNumber 621 3 1)) .persian farvardin

/-- Back from the first month of the year 0 the code asks for the month 0 of the year -1. -/
theorem esfand_not_roundTrips
    : esfand.viewMonth tehran firstCycle = some ⟨-1, 12⟩
        ∧ firstCycle.Exact (-61) 3 (Jalaali.startOf (-61) (-514913))
        ∧ Supports (-61) 3 .persian ⟨-1, 12⟩
        ∧ ¬RoundTrips tehran firstCycle 6 (-61) 3 esfand ⟨-1, 12⟩ := by
  have hsupports : Supports (-61) 3 .persian (later ⟨-1, 12⟩ 1) := by
    unfold Supports
    decide
  refine ⟨by decide +kernel, Jalaali.exact_cycle (by decide) (by decide), ?_, ?_⟩
  . unfold Supports
    decide
  intro h
  have hshown : ((run (step tehran firstCycle 6) esfand
      [⟨.nextMonth, farvardin⟩, ⟨.previousMonth, farvardin⟩]).bind fun shown =>
        shown.viewMonth tehran firstCycle) = some ⟨-2, 11⟩ := by decide +kernel
  obtain ⟨shown, hrun, hview⟩ := h [⟨.nextMonth, farvardin⟩] [⟨.previousMonth, farvardin⟩] rfl
    (by simp) (by simp) hsupports
  rw [List.singleton_append] at hrun
  rw [hrun, Option.bind_some, hview] at hshown
  contradiction

end Web.DateTimePicker
