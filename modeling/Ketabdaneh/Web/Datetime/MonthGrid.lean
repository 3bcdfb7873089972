import Ketabdaneh.Library.Ecma.LocalDate
import Ketabdaneh.Library.Ecma.Number
import Ketabdaneh.Web.Datetime.Jalaali

namespace Web

open Calendar Ecma Text

/-- What `/^(\d{1,2}):(\d{2})$/` captures. -/
def matchTime (hhmm : Str) : Option (Nat × Nat) :=
  match hhmm with
  | [h, colon, m1, m2] => go [h] colon [m1, m2]
  | [h1, h2, colon, m1, m2] => go [h1, h2] colon [m1, m2]
  | _ => none
where
  go (hours : Str) (colon : CodePoint) (minutes : Str) : Option (Nat × Nat) := do
    let hours ← readDecimal hours
    let minutes ← readDecimal minutes
    if colon = cp ':' then some (hours, minutes) else none

/-- `combineDateAndTime`, for how a browser reads the local day of a `Date` and makes a new one. -/
def combine {Value : Type} (localDate : TimeValue → Calendar.Date)
    (newDate : Int → Int → Int → Int → Int → Value) (date : TimeValue) (hhmm : Str)
    : Option Value := do
  let (hours, minutes) ← matchTime hhmm
  if hours > 23 ∨ minutes > 59 then
    none
  else
    let day := localDate date
    some (newDate day.year (day.month - 1) day.day hours minutes)

def combineDateAndTime (z : Zone) : TimeValue → Str → Option TimeValue :=
  combine (fun date => (localWall z date).date) (newDate z)

/-- The reading of the local clock that was picked: the day of `date` at the time `hhmm`. -/
def pickedWall (z : Zone) (date : TimeValue) (hhmm : Str) : Option Wall := do
  let (hours, minutes) ← matchTime hhmm
  if h : (hours : Int) ≤ 23 ∧ (minutes : Int) ≤ 59 then
    some ⟨(localWall z date).date, hours, minutes, 0, by omega, h.1, by omega, h.2, by omega, by omega⟩
  else
    none

theorem combineDateAndTime_eq (z : Zone) (date : TimeValue) (hhmm : Str)
    : combineDateAndTime z date hhmm
        =
      (pickedWall z date hhmm).map fun w =>
        newDate z w.date.year (w.date.month - 1) w.date.day w.hour w.minute := by
  unfold combineDateAndTime combine pickedWall
  cases matchTime hhmm with
  | none => rfl
  | some time =>
    obtain ⟨hours, minutes⟩ := time
    simp only [Option.bind_eq_bind, Option.bind_some]
    split
    . rw [dif_neg (by omega)]
      rfl
    . rw [dif_pos (by omega)]
      rfl

theorem pickedWall_second {z : Zone} {date : TimeValue} {hhmm : Str} {w : Wall}
    (h : pickedWall z date hhmm = some w) : w.second = 0 := by
  unfold pickedWall at h
  cases hm : matchTime hhmm with
  | none => simp [hm] at h
  | some time =>
    simp only [hm, Option.bind_eq_bind, Option.bind_some] at h
    split at h
    . simp only [Option.some.injEq] at h
      rw [← h]
    . simp at h

inductive CalendarSystem where
  | persian
  | gregory
  deriving DecidableEq

namespace MonthGrid

structure CalendarMonth where
  year : Int
  month : Int
  deriving DecidableEq

structure DayCell where
  date : TimeValue
  day : Int
  inMonth : Bool
  deriving DecidableEq

/-- A month of any numbers. -/
structure NumberMonth where
  year : Rat
  month : Rat
  deriving DecidableEq

/-- Shift a month by whole months: `Math.floor` rounds down, `%` has the sign of the dividend. -/
def NumberMonth.addMonths (month : NumberMonth) (delta : Rat) : NumberMonth :=
  let zeroBased := Number.add (Number.add (Number.mul month.year 12) (Number.sub month.month 1)) delta
  ⟨⌊Number.div zeroBased 12⌋, Number.add (Number.remainder zeroBased 12) 1⟩

def CalendarMonth.toNumbers (month : CalendarMonth) : NumberMonth :=
  ⟨month.year, month.month⟩

/-- The same of integers, as long as no number has to be rounded. -/
def addMonths (month : CalendarMonth) (delta : Int) : CalendarMonth :=
  let zeroBased := month.year * 12 + (month.month - 1) + delta
  ⟨zeroBased / 12, zeroBased.tmod 12 + 1⟩

section

variable (clock : LocalClock) (jalaali : Jalaali)

def jalaaliToDateObject (jy jm jd : Int) : DateObject := do
  let g ← jalaali.toGregorian jy jm jd
  clock.newDate g.year (g.month - 1) g.day 0 0

def dayPartsOf (date : TimeValue) (system : CalendarSystem) : Option DayParts :=
  let shown := clock.date date
  match system with
  | .persian => jalaali.toJalaali shown.year shown.month shown.day
  | .gregory => some ⟨shown.year, shown.month, shown.day⟩

def monthLength (month : CalendarMonth) (system : CalendarSystem) : Option Int :=
  match system with
  | .persian => jalaali.jalaaliMonthLength month.year month.month
  -- day 0 of the next month is the last day of this one
  | .gregory => (clock.newDate month.year month.month 0 0 0).map fun last => (clock.date last).day

def dateOf (month : CalendarMonth) (day : Int) (system : CalendarSystem) : DateObject :=
  match system with
  | .persian => jalaaliToDateObject clock jalaali month.year month.month day
  | .gregory => clock.newDate month.year (month.month - 1) day 0 0

/-- The cells of a month view; none where jalaali-js throws or a `Date` is out of range. -/
def buildMonthGrid (view : CalendarMonth) (weekStartDow : Int) (system : CalendarSystem)
    : Option (List DayCell) := do
  let first ← dateOf clock jalaali view 1 system
  let leading := (clock.getDay first - weekStartDow + 7).tmod 7
  let start ← clock.setDate first ((clock.date first).day - leading)
  (List.range 42).mapM fun (i : Nat) => do
    let date ← clock.setDate start ((clock.date start).day + i)
    let parts ← dayPartsOf clock jalaali date system
    return ⟨date, parts.day, parts.year = view.year && parts.month = view.month⟩

def isSameDay (a b : TimeValue) : Bool :=
  let a := clock.date a
  let b := clock.date b
  a.year = b.year && a.month = b.month && a.day = b.day

/-- On a clock of any offset: `none` is `null`, an Invalid Date is `some none`. -/
def combineDateAndTime : TimeValue → Str → Option DateObject :=
  combine clock.date clock.newDate

def timeStringOf (date : TimeValue) : Str :=
  pad (clock.getHours date) ++ cp ':' :: pad (clock.getMinutes date)
where
  pad (n : Int) : Str := padStart 2 (toStr n)

end

theorem combineDateAndTime_clock {z : Zone}
    (hle : ∀ t, t ≤ z.utc t + 60000 * z.offset (z.utc t))
    (hforward : ∀ t, t + 172800000 > z.utc t + 60000 * z.offset (z.utc t))
    (hgt : ∀ t, -1440 < z.offset t) (hlt : ∀ t, z.offset t < 1440) (date : TimeValue) (hhmm : Str)
    : combineDateAndTime (Zone.clock hle hforward hgt hlt) date hhmm
        =
      (Web.combineDateAndTime z date hhmm).map timeClip := by
  unfold combineDateAndTime Web.combineDateAndTime combine
  cases matchTime hhmm with
  | none => rfl
  | some time =>
    obtain ⟨hours, minutes⟩ := time
    simp only [Option.bind_eq_bind, Option.bind_some, Zone.date_clock]
    split
    . rfl
    . rfl

end MonthGrid

end Web
