import Ketabdaneh.Library.Calendar.Month
import Ketabdaneh.Library.Ecma.DateObject
import Mathlib.Data.Set.Basic

/-!
This module contains the local fields of the `Date` objects of ECMAScript and the `Date` that is made
of local fields.
-/

namespace Ecma

open Calendar

/-- The viewer's clock, with the time value `UTC(t)` that is chosen for a local reading. -/
structure LocalClock extends Clock where
  utc : Int → TimeValue
  /-- A reading the clock does show is not moved. -/
  local_utc : ∀ t, (∃ v, v + offset v = t) → utc t + offset (utc t) = t
  /-- A reading that is skipped is moved forward, by as much as is skipped. -/
  le_local_utc : ∀ t, t ≤ utc t + offset (utc t)
  lt_local_utc : ∀ t, t + 172800000 > utc t + offset (utc t)
  offset_gt : ∀ t, -86400000 < offset t
  offset_lt : ∀ t, offset t < 86400000

namespace LocalClock

variable (clock : LocalClock)

def localTime (t : TimeValue) : Int :=
  t + clock.offset t

def day (t : TimeValue) : Int :=
  clock.localTime t / 86400000

def timeWithinDay (t : TimeValue) : Int :=
  clock.localTime t % 86400000

/-- `getFullYear`, `getMonth` counted from 1, and `getDate`. -/
def date (t : TimeValue) : Calendar.Date :=
  .ofDays (clock.day t)

def getHours (t : TimeValue) : Int :=
  clock.timeWithinDay t / 3600000

def getMinutes (t : TimeValue) : Int :=
  clock.timeWithinDay t % 3600000 / 60000

def getDay (t : TimeValue) : Int :=
  weekday (clock.day t)

/-- `new Date` of a year, a month counted from 0, a day, hours and minutes. -/
def newDate (year month date hours minutes : Int) : DateObject :=
  timeClip (clock.utc
    (86400000 * makeDay (makeFullYear year) month date + 3600000 * hours + 60000 * minutes))

def setDate (t : TimeValue) (date : Int) : DateObject :=
  let shown := clock.date t
  timeClip (clock.utc
    (86400000 * makeDay shown.year (shown.month - 1) date + clock.timeWithinDay t))

/-- A day that is asked for at one of the times of day is reached, at one of them. -/
structure KeepsDays (times : Set Int) : Prop where
  midnight : 0 ∈ times
  kept : ∀ time ∈ times, ∀ n, ∃ time' ∈ times, 0 ≤ time' ∧ time' < 86400000
    ∧ clock.localTime (clock.utc (86400000 * n + time)) = 86400000 * n + time'

def SkipsNoDay : Prop :=
  ∃ times, clock.KeepsDays times

variable {clock}

theorem day_eq {t n time : Int} (h : clock.localTime t = 86400000 * n + time) (h0 : 0 ≤ time)
    (hlt : time < 86400000) : clock.day t = n ∧ clock.timeWithinDay t = time := by
  rw [day, timeWithinDay, h]
  omega

theorem timeClip_localTime {t n time : Int} (h : clock.localTime t = 86400000 * n + time)
    (h0 : 0 ≤ time) (hlt : time < 86400000) (hlow : -90000000 ≤ n) (hhigh : n ≤ 90000000)
    : timeClip t = some t := by
  have := clock.offset_gt t
  have := clock.offset_lt t
  unfold localTime at h
  apply timeClip_of_le
  . unfold maxTime
    omega
  . unfold maxTime
    omega

theorem makeDay_add (year month day k : Int)
    : makeDay year month (day + k) = makeDay year month day + k := by
  apply dayNumber_add

theorem newDate_eq {date : Calendar.Date} {hours minutes : Int} (hyear : 100 ≤ date.year)
    : clock.newDate date.year (date.month - 1) date.day hours minutes
        =
      timeClip (clock.utc (86400000 * date.toDays + 3600000 * hours + 60000 * minutes)) := by
  have hfull : makeFullYear date.year = date.year := by
    rw [makeFullYear, if_neg]
    omega
  rw [newDate, hfull, makeDay_date]

theorem setDate_eq (t : TimeValue) (k : Int)
    : clock.setDate t ((clock.date t).day + k)
        =
      timeClip (clock.utc (86400000 * (clock.day t + k) + clock.timeWithinDay t)) := by
  unfold setDate
  dsimp only
  rw [makeDay_add, makeDay_date, date, Date.toDays_ofDays]

theorem KeepsDays.reach {times : Set Int} (h : clock.KeepsDays times) {time n : Int}
    (htime : time ∈ times) (hlow : -90000000 ≤ n) (hhigh : n ≤ 90000000)
    : ∃ t, timeClip (clock.utc (86400000 * n + time)) = some t ∧ clock.day t = n
        ∧ clock.timeWithinDay t ∈ times := by
  obtain ⟨time', htime', h0, hlt, hlocal⟩ := h.kept time htime n
  obtain ⟨hday, hwithin⟩ := day_eq hlocal h0 hlt
  refine ⟨_, timeClip_localTime hlocal h0 hlt hlow hhigh, hday, ?_⟩
  rwa [hwithin]

/-- Whatever is skipped, the day that is reached is the one asked for or the next. -/
theorem reach_forward {n : Int} (hlow : -80000000 ≤ n) (hhigh : n ≤ 80000000)
    : ∃ t, timeClip (clock.utc (86400000 * n)) = some t ∧ n ≤ clock.day t ∧ clock.day t ≤ n + 1 := by
  have hle := clock.le_local_utc (86400000 * n)
  have hlt := clock.lt_local_utc (86400000 * n)
  have hlocal : clock.localTime (clock.utc (86400000 * n))
      = 86400000 * clock.day (clock.utc (86400000 * n))
        + clock.timeWithinDay (clock.utc (86400000 * n)) := by
    unfold day timeWithinDay
    omega
  have hday : n ≤ clock.day (clock.utc (86400000 * n))
      ∧ clock.day (clock.utc (86400000 * n)) ≤ n + 1 := by
    unfold day localTime
    omega
  refine ⟨_, timeClip_localTime hlocal ?_ ?_ (by omega) (by omega), hday⟩
  . unfold timeWithinDay
    omega
  . unfold timeWithinDay
    omega

theorem newDate_midnight {year month date n : Int} (hyear : 100 ≤ year)
    (hn : makeDay year month date = n)
    : clock.newDate year month date 0 0 = timeClip (clock.utc (86400000 * n)) := by
  have hfull : makeFullYear year = year := by
    rw [makeFullYear, if_neg]
    omega
  rw [newDate, hfull, hn, Int.mul_zero, Int.mul_zero, Int.add_zero, Int.add_zero]

theorem KeepsDays.reach_midnight {times : Set Int} (h : clock.KeepsDays times) {n : Int}
    (hlow : -90000000 ≤ n) (hhigh : n ≤ 90000000)
    : ∃ t, timeClip (clock.utc (86400000 * n)) = some t ∧ clock.day t = n
        ∧ clock.timeWithinDay t ∈ times := by
  have hreach := h.reach h.midnight hlow hhigh
  rwa [Int.add_zero] at hreach

theorem KeepsDays.setDate {times : Set Int} (h : clock.KeepsDays times) {t k n : Int}
    (htime : clock.timeWithinDay t ∈ times) (hn : clock.day t + k = n) (hlow : -90000000 ≤ n)
    (hhigh : n ≤ 90000000)
    : ∃ t', clock.setDate t ((clock.date t).day + k) = some t' ∧ clock.day t' = n
        ∧ clock.timeWithinDay t' ∈ times := by
  rw [setDate_eq, hn]
  exact h.reach htime hlow hhigh

def fixed (offset : Int) (hgt : -86400000 < offset) (hlt : offset < 86400000) : LocalClock where
  offset := fun _ => offset
  utc := fun t => t - offset
  local_utc := by
    intro t _
    exact Int.sub_add_cancel t _
  le_local_utc := by
    intro t
    rw [Int.sub_add_cancel]
  lt_local_utc := by
    intro t
    rw [Int.sub_add_cancel]
    omega
  offset_gt := fun _ => hgt
  offset_lt := fun _ => hlt

theorem skipsNoDay_fixed {offset : Int} (hgt : -86400000 < offset) (hlt : offset < 86400000)
    : (fixed offset hgt hlt).SkipsNoDay := by
  refine ⟨{0}, rfl, ?_⟩
  intro time htime n
  rw [Set.mem_singleton_iff] at htime
  refine ⟨0, rfl, Int.le_refl 0, by decide, ?_⟩
  rw [htime, localTime]
  exact Int.sub_add_cancel _ _

end LocalClock

section

variable {z : Zone} (hle : ∀ t, t ≤ z.utc t + 60000 * z.offset (z.utc t))
variable (hforward : ∀ t, t + 172800000 > z.utc t + 60000 * z.offset (z.utc t))
variable (hgt : ∀ t, -1440 < z.offset t) (hlt : ∀ t, z.offset t < 1440)

/-- A zone whose offsets are whole minutes. -/
def Zone.clock : LocalClock where
  offset := fun t => 60000 * z.offset t
  utc := z.utc
  local_utc := z.local_utc
  le_local_utc := hle
  lt_local_utc := hforward
  offset_gt := by
    intro t
    have := hgt t
    omega
  offset_lt := by
    intro t
    have := hlt t
    omega

theorem Zone.date_clock (t : TimeValue)
    : (Zone.clock hle hforward hgt hlt).date t = (localWall z t).date := by
  unfold LocalClock.date localWall Wall.ofSeconds
  dsimp only
  congr 1
  unfold LocalClock.day LocalClock.localTime clock
  dsimp only
  omega

end

end Ecma
