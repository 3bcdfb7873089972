import Ketabdaneh.Library.Calendar.Week
import Ketabdaneh.Library.Ecma.Date

/-!
This module contains the `Date` objects of ECMAScript, which hold a time value or none, and the
viewer's clock, whose offset is a number of milliseconds.
-/

namespace Ecma

open Calendar Text

/-- The time value of a `Date`; an Invalid Date has none. -/
abbrev DateObject :=
  Option TimeValue

def maxTime : Int :=
  8640000000000000

/-- `TimeClip`: no `Date` is further than a hundred million days from 1970. -/
def timeClip (t : Int) : DateObject :=
  if -maxTime ≤ t ∧ t ≤ maxTime then some t else none

/-- `Date.UTC` of a year, a month counted from 0 and a day. -/
def utc (year month date : Int) : DateObject :=
  timeClip (86400000 * makeDay (makeFullYear year) month date)

def getUTCDay (t : TimeValue) : Int :=
  weekday (t / 86400000)

/-- How far the local clock is ahead of UTC at a time value. -/
structure Clock where
  offset : TimeValue → Int

def Clock.wall (clock : Clock) (t : TimeValue) : Wall :=
  .ofSeconds ((t + clock.offset t) / 1000)

theorem timeClip_eq_some {t v : Int} (h : timeClip t = some v) : t = v := by
  unfold timeClip at h
  split at h
  . exact Option.some.inj h
  . contradiction

theorem bounds_of_timeClip {t v : Int} (h : timeClip t = some v) : -maxTime ≤ t ∧ t ≤ maxTime := by
  unfold timeClip at h
  split at h
  . assumption
  . contradiction

theorem timeClip_of_le {t : Int} (hlow : -maxTime ≤ t) (hhigh : t ≤ maxTime)
    : timeClip t = some t := by
  unfold timeClip
  rw [if_pos (And.intro hlow hhigh)]

theorem timeClip_midnight {n : Int} (hlow : -100000000 ≤ n) (hhigh : n ≤ 100000000)
    : timeClip (86400000 * n) = some (86400000 * n) := by
  apply timeClip_of_le
  . unfold maxTime
    omega
  . unfold maxTime
    omega

theorem utcWall_midnight (n : Int) : (utcWall (86400000 * n)).date = .ofDays n := by
  unfold utcWall Wall.ofSeconds
  dsimp only
  congr 1
  omega

theorem getUTCDay_midnight (n : Int) : getUTCDay (86400000 * n) = weekday n := by
  unfold getUTCDay
  rw [Int.mul_ediv_cancel_left]
  decide

theorem utc_date {date : Calendar.Date} (hyear : 100 ≤ date.year)
    : utc date.year (date.month - 1) date.day = timeClip (86400000 * date.toDays) := by
  have hfull : makeFullYear date.year = date.year := by
    unfold makeFullYear
    rw [if_neg]
    omega
  unfold utc
  rw [hfull, makeDay_date]

end Ecma
