import Ketabdaneh.Library.Calendar.Date

/-!
This module contains wall clock readings to the second and their place on the time line.
-/

namespace Calendar

structure Wall where
  date : Date
  hour : Int
  minute : Int
  second : Int
  hour_nonneg : 0 ≤ hour
  hour_le : hour ≤ 23
  minute_nonneg : 0 ≤ minute
  minute_le : minute ≤ 59
  second_nonneg : 0 ≤ second
  second_le : second ≤ 59
  deriving DecidableEq, Repr

namespace Wall

@[ext]
theorem ext {a b : Wall} (hd : a.date = b.date) (hh : a.hour = b.hour) (hm : a.minute = b.minute)
    (hs : a.second = b.second) : a = b := by
  cases a
  cases b
  simp_all

def toSeconds (w : Wall) : Int :=
  86400 * w.date.toDays + 3600 * w.hour + 60 * w.minute + w.second

def ofSeconds (n : Int) : Wall where
  date := .ofDays (n / 86400)
  hour := n % 86400 / 3600
  minute := n % 3600 / 60
  second := n % 60
  hour_nonneg := by omega
  hour_le := by omega
  minute_nonneg := by omega
  minute_le := by omega
  second_nonneg := by omega
  second_le := by omega

@[simp]
theorem toSeconds_ofSeconds (n : Int) : (ofSeconds n).toSeconds = n := by
  simp only [ofSeconds, toSeconds, Date.toDays_ofDays]
  omega

@[simp]
theorem ofSeconds_toSeconds (w : Wall) : ofSeconds w.toSeconds = w := by
  have := w.hour_nonneg
  have := w.hour_le
  have := w.minute_nonneg
  have := w.minute_le
  have := w.second_nonneg
  have := w.second_le
  have hday : w.toSeconds / 86400 = w.date.toDays := by
    simp only [toSeconds]
    omega
  ext1
  . simp only [ofSeconds, hday, Date.ofDays_toDays]
  all_goals
    simp only [ofSeconds, toSeconds]
    omega

end Wall

end Calendar
