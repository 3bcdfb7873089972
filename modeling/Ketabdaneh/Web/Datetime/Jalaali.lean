import Ketabdaneh.Library.Calendar.Month

/-!
This module contains what the month grid uses of jalaali-js, and what it relies on: the conversions
are exact on the years that are supported, and inverse to each other.
-/

namespace Web

open Calendar

structure DayParts where
  year : Int
  month : Int
  day : Int
  deriving DecidableEq

/-- The functions of jalaali-js; a call that throws gives nothing. -/
structure Jalaali where
  toJalaali : (gy gm gd : Int) → Option DayParts
  toGregorian : (jy jm jd : Int) → Option DayParts
  jalaaliMonthLength : (jy jm : Int) → Option Int

namespace Jalaali

variable (jalaali : Jalaali)

def partsAt (n : Int) : Option DayParts :=
  jalaali.toJalaali (Date.ofDays n).year (Date.ofDays n).month (Date.ofDays n).day

structure IsDay (first last : Int) (parts : DayParts) : Prop where
  year_ge : first ≤ parts.year
  year_le : parts.year ≤ last
  month_pos : 1 ≤ parts.month
  month_le : parts.month ≤ 12
  day_pos : 1 ≤ parts.day
  day_le : ∀ length, jalaali.jalaaliMonthLength parts.year parts.month = some length →
    parts.day ≤ length

/-- The years from `first` to `last` are converted exactly; `start` is the first day of a month. -/
structure Exact (first last : Int) (start : Int → Int → Int) : Prop where
  monthLength : ∀ year month, first ≤ year → year ≤ last → 1 ≤ month → month ≤ 12 →
    ∃ length, jalaali.jalaaliMonthLength year month = some length ∧ 29 ≤ length ∧ length ≤ 31
  toGregorian : ∀ parts, jalaali.IsDay first last parts →
    let date := Date.ofDays (start parts.year parts.month + parts.day - 1)
    100 ≤ date.year ∧ date.year ≤ 9999
      ∧ jalaali.toGregorian parts.year parts.month parts.day = some ⟨date.year, date.month, date.day⟩
  toJalaali : ∀ parts, jalaali.IsDay first last parts →
    jalaali.partsAt (start parts.year parts.month + parts.day - 1) = some parts
  isDay : ∀ n parts, jalaali.partsAt n = some parts → first ≤ parts.year → parts.year ≤ last →
    jalaali.IsDay first last parts ∧ n = start parts.year parts.month + parts.day - 1
  /-- The days just outside these years have a name too; nothing more is said of it. -/
  around : ∀ parts n, jalaali.IsDay first last parts →
    start parts.year parts.month + parts.day - 7 ≤ n →
      n ≤ start parts.year parts.month + parts.day + 12 → (jalaali.partsAt n).isSome = true

end Jalaali

end Web
