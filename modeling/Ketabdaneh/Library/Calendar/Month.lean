import Ketabdaneh.Library.Calendar.Date

/-!
This module contains the months as blocks of day numbers.
-/

namespace Calendar

theorem monthLength_ge (year month : Int) : 28 ≤ monthLength year month := by
  simp only [monthLength]
  split
  . split
    . omega
    . omega
  . split
    . omega
    . omega

theorem dayNumber_add (year month day k : Int)
    : dayNumber year month (day + k) = dayNumber year month day + k := by
  simp only [dayNumber, YearDay.number]
  omega

/-- The month after `month` begins where `month` ends; months are counted from 1. -/
theorem dayNumber_next (year : Int) {month : Int} (h1 : 1 ≤ month) (h12 : month ≤ 12)
    : dayNumber (year + month / 12) (month % 12 + 1) 1
        =
      dayNumber year month 1 + monthLength year month := by
  have hcases : month = 2 ∨ month = 12 ∨ month = 1 ∨ 3 ≤ month ∧ month ≤ 11 := by omega
  simp only [dayNumber, YearDay.number, daysBefore, monthLength, isLeap]
  rcases hcases with hfeb | hdec | hjan | hrest
  . rw [hfeb]
    simp only [↓reduceIte]
    split
    . omega
    . omega
  . rw [hdec]
    norm_num
    omega
  . rw [hjan]
    norm_num
    omega
  . have hyear : year + month / 12 = year := by omega
    have hmonth : month % 12 + 1 = month + 1 := by omega
    rw [hyear, hmonth, if_neg (by omega)]
    obtain ⟨h3, h11⟩ := hrest
    clear hyear hmonth
    interval_cases month
    all_goals
      norm_num
      omega

theorem leapYears_mono {y y' : Int} (h : y ≤ y')
    : y / 4 - y / 100 + y / 400 ≤ y' / 4 - y' / 100 + y' / 400 := by
  have hy : y / 4 = 25 * (y / 100) + y % 100 / 4 := by omega
  have hy' : y' / 4 = 25 * (y' / 100) + y' % 100 / 4 := by omega
  have hmono : y / 100 < y' / 100 ∨ y / 100 = y' / 100 := by omega
  have hcentury : y / 400 ≤ y' / 400 := by omega
  rcases hmono with hlt | heq
  . omega
  . omega

theorem YearDay.number_mono {y y' : Int} (h : y ≤ y') (d : Int)
    : number y d + 365 * (y' - y) ≤ number y' d := by
  have hleap := leapYears_mono h
  unfold number
  omega

theorem YearDay.number_add (y d : Int) : number y d = number y 0 + d := by
  unfold number
  omega

theorem dayNumber_newYear (year : Int)
    : dayNumber year 1 1 = YearDay.number (year - 1) 0 + 306 - 719468 := by
  have hdays : daysBefore 1 + 1 - 1 = 306 := by decide
  rw [dayNumber, if_pos (by decide), hdays, YearDay.number_add]

namespace Date

theorem toDays_eq (date : Date)
    : date.toDays = dayNumber date.year date.month 1 + (date.day - 1) := by
  rw [toDays, ← dayNumber_add]
  congr 1
  omega

theorem ofDays_dayNumber {year month day : Int} (h1 : 1 ≤ month) (h12 : month ≤ 12) (hd1 : 1 ≤ day)
    (hd : day ≤ Calendar.monthLength year month)
    : ofDays (dayNumber year month day) = ⟨year, month, day, h1, h12, hd1, hd⟩ :=
  ofDays_toDays ⟨year, month, day, h1, h12, hd1, hd⟩

theorem ofDays_month {year month n : Int} (h1 : 1 ≤ month) (h12 : month ≤ 12)
    : (ofDays n).year = year ∧ (ofDays n).month = month
        ↔
      dayNumber year month 1 ≤ n ∧ n < dayNumber year month 1 + Calendar.monthLength year month := by
  constructor
  . intro h
    have hn := toDays_eq (ofDays n)
    have hpos := (ofDays n).day_pos
    have hle := (ofDays n).day_le
    rw [toDays_ofDays, h.1, h.2] at hn
    rw [h.1, h.2] at hle
    omega
  . intro h
    have hdate := @ofDays_dayNumber year month (n - dayNumber year month 1 + 1) h1 h12 (by omega)
      (by omega)
    have hnumber : dayNumber year month (n - dayNumber year month 1 + 1) = n := by
      rw [Int.add_comm, dayNumber_add]
      omega
    rw [hnumber] at hdate
    rw [hdate]
    exact ⟨rfl, rfl⟩

theorem day_ofDays (n : Int)
    : (ofDays n).day = n - dayNumber (ofDays n).year (ofDays n).month 1 + 1 := by
  have hn := toDays_eq (ofDays n)
  rw [toDays_ofDays] at hn
  omega

theorem daysBefore_cases (date : Date)
    : date.month ≤ 2 ∧ 306 ≤ daysBefore date.month ∧ daysBefore date.month ≤ 337
        ∨ 3 ≤ date.month ∧ 0 ≤ daysBefore date.month ∧ daysBefore date.month ≤ 275 := by
  have h1 := date.month_pos
  have h12 := date.month_le
  unfold daysBefore
  omega

theorem toDays_lt {date : Date} {year : Int} (h : date.year < year)
    : date.toDays < dayNumber year 1 1 := by
  have hday := date.day_le_31
  rw [dayNumber_newYear, toDays, dayNumber]
  rcases daysBefore_cases date with hmonth | hmonth
  . have hmono := YearDay.number_mono (show date.year - 1 ≤ year - 1 by omega) 0
    rw [if_pos hmonth.1, YearDay.number_add (date.year - 1) (_ - 1)]
    omega
  . have hmono := YearDay.number_mono (show date.year ≤ year - 1 by omega) 0
    rw [if_neg (by omega), YearDay.number_add date.year (_ - 1)]
    omega

theorem year_ofDays_ge {year n : Int} (h : dayNumber year 1 1 ≤ n) : year ≤ (ofDays n).year := by
  by_contra hyear
  have hlt := toDays_lt (Int.not_le.mp hyear)
  rw [toDays_ofDays] at hlt
  omega

theorem toDays_ge {date : Date} {year : Int} (h : year ≤ date.year)
    : dayNumber year 1 1 ≤ date.toDays := by
  have hday := date.day_pos
  rw [dayNumber_newYear, toDays, dayNumber]
  rcases daysBefore_cases date with hmonth | hmonth
  . have hmono := YearDay.number_mono (show year - 1 ≤ date.year - 1 by omega) 0
    rw [if_pos hmonth.1, YearDay.number_add (date.year - 1) (_ - 1)]
    omega
  . have hmono := YearDay.number_mono (show year - 1 ≤ date.year by omega) 0
    rw [if_neg (by omega), YearDay.number_add date.year (_ - 1)]
    omega

theorem year_ofDays_lt {year n : Int} (h : n < dayNumber year 1 1) : (ofDays n).year < year := by
  by_contra hyear
  have hge := toDays_ge (Int.not_lt.mp hyear)
  rw [toDays_ofDays] at hge
  omega

end Date

theorem dayNumber_bounds {year month : Int} (h1 : 1 ≤ month) (h12 : month ≤ 12) (hlow : 1 ≤ year)
    (hhigh : year ≤ 9999)
    : -719468 ≤ dayNumber year month 1 ∧ dayNumber year month 1 ≤ 2933262 := by
  have hlength : 1 ≤ monthLength year month := by
    apply Int.le_trans _ (monthLength_ge year month)
    decide
  exact @Date.toDays_bounds ⟨year, month, 1, h1, h12, Int.le_refl 1, hlength⟩ hlow hhigh

end Calendar
