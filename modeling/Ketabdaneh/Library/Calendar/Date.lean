import Mathlib.Tactic.Common
import Mathlib.Logic.Equiv.Defs
import Mathlib.Tactic.IntervalCases

/-!
This module contains the proleptic Gregorian calendar and its day numbers. Years are counted from
1 March, so that the leap day is the last day of a year and the month lengths follow one formula.
-/

namespace Calendar

def isLeap (year : Int) : Prop :=
  year % 4 = 0 ∧ (year % 100 ≠ 0 ∨ year % 400 = 0)

instance (year : Int) : Decidable (isLeap year) := by
  unfold isLeap
  infer_instance

def monthLength (year month : Int) : Int :=
  if month = 2 then
    if isLeap year then 29 else 28
  else if month = 4 ∨ month = 6 ∨ month = 9 ∨ month = 11 then
    30
  else
    31

theorem monthLength_le (year month : Int) : monthLength year month ≤ 31 := by
  simp only [monthLength]
  split
  . split
    . omega
    . omega
  . split
    . omega
    . omega

structure Date where
  year : Int
  month : Int
  day : Int
  month_pos : 1 ≤ month
  month_le : month ≤ 12
  day_pos : 1 ≤ day
  day_le : day ≤ monthLength year month
  deriving DecidableEq, Repr

@[ext]
theorem Date.ext {a b : Date} (hy : a.year = b.year) (hm : a.month = b.month) (hd : a.day = b.day)
    : a = b := by
  cases a
  cases b
  simp_all

/-- A year from 1 March on, and the day in it counted from 0. -/
structure YearDay where
  year : Int
  day : Int
  deriving DecidableEq

namespace YearDay

def number (year day : Int) : Int :=
  365 * year + year / 4 - year / 100 + year / 400 + day

def ofNumber (n : Int) : YearDay :=
  let n400 := n / 146097
  let r400 := n % 146097
  -- the last day of a 400-year cycle is the fourth century's 36525th day
  let n100 := min (r400 / 36524) 3
  let r100 := r400 - 36524 * n100
  let n4 := r100 / 1461
  let r4 := r100 % 1461
  let n1 := min (r4 / 365) 3
  ⟨400 * n400 + 100 * n100 + 4 * n4 + n1, r4 - 365 * n1⟩

/-- The cycles a day number is made of; the 366th day needs a year that has one. -/
structure Cycles where
  n400 : Int
  n100 : Int
  n4 : Int
  n1 : Int
  day : Int
  n100_nonneg : 0 ≤ n100
  n100_le : n100 ≤ 3
  n4_nonneg : 0 ≤ n4
  n4_le : n4 ≤ 24
  n1_nonneg : 0 ≤ n1
  n1_le : n1 ≤ 3
  day_nonneg : 0 ≤ day
  day_le : day ≤ 364 ∨ day = 365 ∧ n1 = 3 ∧ (n4 ≤ 23 ∨ n100 = 3)

namespace Cycles

def year (c : Cycles) : Int :=
  400 * c.n400 + 100 * c.n100 + 4 * c.n4 + c.n1

def number (c : Cycles) : Int :=
  146097 * c.n400 + 36524 * c.n100 + 1461 * c.n4 + 365 * c.n1 + c.day

theorem number_year (c : Cycles) : YearDay.number c.year c.day = c.number := by
  obtain ⟨a, b, c, e, d, hb0, hb, hc0, hc, he0, he, hd0, hd⟩ := c
  simp only [YearDay.number, year, number]
  have h4 : (400 * a + 100 * b + 4 * c + e) / 4 = 100 * a + 25 * b + c := by omega
  have h100 : (400 * a + 100 * b + 4 * c + e) / 100 = 4 * a + b := by omega
  have h400 : (400 * a + 100 * b + 4 * c + e) / 400 = a := by omega
  rw [h4, h100, h400]
  omega

theorem ofNumber_number (c : Cycles) : ofNumber c.number = ⟨c.year, c.day⟩ := by
  obtain ⟨a, b, c, e, d, hb0, hb, hc0, hc, he0, he, hd0, hd⟩ := c
  simp only [ofNumber, year, number, YearDay.mk.injEq]
  have ha : (146097 * a + 36524 * b + 1461 * c + 365 * e + d) / 146097 = a := by omega
  have hr : (146097 * a + 36524 * b + 1461 * c + 365 * e + d) % 146097
      = 36524 * b + 1461 * c + 365 * e + d := by omega
  rw [ha, hr]
  have hb' : min ((36524 * b + 1461 * c + 365 * e + d) / 36524) 3 = b := by omega
  rw [hb']
  have hc' : (36524 * b + 1461 * c + 365 * e + d - 36524 * b) / 1461 = c := by omega
  have hr' : (36524 * b + 1461 * c + 365 * e + d - 36524 * b) % 1461 = 365 * e + d := by omega
  rw [hc', hr']
  have he' : min ((365 * e + d) / 365) 3 = e := by omega
  rw [he']
  omega

theorem isLeap_year (c : Cycles) : isLeap (c.year + 1) ↔ c.n1 = 3 ∧ (c.n4 ≤ 23 ∨ c.n100 = 3) := by
  obtain ⟨a, b, c, e, d, hb0, hb, hc0, hc, he0, he, hd0, hd⟩ := c
  simp only [isLeap, year]
  omega

theorem exists_number_eq (n : Int) : ∃ c : Cycles, c.number = n := by
  obtain ⟨r400, hr400⟩ : ∃ r, r = n % 146097 := ⟨_, rfl⟩
  obtain ⟨b, hb⟩ : ∃ b, b = min (r400 / 36524) 3 := ⟨_, rfl⟩
  obtain ⟨r100, hr100⟩ : ∃ r, r = r400 - 36524 * b := ⟨_, rfl⟩
  obtain ⟨r4, hr4⟩ : ∃ r, r = r100 % 1461 := ⟨_, rfl⟩
  obtain ⟨e, he⟩ : ∃ e, e = min (r4 / 365) 3 := ⟨_, rfl⟩
  refine ⟨⟨n / 146097, b, r100 / 1461, e, r4 - 365 * e, ?_, ?_, ?_, ?_, ?_, ?_, ?_, ?_⟩, ?_⟩
  all_goals
    try simp only [number]
    omega

theorem exists_year_eq (y d : Int) (h0 : 0 ≤ d) (h1 : d ≤ 364 ∨ d = 365 ∧ isLeap (y + 1))
    : ∃ c : Cycles, c.year = y ∧ c.day = d := by
  refine ⟨⟨y / 400, y % 400 / 100, y % 100 / 4, y % 4, d, ?_, ?_, ?_, ?_, ?_, ?_, h0, ?_⟩, ?_, rfl⟩
  all_goals
    simp only [isLeap] at h1
    try simp only [year]
    omega

end Cycles

theorem number_ofNumber (n : Int) : number (ofNumber n).year (ofNumber n).day = n := by
  obtain ⟨c, rfl⟩ := Cycles.exists_number_eq n
  rw [c.ofNumber_number]
  exact c.number_year

theorem ofNumber_day (n : Int)
    : 0 ≤ (ofNumber n).day ∧
        ((ofNumber n).day ≤ 364 ∨ (ofNumber n).day = 365 ∧ isLeap ((ofNumber n).year + 1)) := by
  obtain ⟨c, rfl⟩ := Cycles.exists_number_eq n
  rw [c.ofNumber_number]
  refine ⟨c.day_nonneg, ?_⟩
  rw [c.isLeap_year]
  exact c.day_le

theorem ofNumber_number {y d : Int} (h0 : 0 ≤ d) (h1 : d ≤ 364 ∨ d = 365 ∧ isLeap (y + 1))
    : ofNumber (number y d) = ⟨y, d⟩ := by
  obtain ⟨c, rfl, rfl⟩ := Cycles.exists_year_eq y d h0 h1
  rw [c.number_year]
  exact c.ofNumber_number

end YearDay

def daysBefore (month : Int) : Int :=
  (153 * ((month + 9) % 12) + 2) / 5

def monthOf (day : Int) : Int :=
  let index := (5 * day + 2) / 153
  if index < 10 then index + 3 else index - 9

/-- Days since 1 January 1970. The day may lie outside the month: it is simply added. -/
def dayNumber (year month day : Int) : Int :=
  let marchYear := if month ≤ 2 then year - 1 else year
  YearDay.number marchYear (daysBefore month + day - 1) - 719468

namespace Date

theorem day_le_31 (date : Date) : date.day ≤ 31 :=
  Int.le_trans date.day_le (monthLength_le date.year date.month)

def toDays (date : Date) : Int :=
  dayNumber date.year date.month date.day

theorem toDays_bounds {date : Date} (hlow : 1 ≤ date.year) (hhigh : date.year ≤ 9999)
    : -719468 ≤ date.toDays ∧ date.toDays ≤ 2933262 := by
  have hmonth := date.month_pos
  have hmonth' := date.month_le
  have hday := date.day_pos
  have hday' := date.day_le_31
  unfold toDays dayNumber YearDay.number daysBefore
  dsimp only
  split
  . omega
  . omega

theorem exists_monthOf_eq {d : Int} (h0 : 0 ≤ d) (h1 : d ≤ 365)
    : ∃ k, 0 ≤ k ∧ k ≤ 11 ∧ monthOf d = (if k < 10 then k + 3 else k - 9)
        ∧ daysBefore (monthOf d) = (153 * k + 2) / 5
        ∧ (153 * k + 2) / 5 ≤ d ∧ d < (153 * k + 155) / 5 := by
  refine ⟨(5 * d + 2) / 153, ?_, ?_, rfl, ?_, ?_, ?_⟩
  . omega
  . omega
  . simp only [daysBefore, monthOf]
    split
    . omega
    . omega
  . omega
  . omega

theorem monthOf_bounds {d : Int} (h0 : 0 ≤ d) (h1 : d ≤ 365) : 1 ≤ monthOf d ∧ monthOf d ≤ 12 := by
  obtain ⟨k, hk0, hk, hm, -, -, -⟩ := exists_monthOf_eq h0 h1
  rw [hm]
  split
  . omega
  . omega

theorem daysBefore_monthOf {d : Int} (h0 : 0 ≤ d) (h1 : d ≤ 365) : daysBefore (monthOf d) ≤ d := by
  obtain ⟨k, -, -, -, hb, hle, -⟩ := exists_monthOf_eq h0 h1
  omega

theorem le_monthLength (y : Int) {k : Int} (hk0 : 0 ≤ k) (hk : k ≤ 11)
    : min 365 ((153 * k + 155) / 5) - (153 * k + 2) / 5
        ≤ monthLength y (if k < 10 then k + 3 else k - 9) := by
  simp only [monthLength]
  split
  . split
    . omega
    . omega
  . split
    . omega
    . omega

theorem lt_monthLength {y d : Int} (h0 : 0 ≤ d) (h1 : d ≤ 364 ∨ d = 365 ∧ isLeap (y + 1))
    : d - daysBefore (monthOf d)
        < monthLength (if monthOf d ≤ 2 then y + 1 else y) (monthOf d) := by
  rcases h1 with h1 | ⟨rfl, hleap⟩
  . obtain ⟨k, hk0, hk, hm, hb, hle, hlt⟩ := exists_monthOf_eq h0 (by omega)
    rw [hb, hm]
    have hlen := le_monthLength (if (if k < 10 then k + 3 else k - 9) ≤ 2 then y + 1 else y) hk0 hk
    omega
  . have hm : monthOf 365 = 2 := rfl
    simp [hm, monthLength, hleap, daysBefore]

theorem monthOf_daysBefore {y m d : Int} (hm0 : 1 ≤ m) (hm : m ≤ 12) (hd0 : 1 ≤ d)
    (hd : d ≤ monthLength y m)
    : monthOf (daysBefore m + d - 1) = m ∧ 0 ≤ daysBefore m + d - 1
        ∧ (daysBefore m + d - 1 ≤ 364 ∨ daysBefore m + d - 1 = 365 ∧ m = 2 ∧ isLeap y) := by
  by_cases hday : m = 2 ∧ d = 29
  . obtain ⟨rfl, rfl⟩ := hday
    have hleap : isLeap y := by
      by_contra hno
      simp [monthLength, hno] at hd
    exact ⟨rfl, by decide, Or.inr ⟨rfl, rfl, hleap⟩⟩
  . have hlt : daysBefore m + d - 1 ≤ 364 ∧ monthOf (daysBefore m + d - 1) = m := by
      have hfeb : m = 2 → d ≤ 28 := by
        rintro rfl
        have : monthLength y 2 ≤ 29 := by
          simp only [monthLength, ↓reduceIte]
          split
          . omega
          . omega
        omega
      interval_cases m
      all_goals
        simp [monthLength, daysBefore, monthOf] at hd hfeb ⊢
        omega
    have hpos : 0 ≤ daysBefore m := by
      simp only [daysBefore]
      omega
    exact ⟨hlt.2, by omega, Or.inl hlt.1⟩

def ofDays (n : Int) : Date :=
  let yd := YearDay.ofNumber (n + 719468)
  have h : 0 ≤ yd.day ∧ (yd.day ≤ 364 ∨ yd.day = 365 ∧ isLeap (yd.year + 1)) :=
    YearDay.ofNumber_day (n + 719468)
  have hm : 1 ≤ monthOf yd.day ∧ monthOf yd.day ≤ 12 := monthOf_bounds h.1 (by omega)
  {
    year := if monthOf yd.day ≤ 2 then yd.year + 1 else yd.year
    month := monthOf yd.day
    day := yd.day - daysBefore (monthOf yd.day) + 1
    month_pos := hm.1
    month_le := hm.2
    day_pos := by
      have := daysBefore_monthOf h.1 (by omega)
      omega
    day_le := by
      have := lt_monthLength h.1 h.2
      omega
  }

theorem toDays_ofDays (n : Int) : (ofDays n).toDays = n := by
  have h := YearDay.number_ofNumber (n + 719468)
  have hday (b : Int) : b + ((YearDay.ofNumber (n + 719468)).day - b + 1) - 1
      = (YearDay.ofNumber (n + 719468)).day := by omega
  simp only [ofDays, toDays, dayNumber, hday]
  split
  . simp only [Int.add_sub_cancel]
    omega
  . omega

theorem ofDays_toDays (date : Date) : ofDays date.toDays = date := by
  obtain ⟨y, m, d, hm0, hm, hd0, hd⟩ := date
  obtain ⟨hmonth, hpos, hle⟩ := monthOf_daysBefore hm0 hm hd0 hd
  have hnum : YearDay.ofNumber (dayNumber y m d + 719468)
      = ⟨if m ≤ 2 then y - 1 else y, daysBefore m + d - 1⟩ := by
    simp only [dayNumber, Int.sub_add_cancel]
    apply YearDay.ofNumber_number hpos
    rcases hle with hle | ⟨heq, rfl, hleap⟩
    . apply Or.inl
      assumption
    . refine Or.inr ⟨heq, ?_⟩
      simpa using hleap
  ext
  . simp only [ofDays, toDays, hnum, hmonth]
    split
    . omega
    . rfl
  . simp only [ofDays, toDays, hnum, hmonth]
  . simp only [ofDays, toDays, hnum, hmonth]
    omega

end Date

end Calendar
