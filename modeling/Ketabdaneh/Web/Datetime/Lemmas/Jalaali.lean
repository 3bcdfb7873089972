import Ketabdaneh.Web.Datetime.Jalaali

/-!
This module contains the Persian calendar between two breaks of its leap cycle, where eight years of
every 33 are leap years: there it is exact.
-/

namespace Web.Jalaali

open Calendar

/-- The day number of 1 Farvardin, where `base` is the first year of the cycle. -/
def newYear (base origin year : Int) : Int :=
  origin + (12053 * (year - base) + 32) / 33

/-- Six months of 31 days come before those of 30. -/
def startOf (base origin year month : Int) : Int :=
  newYear base origin year + (month - 1) * 31 - month.tdiv 7 * (month - 7)

def lengthOf (base origin year month : Int) : Int :=
  if month ≤ 6 then
    31
  else if month ≤ 11 ∨ newYear base origin (year + 1) - newYear base origin year = 366 then
    30
  else
    29

def nameOf (base origin n : Int) : DayParts :=
  let year := base + 33 * (n - origin) / 12053
  let k := n - newYear base origin year
  if k ≤ 185 then ⟨year, 1 + k / 31, k % 31 + 1⟩ else ⟨year, 7 + (k - 186) / 30, (k - 186) % 30 + 1⟩

def cycle (base origin : Int) : Jalaali where
  toJalaali gy gm gd := some (nameOf base origin (dayNumber gy gm gd))
  toGregorian jy jm jd :=
    let date := Date.ofDays (startOf base origin jy jm + jd - 1)
    some ⟨date.year, date.month, date.day⟩
  jalaaliMonthLength jy jm := some (lengthOf base origin jy jm)

variable {base origin : Int}

theorem startOf_eq (year : Int) {month : Int} (h1 : 1 ≤ month) (h12 : month ≤ 12)
    : startOf base origin year month
        =
      newYear base origin year + if month ≤ 6 then 31 * (month - 1) else 186 + 30 * (month - 7) := by
  unfold startOf
  split
  . rw [Int.tdiv_eq_zero_of_lt (by omega) (by omega)]
    omega
  . rw [show month.tdiv 7 = 1 by rw [Int.tdiv_eq_ediv_of_nonneg (by omega)]; omega]
    omega

theorem lengthOf_bounds (year month : Int)
    : 29 ≤ lengthOf base origin year month ∧ lengthOf base origin year month ≤ 31 := by
  unfold lengthOf
  split
  . omega
  . split
    . omega
    . omega

theorem nameOf_spec (base origin n : Int)
    : 1 ≤ (nameOf base origin n).month ∧ (nameOf base origin n).month ≤ 12
        ∧ 1 ≤ (nameOf base origin n).day
        ∧ (nameOf base origin n).day
            ≤ lengthOf base origin (nameOf base origin n).year (nameOf base origin n).month
        ∧ n = startOf base origin (nameOf base origin n).year (nameOf base origin n).month
            + (nameOf base origin n).day - 1 := by
  obtain ⟨y, hy⟩ : ∃ y, y = base + 33 * (n - origin) / 12053 := ⟨_, rfl⟩
  have hfirst : newYear base origin y ≤ n := by
    unfold newYear
    omega
  have hlast : n < newYear base origin (y + 1) := by
    unfold newYear
    omega
  have hlength : newYear base origin (y + 1) - newYear base origin y ≤ 366 := by
    unfold newYear
    omega
  unfold nameOf
  rw [← hy]
  dsimp only
  split
  . dsimp only
    rw [startOf_eq y (by omega) (by omega), if_pos (by omega), lengthOf, if_pos (by omega)]
    omega
  . dsimp only
    rw [startOf_eq y (by omega) (by omega), if_neg (by omega), lengthOf, if_neg (by omega)]
    refine ⟨by omega, by omega, by omega, ?_, by omega⟩
    split
    . omega
    . omega

theorem nameOf_startOf {year month day : Int} (h1 : 1 ≤ month) (h12 : month ≤ 12) (hd1 : 1 ≤ day)
    (hd : day ≤ lengthOf base origin year month)
    : nameOf base origin (startOf base origin year month + day - 1) = ⟨year, month, day⟩ := by
  rw [startOf_eq year h1 h12]
  unfold lengthOf at hd
  unfold nameOf
  split at hd
  . next hmonth =>
    have hyear : base + 33 * (newYear base origin year + 31 * (month - 1) + day - 1 - origin) / 12053
        = year := by
      unfold newYear
      omega
    rw [if_pos hmonth, hyear]
    dsimp only
    rw [if_pos (by omega), DayParts.mk.injEq]
    omega
  . next hmonth =>
    have hk : 186 + 30 * (month - 7) + day - 1
        < newYear base origin (year + 1) - newYear base origin year := by
      unfold newYear at hd ⊢
      split at hd
      . omega
      . omega
    have hyear : base + 33 * (newYear base origin year + (186 + 30 * (month - 7)) + day - 1 - origin)
        / 12053 = year := by
      unfold newYear at hk ⊢
      omega
    rw [if_neg hmonth, hyear]
    dsimp only
    have hday : day ≤ 30 := by
      split at hd
      . omega
      . omega
    rw [if_neg (by omega), DayParts.mk.injEq]
    omega

theorem partsAt_cycle (n : Int) : (cycle base origin).partsAt n = some (nameOf base origin n) := by
  have hn : dayNumber (Date.ofDays n).year (Date.ofDays n).month (Date.ofDays n).day = n :=
    Date.toDays_ofDays n
  simp only [partsAt, cycle, hn]

theorem lt_newYear_of_isDay {first last : Int} {parts : DayParts}
    (h : (cycle base origin).IsDay first last parts)
    : newYear base origin parts.year ≤ startOf base origin parts.year parts.month + parts.day - 1
        ∧ startOf base origin parts.year parts.month + parts.day - 1
            < newYear base origin (parts.year + 1) := by
  obtain ⟨_, _, h1, h12, hd1, hd⟩ := h
  have hd := hd _ rfl
  rw [startOf_eq parts.year h1 h12]
  unfold lengthOf newYear at hd
  unfold newYear
  split at hd
  . next hmonth =>
    rw [if_pos hmonth]
    omega
  . next hmonth =>
    rw [if_neg hmonth]
    split at hd
    . omega
    . omega

theorem exact_cycle {first last : Int} (hlow : dayNumber 100 1 1 ≤ newYear base origin first)
    (hhigh : newYear base origin (last + 1) ≤ dayNumber 10000 1 1)
    : (cycle base origin).Exact first last (startOf base origin) where
  monthLength := by
    intro year month _ _ _ _
    exact ⟨_, rfl, lengthOf_bounds year month⟩
  toGregorian := by
    intro parts hparts
    have hn := lt_newYear_of_isDay hparts
    have hge := hparts.year_ge
    have hle := hparts.year_le
    have hlow' : dayNumber 100 1 1
        ≤ startOf base origin parts.year parts.month + parts.day - 1 := by
      unfold newYear at hn hlow
      omega
    have hhigh' : startOf base origin parts.year parts.month + parts.day - 1
        < dayNumber 10000 1 1 := by
      unfold newYear at hn hhigh
      omega
    exact ⟨Date.year_ofDays_ge hlow', Int.le_of_lt_add_one (Date.year_ofDays_lt hhigh'), rfl⟩
  toJalaali := by
    intro parts hparts
    rw [partsAt_cycle, nameOf_startOf hparts.month_pos hparts.month_le hparts.day_pos
      (hparts.day_le _ rfl)]
  isDay := by
    intro n parts hparts hge hle
    rw [partsAt_cycle, Option.some.injEq] at hparts
    obtain ⟨h1, h12, hd1, hd, hn⟩ := nameOf_spec base origin n
    rw [hparts] at h1 h12 hd1 hd hn
    refine ⟨⟨hge, hle, h1, h12, hd1, ?_⟩, hn⟩
    intro length hlength
    rw [← Option.some.inj hlength]
    exact hd
  around := by
    intro parts n _ _ _
    rw [partsAt_cycle]
    rfl

end Web.Jalaali
