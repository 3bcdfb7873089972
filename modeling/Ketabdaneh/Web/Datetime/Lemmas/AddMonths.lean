import Ketabdaneh.Web.Datetime.Lemmas.MonthGrid

/-!
This module contains the months as the integers, and where the code's addition of months is theirs.
-/

namespace Web.MonthGrid

open Ecma

/-- Months are counted from the first month of the year 0. -/
def index (month : CalendarMonth) : Int :=
  month.year * 12 + (month.month - 1)

def ofIndex (n : Int) : CalendarMonth :=
  ⟨n / 12, n % 12 + 1⟩

def later (month : CalendarMonth) (k : Int) : CalendarMonth :=
  ofIndex (index month + k)

@[simp]
theorem index_ofIndex (n : Int) : index (ofIndex n) = n := by
  simp only [index, ofIndex]
  omega

@[simp]
theorem index_later (month : CalendarMonth) (k : Int) : index (later month k) = index month + k := by
  rw [later, index_ofIndex]

theorem later_later (month : CalendarMonth) (j k : Int)
    : later (later month j) k = later month (j + k) := by
  rw [later, index_later, Int.add_assoc]
  rfl

theorem later_zero {month : CalendarMonth} (h1 : 1 ≤ month.month) (h12 : month.month ≤ 12)
    : later month 0 = month := by
  cases month
  simp only at h1 h12
  simp only [later, ofIndex, index, CalendarMonth.mk.injEq]
  omega

/-- From the year 0 on `%` has no negative dividend. -/
theorem addMonths_eq_later {month : CalendarMonth} {delta : Int} (h : 0 ≤ index month + delta)
    : addMonths month delta = later month delta := by
  simp only [addMonths, later, ofIndex]
  rw [← index, Int.tmod_eq_emod_of_nonneg h]

/-- Before the year 0 the code names months that no year has, those at the turn of a year apart. -/
theorem addMonths_month_pos_iff (month : CalendarMonth) (delta : Int)
    : 1 ≤ (addMonths month delta).month
        ↔
      0 ≤ index month + delta ∨ (index month + delta) % 12 = 0 := by
  have hmonth : (addMonths month delta).month = (index month + delta).tmod 12 + 1 := rfl
  rw [hmonth]
  by_cases h : 0 ≤ index month + delta
  . rw [Int.tmod_eq_emod_of_nonneg h]
    omega
  . have hneg : (index month + delta).tmod 12 = -((-(index month + delta)) % 12) := by
      rw [← Int.tmod_eq_emod_of_nonneg (show 0 ≤ -(index month + delta) by omega), Int.neg_tmod,
        Int.neg_neg]
    rw [hneg]
    omega

/-- The code's sum is that of the integers exactly where it names a month that a year has. -/
theorem addMonths_eq_later_iff (month : CalendarMonth) (delta : Int)
    : addMonths month delta = later month delta
        ↔
      0 ≤ index month + delta ∨ (index month + delta) % 12 = 0 := by
  constructor
  . intro h
    rw [← addMonths_month_pos_iff, h]
    simp only [later, ofIndex]
    omega
  . intro h
    cases h with
    | inl hindex => exact addMonths_eq_later hindex
    | inr hturn =>
      have htmod : (index month + delta).tmod 12 = 0 := by
        rw [← Int.dvd_iff_tmod_eq_zero]
        exact Int.dvd_of_emod_eq_zero hturn
      have hmonth : (addMonths month delta).month = 0 + 1 := by
        rw [← htmod]
        rfl
      simp only [later, ofIndex]
      rw [hturn, ← hmonth]
      rfl

theorem addMonths_congr {month month' : CalendarMonth} {delta delta' : Int}
    (h : index month + delta = index month' + delta')
    : addMonths month delta = addMonths month' delta' := by
  simp only [addMonths]
  rw [← index, ← index, h]

@[simp]
theorem toNumbers_year (month : CalendarMonth) : month.toNumbers.year = month.year := rfl

@[simp]
theorem toNumbers_month (month : CalendarMonth) : month.toNumbers.month = month.month := rfl

/-- Nothing is rounded on the way to a sum that is a safe integer. -/
theorem addMonths_toNumbers {month : CalendarMonth} {delta : Int} (h1 : 1 ≤ month.month)
    (h12 : month.month ≤ 12) (hindex : Number.IsSafe (index month))
    (hsum : Number.IsSafe (index month + delta))
    : month.toNumbers.addMonths delta = (addMonths month delta).toNumbers := by
  -- the product is four times a number of fifty-three places
  have hmul : Number.mul month.year 12 = ((month.year * 12 : Int) : Rat) := by
    have hplaces : (month.year : Rat) * 12 = ((3 * month.year : Int) : Rat) * 2 ^ 2 := by
      push_cast
      ring
    unfold Number.IsSafe index at hindex
    rw [Number.mul, Number.round_eq_self hplaces (abs_le.mpr (by omega))]
    push_cast
    rfl
  have hsub : Number.sub month.month 1 = ((month.month - 1 : Int) : Rat) := by
    rw [← Int.cast_one, Number.sub_intCast]
    unfold Number.IsSafe
    omega
  have hbased : Number.add (Number.add (Number.mul month.year 12) (Number.sub month.month 1)) delta
      = ((index month + delta : Int) : Rat) := by
    rw [hmul, hsub, Number.add_intCast hindex, ← index, Number.add_intCast hsum]
  have htmod : Number.IsSafe ((index month + delta).tmod 12 + 1) := by
    have hlow := Int.lt_tmod_of_pos (index month + delta) (show (0 : Int) < 12 by decide)
    have hhigh := Int.tmod_lt_of_pos (index month + delta) (show (0 : Int) < 12 by decide)
    unfold Number.IsSafe
    omega
  have hquot : ⌊Number.div ((index month + delta : Int) : Rat) 12⌋ = (index month + delta) / 12 :=
    Number.floor_div_intCast (m := 12) (by decide) hsum
  have hrem : Number.remainder ((index month + delta : Int) : Rat) 12
      = (((index month + delta).tmod 12 : Int) : Rat) :=
    Number.remainder_intCast _ (m := 12) (by decide)
  have hone := Number.add_intCast htmod
  rw [Int.cast_one, ← hrem] at hone
  unfold NumberMonth.addMonths CalendarMonth.toNumbers addMonths
  dsimp only
  rw [hbased, ← index]
  exact congrArg₂ NumberMonth.mk (congrArg Int.cast hquot) hone

theorem toNumbers_injective {month month' : CalendarMonth}
    (h : month.toNumbers = month'.toNumbers) : month = month' := by
  cases month
  cases month'
  simpa [CalendarMonth.toNumbers] using h

/-- Nothing that is added up is more than a safe integer. -/
structure SafeSums (month : CalendarMonth) (a b : Int) : Prop where
  start : Number.IsSafe (index month)
  left : Number.IsSafe a
  right : Number.IsSafe b
  middle : Number.IsSafe (index month + a)
  sum : Number.IsSafe (a + b)
  final : Number.IsSafe (index month + (a + b))

/-- What is asked of an addition of months: `a` months on is a month of a year, and sums compose. -/
structure Shifts (month : CalendarMonth) (a b : Int) : Prop where
  month_pos : 1 ≤ (month.toNumbers.addMonths a).month
  month_le : (month.toNumbers.addMonths a).month ≤ 12
  moved :
    (month.toNumbers.addMonths a).year * 12 + (month.toNumbers.addMonths a).month
      =
    ((month.year * 12 + month.month + a : Int) : Rat)
  add :
    (month.toNumbers.addMonths a).addMonths b = month.toNumbers.addMonths ((a + b : Int) : Rat)
  undo : (month.toNumbers.addMonths a).addMonths ((-a : Int) : Rat) = month.toNumbers

section

variable {month : CalendarMonth} {a b : Int}

theorem later_bounds (month : CalendarMonth) (k : Int)
    : 1 ≤ (later month k).month ∧ (later month k).month ≤ 12 := by
  simp only [later, ofIndex]
  omega

/-- A month that is named right can be gone on from. -/
theorem addMonths_later (hmiddle : Number.IsSafe (index month + a))
    (hfinal : Number.IsSafe (index month + (a + b)))
    : (later month a).toNumbers.addMonths b = (addMonths month (a + b)).toNumbers := by
  have hbounds := later_bounds month a
  have hsum : index (later month a) + b = index month + (a + b) := by
    rw [index_later, Int.add_assoc]
  rw [addMonths_toNumbers hbounds.1 hbounds.2 (by rwa [index_later]) (by rwa [hsum]),
    addMonths_congr hsum]

theorem addMonths_back (h1 : 1 ≤ month.month) (h12 : month.month ≤ 12)
    : addMonths month (a + -a) = month
        ↔
      0 ≤ month.year ∨ month.month = 1 := by
  have hzero : later month (a + -a) = month := by
    rw [Int.add_right_neg, later_zero h1 h12]
  have hiff := addMonths_eq_later_iff month (a + -a)
  rw [hzero] at hiff
  rw [hiff]
  unfold index
  omega

/-- Neither the month nor the sum may lie before the year 0, unless it is the first of a year. -/
theorem shifts_iff (h1 : 1 ≤ month.month) (h12 : month.month ≤ 12) (hsafe : SafeSums month a b)
    : Shifts month a b
        ↔
      (0 ≤ month.year ∨ month.month = 1)
        ∧ (0 ≤ index month + a ∨ (index month + a) % 12 = 0) := by
  have hnumbers := addMonths_toNumbers h1 h12 hsafe.start hsafe.middle
  have hstart : Number.IsSafe (index month + (a + -a)) := by
    rw [Int.add_right_neg, Int.add_zero]
    exact hsafe.start
  constructor
  . intro h
    have hpos : 1 ≤ (addMonths month a).month := by
      have hmonth := h.month_pos
      rw [hnumbers, toNumbers_month] at hmonth
      exact_mod_cast hmonth
    have hsum := (addMonths_month_pos_iff month a).mp hpos
    have hundo := h.undo
    rw [hnumbers, (addMonths_eq_later_iff month a).mpr hsum,
      addMonths_later hsafe.middle hstart] at hundo
    exact ⟨(addMonths_back h1 h12).mp (toNumbers_injective hundo), hsum⟩
  . rintro ⟨hmonth, hsum⟩
    have hlater := (addMonths_eq_later_iff month a).mpr hsum
    have hbounds := later_bounds month a
    rw [hlater] at hnumbers
    constructor
    case month_pos =>
      rw [hnumbers, toNumbers_month]
      exact_mod_cast hbounds.1
    case month_le =>
      rw [hnumbers, toNumbers_month]
      exact_mod_cast hbounds.2
    case moved =>
      have hmoved : (later month a).year * 12 + (later month a).month
          = month.year * 12 + month.month + a := by
        simp only [later, ofIndex, index]
        omega
      rw [hnumbers, ← hmoved]
      push_cast
      rfl
    case add =>
      rw [hnumbers, addMonths_later hsafe.middle hsafe.final,
        addMonths_toNumbers h1 h12 hsafe.start hsafe.final]
    case undo =>
      rw [hnumbers, addMonths_later hsafe.middle hstart, (addMonths_back h1 h12).mpr hmonth]

end

theorem khordad_shifts : Shifts ⟨1405, 3⟩ (-5) 12 := by
  apply (shifts_iff (by decide) (by decide) ?_).mpr
  . decide
  . constructor
    all_goals
      decide

/-- Back from the first month of the year 0 there is no month 0. -/
theorem farvardin_not_shifts : ¬Shifts ⟨0, 1⟩ (-1) 1 := by
  intro h
  have hmonth : ((⟨0, 1⟩ : CalendarMonth).toNumbers.addMonths ((-1 : Int) : Rat)).month = 0 := by
    decide +kernel
  have hpos := h.month_pos
  rw [hmonth] at hpos
  norm_num at hpos

-- one month on from an index that is rounded
example : (⟨9007199254740992, 2⟩ : NumberMonth).addMonths 1 = ⟨9007199254740992, 1⟩ := by
  decide +kernel

theorem supports_later {first last : Int} {system : CalendarSystem} {month : CalendarMonth}
    {n k : Int} (h : Supports first last system month)
    (hlater : Supports first last system (later month n)) (h0 : 0 ≤ k) (hk : k ≤ n)
    : Supports first last system (later month k) := by
  obtain ⟨h1, h12, hyear⟩ := h
  obtain ⟨_, _, hyear'⟩ := hlater
  refine ⟨?_, ?_, ?_⟩
  . simp only [later, ofIndex]
    omega
  . simp only [later, ofIndex]
    omega
  . cases system with
    | persian =>
      simp only [later, ofIndex, index] at hyear hyear' ⊢
      omega
    | gregory =>
      simp only [later, ofIndex, index] at hyear hyear' ⊢
      omega

end Web.MonthGrid
