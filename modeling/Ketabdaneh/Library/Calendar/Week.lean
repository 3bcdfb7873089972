import Ketabdaneh.Library.Calendar.Wall

/-!
This module contains the weeks: the day of the week of a day number, and the weeks that a first day
of the week cuts the days into.
-/

namespace Calendar

/-- Counted from Sunday; 1 January 1970 is a Thursday. -/
def weekday (n : Int) : Int :=
  (n + 4) % 7

/-- The first day of the week of a day, when the weeks begin on the weekday `first`. -/
def weekStart (first n : Int) : Int :=
  n - (weekday n - first) % 7

section

variable {first : Int}

theorem weekday_weekStart (h0 : 0 ≤ first) (h6 : first ≤ 6) (n : Int)
    : weekday (weekStart first n) = first := by
  simp only [weekStart, weekday]
  omega

theorem weekStart_le (first n : Int) : weekStart first n ≤ n := by
  simp only [weekStart]
  omega

theorem lt_weekStart_add (first n : Int) : n < weekStart first n + 7 := by
  simp only [weekStart]
  omega

theorem weekStart_add_mul (first n k : Int)
    : weekStart first (n + 7 * k) = weekStart first n + 7 * k := by
  simp only [weekStart, weekday]
  omega

/-- Every day is in one week, counted from the week of the day `n`, and at one place in it. -/
theorem exists_week (first n d : Int)
    : ∃ (k : Int) (i : Nat), i < 7 ∧ d = weekStart first n + 7 * k + i := by
  refine ⟨(d - weekStart first n) / 7, ((d - weekStart first n) % 7).toNat, ?_, ?_⟩
  . omega
  . omega

theorem week_unique {s k k' : Int} {i i' : Nat} (hi : i < 7) (hi' : i' < 7)
    (h : s + 7 * k + i = s + 7 * k' + i') : k = k' ∧ i = i' := by
  omega

end

end Calendar
