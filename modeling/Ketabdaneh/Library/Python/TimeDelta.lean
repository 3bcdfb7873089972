import Ketabdaneh.Library.Python.Float
import Mathlib.Data.Rat.Floor
import Mathlib.Tactic.Linarith

/-!
This module contains which numbers of seconds a `timedelta` can be made of.
-/

namespace Python

def maxDays : Int :=
  999999999

/-- `timedelta(seconds=x)`, by its seconds. -/
def timedelta : PyFloat → Except FloatError Rat
  | .nan => .error .valueError
  | .infinity _ => .error .overflowError
  | .finite s =>
    if -maxDays ≤ ⌊s / 86400⌋ ∧ ⌊s / 86400⌋ ≤ maxDays then .ok s else .error .overflowError

def PyFloat.isDelta (x : PyFloat) : Bool :=
  (timedelta x).isOk

theorem timedelta_finite (s : Rat)
    : timedelta (.finite s)
        =
      if -maxDays ≤ ⌊s / 86400⌋ ∧ ⌊s / 86400⌋ ≤ maxDays then .ok s else .error .overflowError :=
  rfl

theorem isDelta_finite {s : Rat}
    : (PyFloat.finite s).isDelta = true ↔ -maxDays ≤ ⌊s / 86400⌋ ∧ ⌊s / 86400⌋ ≤ maxDays := by
  rw [PyFloat.isDelta, timedelta_finite]
  split
  . next hdays => simp [Except.isOk, Except.toBool, hdays]
  . next hdays => simp [Except.isOk, Except.toBool, hdays]

theorem timedelta_of_isDelta {s : Rat} (h : (PyFloat.finite s).isDelta = true)
    : timedelta (.finite s) = .ok s := by
  rw [timedelta_finite, if_pos (isDelta_finite.mp h)]

/-- What is not negative and less than a thousand million days. -/
theorem isDelta_iff_of_nonneg {s : Rat} (h : 0 ≤ s)
    : (PyFloat.finite s).isDelta = true ↔ s < 86400000000000 := by
  have hfloor : 0 ≤ ⌊s / 86400⌋ := Int.floor_nonneg.mpr (by positivity)
  have hlt : ⌊s / 86400⌋ < maxDays + 1 ↔ s < 86400000000000 := by
    rw [Int.floor_lt, div_lt_iff₀ (by norm_num)]
    norm_num [maxDays]
  rw [← hlt, Int.lt_add_one_iff, isDelta_finite, and_iff_right]
  exact le_trans (by decide) hfloor

end Python
