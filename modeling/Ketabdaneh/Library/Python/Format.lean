import Ketabdaneh.Library.Python.Division
import Ketabdaneh.Library.Python.Float
import Ketabdaneh.Library.Python.Json

/-!
This module contains how Python writes numbers into a text, and that this takes printable
characters only.
-/

namespace Python

open Text

/-- The characters of the control category: line feed and carriage return are among them. -/
def isControl (c : CodePoint) : Bool :=
  decide (c.val < 32) || (decide (127 ≤ c.val) && decide (c.val < 160))

def isAlphanumeric (c : CodePoint) : Bool :=
  (decide (0x41 ≤ c.val) && decide (c.val ≤ 0x5A)) || (decide (0x61 ≤ c.val) && decide (c.val ≤ 0x7A))
    || (decide (0x30 ≤ c.val) && decide (c.val ≤ 0x39))

theorem isControl_of_isAlphanumeric {c : CodePoint} (h : isAlphanumeric c = true)
    : isControl c = false := by
  simp only [isAlphanumeric, Bool.or_eq_true, Bool.and_eq_true, decide_eq_true_eq] at h
  simp only [isControl, Bool.or_eq_false_iff, Bool.and_eq_false_iff, decide_eq_false_iff_not]
  omega

/-- No control character in it. -/
def printable (s : Str) : Bool :=
  s.all fun c => !isControl c

/-- `"%.{places}f" % x` -/
def fixed (places : Nat) (x : Rat) : Str :=
  let units := roundHalfEven (x.num.natAbs * 10 ^ places) x.den
  (if x < 0 then [cp '-'] else []) ++ decimal (units / 10 ^ places)
    ++ (if places = 0 then [] else cp '.' :: padStart places (decimal (units % 10 ^ places)))

/-- The same of a float that may be no number. -/
def PyFloat.fixed (places : Nat) : PyFloat → Str
  | .nan => ofString "nan"
  | .infinity negative => if negative then ofString "-inf" else ofString "inf"
  | .finite x => Python.fixed places x

@[simp]
theorem printable_nil : printable [] = true := rfl

@[simp]
theorem printable_cons {c : CodePoint} {s : Str}
    : printable (c :: s) = (!isControl c && printable s) := rfl

@[simp]
theorem printable_append {s t : Str} : printable (s ++ t) = (printable s && printable t) := by
  unfold printable
  rw [List.all_append]

theorem printable_iff {s : Str} : printable s = true ↔ ∀ c ∈ s, isControl c = false := by
  unfold printable
  rw [List.all_eq_true]
  simp only [Bool.not_eq_true']

theorem printable_decimal (n : Nat) : printable (decimal n) = true := by
  rw [printable_iff]
  intro c hc
  have hdigit := isSome_digitValue_of_mem_decimal c hc
  unfold digitValue at hdigit
  split at hdigit
  . next h =>
    simp only [isControl, Bool.or_eq_false_iff, Bool.and_eq_false_iff, decide_eq_false_iff_not]
    omega
  . injection hdigit

theorem printable_padStart {width : Nat} {s : Str} (h : printable s = true)
    : printable (padStart width s) = true := by
  unfold padStart
  rw [printable_append, h, Bool.and_true, printable_iff]
  intro c hc
  rw [List.eq_of_mem_replicate hc]
  rfl

theorem printable_fixed (places : Nat) (x : Rat) : printable (fixed places x) = true := by
  unfold fixed
  dsimp only
  rw [printable_append, printable_append, printable_decimal, Bool.and_true, Bool.and_eq_true]
  constructor
  . split
    . rfl
    . rfl
  . split
    . rfl
    . rw [printable_cons, printable_padStart (printable_decimal _)]
      rfl

theorem printable_intText (n : Int) : printable (Json.intText n) = true := by
  unfold Json.intText
  split
  . rw [printable_cons, printable_decimal]
    rfl
  . apply printable_decimal

example : fixed 1 (-1234567 / 1000) = ofString "-1234.6" := by decide +kernel

end Python
