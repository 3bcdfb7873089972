import Ketabdaneh.Library.Python.Value
import Mathlib.Algebra.Order.Ring.Rat

/-!
This module contains the order of Python's floats, and their product with a positive integer.
-/

namespace Python

/-- Of what is no number, and of what is too large for one. -/
inductive FloatError where
  | valueError
  | overflowError
  deriving DecidableEq

/-- The least integer that no float is made of. -/
def floatLimit : Nat :=
  2 ^ 1024 - 2 ^ 970

namespace PyFloat

/-- Nothing is less than `nan`, and `nan` is less than nothing. -/
def lt : PyFloat → PyFloat → Bool
  | .nan, _ => false
  | _, .nan => false
  | .infinity s, .infinity t => s && !t
  | .infinity s, .finite _ => s
  | .finite _, .infinity t => !t
  | .finite p, .finite q => p < q

def le (x y : PyFloat) : Bool :=
  x.lt y || x.eq y

/-- `float(n)`, without rounding. -/
def ofNat (n : Nat) : PyFloat :=
  .finite n

/-- `x * n` for a positive `n`, without rounding. -/
def scale : PyFloat → Nat → PyFloat
  | .finite p, n => .finite (p * n)
  | x, _ => x

/-- `x * n` for an `int`, of which a float is made first. -/
def mulInt (x : PyFloat) (n : Nat) : Except FloatError PyFloat :=
  if n < floatLimit then .ok (x.scale n) else .error .overflowError

theorem pow_lt_floatLimit {k : Nat} : 2 ^ k < floatLimit ↔ k < 1024 := by
  have hpow : (2 : Nat) ^ 1023 < floatLimit := by decide +kernel
  have hle : floatLimit ≤ 2 ^ 1024 := Nat.sub_le _ _
  constructor
  . intro h
    by_contra hk
    have hmono : (2 : Nat) ^ 1024 ≤ 2 ^ k := Nat.pow_le_pow_right (by decide) (not_lt.mp hk)
    exact absurd (lt_of_le_of_lt hmono (lt_of_lt_of_le h hle)) (lt_irrefl _)
  . intro hk
    exact lt_of_le_of_lt (Nat.pow_le_pow_right (by decide) (Nat.le_of_lt_succ hk)) hpow

theorem lt_finite {p q : Rat} : lt (.finite p) (.finite q) = true ↔ p < q :=
  decide_eq_true_iff

theorem le_finite {p q : Rat} : le (.finite p) (.finite q) = true ↔ p ≤ q := by
  simp only [le, lt, eq, Bool.or_eq_true, decide_eq_true_eq, ← le_iff_lt_or_eq]

end PyFloat
end Python
