import Mathlib.Algebra.Order.Field.Rat
import Mathlib.Data.Rat.Floor
import Mathlib.Tactic.Linarith
import Mathlib.Tactic.Positivity

/-!
This module contains the quotient of two Python integers as a float, and the integer that is made of
it, as long as the quotient is below the integers that floats leave out.
-/

namespace Python

/-- To the nearest integer, and to the even one of two that are as near. -/
def roundHalfEven (n d : Nat) : Nat :=
  if 2 * (n % d) < d ∨ 2 * (n % d) = d ∧ n / d % 2 = 0 then n / d else n / d + 1

/-- The binary digits after the point: fifty-three in all, when the quotient is one or more. -/
def fractionBits (n d : Nat) : Nat :=
  52 - Nat.log2 (n / d)

def divNat (n d : Nat) : Rat :=
  roundHalfEven (n * 2 ^ fractionBits n d) d / 2 ^ fractionBits n d

/-- `n / d` -/
def trueDiv (n : Int) (d : Nat) : Rat :=
  if 0 ≤ n then divNat n.natAbs d else -divNat n.natAbs d

/-- `int(x)` -/
def truncate (x : Rat) : Int :=
  if 0 ≤ x then ⌊x⌋ else -⌊-x⌋

theorem le_roundHalfEven (n d : Nat) : n / d ≤ roundHalfEven n d := by
  unfold roundHalfEven
  split
  . apply Nat.le_refl
  . apply Nat.le_succ

theorem roundHalfEven_le (n d : Nat) : roundHalfEven n d ≤ n / d + 1 := by
  unfold roundHalfEven
  split
  . apply Nat.le_succ
  . apply Nat.le_refl

theorem roundHalfEven_mul {d : Nat} (n : Nat) (hd : 0 < d) : roundHalfEven (n * d) d = n := by
  unfold roundHalfEven
  rw [Nat.mul_mod_left, Nat.mul_div_cancel n hd, if_pos]
  exact Or.inl hd

theorem roundHalfEven_mono {n m d : Nat} (h : n ≤ m) : roundHalfEven n d ≤ roundHalfEven m d := by
  have hdiv := Nat.div_le_div_right (c := d) h
  rcases Nat.lt_or_eq_of_le hdiv with hlt | heq
  . calc roundHalfEven n d
      _ ≤ n / d + 1 := roundHalfEven_le n d
      _ ≤ m / d := hlt
      _ ≤ roundHalfEven m d := le_roundHalfEven m d
  . have hmod : n % d ≤ m % d := by
      have hn := Nat.div_add_mod n d
      have hm := Nat.div_add_mod m d
      rw [heq] at hn
      omega
    unfold roundHalfEven
    rw [heq]
    split
    . split
      . apply Nat.le_refl
      . apply Nat.le_succ
    . split
      . omega
      . apply Nat.le_refl

section

variable {n m d : Nat}

theorem divNat_mul (n : Nat) (hd : 0 < d) : divNat (n * d) d = n := by
  unfold divNat
  rw [Nat.mul_right_comm, roundHalfEven_mul _ hd]
  push_cast
  field_simp

theorem le_divNat (n d : Nat) : ((n / d : Nat) : Rat) ≤ divNat n d := by
  unfold divNat
  rw [le_div_iff₀ (by positivity)]
  generalize fractionBits n d = bits
  have hround := le_roundHalfEven (n * 2 ^ bits) d
  have hdiv : n / d * 2 ^ bits ≤ n * 2 ^ bits / d := by
    rw [Nat.mul_comm, Nat.mul_comm n]
    apply Nat.mul_div_le_mul_div_assoc
  exact_mod_cast le_trans hdiv hround

theorem divNat_le (hd : 0 < d) : divNat n d ≤ ((n / d + 1 : Nat) : Rat) := by
  unfold divNat
  rw [div_le_iff₀ (by positivity)]
  generalize fractionBits n d = bits
  have hround := roundHalfEven_le (n * 2 ^ bits) d
  have hdiv : n * 2 ^ bits / d < (n / d + 1) * 2 ^ bits := by
    rw [Nat.div_lt_iff_lt_mul hd, Nat.mul_right_comm]
    apply Nat.mul_lt_mul_of_pos_right
    . rw [Nat.mul_comm]
      apply Nat.lt_mul_div_succ
      assumption
    . positivity
  exact_mod_cast le_trans hround hdiv

theorem divNat_mono_of_div_eq (hle : n ≤ m) (heq : n / d = m / d) : divNat n d ≤ divNat m d := by
  unfold divNat fractionBits
  rw [heq]
  apply div_le_div_of_nonneg_right
  . have hround := roundHalfEven_mono (d := d)
      (Nat.mul_le_mul_right (2 ^ (52 - Nat.log2 (m / d))) hle)
    exact_mod_cast hround
  . positivity

theorem divNat_nonneg (n d : Nat) : 0 ≤ divNat n d := by
  unfold divNat
  positivity

end

theorem trueDiv_mul {d : Nat} (n : Int) (hd : 0 < d) : trueDiv (n * d) d = n := by
  unfold trueDiv
  rw [Int.natAbs_mul, Int.natAbs_natCast, divNat_mul _ hd]
  split
  . next h =>
    have hn : 0 ≤ n := nonneg_of_mul_nonneg_left h (by omega)
    have habs := Int.natAbs_of_nonneg hn
    rw [← Int.cast_natCast, habs]
  . next h =>
    have hn : n ≤ 0 := by
      by_contra hpos
      exact h (mul_nonneg (by omega) (by omega))
    have habs := Int.ofNat_natAbs_of_nonpos hn
    rw [← Int.cast_natCast, habs, Int.cast_neg, neg_neg]

theorem trueDiv_natCast (n d : Nat) : trueDiv n d = divNat n d := by
  unfold trueDiv
  rw [if_pos (by omega), Int.natAbs_natCast]

theorem truncate_intCast (n : Int) : truncate n = n := by
  unfold truncate
  split
  . simp
  . rw [← Int.cast_neg, Int.floor_intCast]
    simp

theorem truncate_le {x : Rat} (h : 0 ≤ x) : (truncate x : Rat) ≤ x := by
  unfold truncate
  rw [if_pos h]
  apply Int.floor_le

theorem le_truncate {x : Rat} {n : Nat} (h : (n : Rat) ≤ x) : (n : Int) ≤ truncate x := by
  unfold truncate
  rw [if_pos (le_trans (by positivity) h), Int.le_floor]
  exact_mod_cast h

end Python
