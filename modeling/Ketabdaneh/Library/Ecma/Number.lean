import Mathlib.Data.Int.Log
import Mathlib.Data.Rat.Floor
import Mathlib.Tactic.Linarith
import Mathlib.Tactic.NormNum
import Mathlib.Tactic.Positivity

/-!
This module contains the arithmetic of numbers: each result is the double that is nearest to the
exact one. Numbers are taken to be in the range of the exponents of a double.
-/

namespace Ecma.Number

/-- To the nearest integer, and to the even one of two that are as near. -/
def roundEven (x : Rat) : Int :=
  if x - ⌊x⌋ < 1 / 2 ∨ x - ⌊x⌋ = 1 / 2 ∧ ⌊x⌋ % 2 = 0 then ⌊x⌋ else ⌊x⌋ + 1

/-- The unit in the last of the fifty-three binary places of a number. -/
def ulp (x : Rat) : Rat :=
  2 ^ (Int.log 2 |x| - 52)

def round (x : Rat) : Rat :=
  roundEven (x / ulp x) * ulp x

def add (x y : Rat) : Rat :=
  round (x + y)

def sub (x y : Rat) : Rat :=
  round (x - y)

def mul (x y : Rat) : Rat :=
  round (x * y)

def div (x y : Rat) : Rat :=
  round (x / y)

/-- `x % y`, which has the sign of `x` and is never rounded. -/
def remainder (x y : Rat) : Rat :=
  x - y * (if 0 ≤ x / y then ⌊x / y⌋ else ⌈x / y⌉ : Int)

/-- `Number.isSafeInteger` -/
def IsSafe (n : Int) : Prop :=
  -9007199254740991 ≤ n ∧ n ≤ 9007199254740991

instance (n : Int) : Decidable (IsSafe n) :=
  inferInstanceAs (Decidable (_ ∧ _))

theorem roundEven_intCast (n : Int) : roundEven n = n := by
  unfold roundEven
  rw [Int.floor_intCast, if_pos]
  left
  rw [sub_self]
  norm_num

theorem abs_roundEven_sub_le (x : Rat) : |(roundEven x : Rat) - x| ≤ 1 / 2 := by
  have hlow := Int.floor_le x
  have hhigh := Int.lt_floor_add_one x
  unfold roundEven
  split
  . next h =>
    rw [abs_le]
    cases h with
    | inl h => constructor <;> linarith
    | inr h => constructor <;> linarith [h.1]
  . next h =>
    rw [not_or, not_lt] at h
    push_cast
    rw [abs_le]
    constructor <;> linarith [h.1]

theorem ulp_pos (x : Rat) : 0 < ulp x := by
  unfold ulp
  exact zpow_pos (by norm_num) _

/-- What is rounded away is half a unit in the last place at most. -/
theorem abs_round_sub_le (x : Rat) : |round x - x| ≤ ulp x / 2 := by
  have hpos := ulp_pos x
  have hsplit : round x - x = ((roundEven (x / ulp x) : Rat) - x / ulp x) * ulp x := by
    rw [round, sub_mul, div_mul_cancel₀ _ hpos.ne']
  rw [hsplit, abs_mul, abs_of_pos hpos]
  have hhalf := mul_le_mul_of_nonneg_right (abs_roundEven_sub_le (x / ulp x)) hpos.le
  linarith

theorem ulp_le {x : Rat} (h : x ≠ 0) : ulp x ≤ |x| / 2 ^ 52 := by
  have hlog : (2 : Rat) ^ Int.log 2 |x| ≤ |x| := Int.zpow_log_le_self (by norm_num) (abs_pos.mpr h)
  unfold ulp
  rw [zpow_sub₀ (by norm_num)]
  exact div_le_div_of_nonneg_right hlog (by positivity)

/-- A number that is fifty-three places of some power of two is a double. -/
theorem round_eq_self {x : Rat} {m : Int} {k : Nat} (hx : x = m * 2 ^ k)
    (hm : |m| ≤ 9007199254740992) : round x = x := by
  suffices h : ∃ n : Int, x = n * ulp x by
    rcases h with ⟨n, hn⟩
    have hdiv : x / ulp x = n := by
      rw [div_eq_iff (ulp_pos x).ne']
      exact hn
    rw [round, hdiv, roundEven_intCast, ← hn]
  by_cases hzero : x = 0
  . exact ⟨0, by rw [Int.cast_zero, zero_mul, hzero]⟩
  have habs : |x| ≤ 2 ^ (53 + k) := by
    rw [hx, abs_mul, abs_of_pos (show (0 : Rat) < 2 ^ k by positivity), pow_add]
    have hm' : |(m : Rat)| ≤ 2 ^ 53 := by
      rw [← Int.cast_abs]
      exact_mod_cast hm
    exact mul_le_mul_of_nonneg_right hm' (by positivity)
  have hlog : (2 : Rat) ^ Int.log 2 |x| ≤ |x| :=
    Int.zpow_log_le_self (by norm_num) (abs_pos.mpr hzero)
  unfold ulp
  by_cases hsmall : Int.log 2 |x| - 52 ≤ k
  . refine ⟨m * 2 ^ (k - (Int.log 2 |x| - 52)).toNat, ?_⟩
    push_cast
    rw [mul_assoc, ← zpow_natCast (2 : Rat) (k - (Int.log 2 |x| - 52)).toNat,
      ← zpow_add₀ (by norm_num), Int.toNat_of_nonneg (by omega), sub_add_cancel, zpow_natCast]
    exact hx
  . -- only the power of two at the upper end is left
    have hpow : (2 : Rat) ^ (53 + k) ≤ 2 ^ Int.log 2 |x| := by
      rw [← zpow_natCast]
      apply zpow_le_zpow_right₀ (by norm_num)
      push_cast
      omega
    have hexact : |x| = 2 ^ (53 + k) := le_antisymm habs (hpow.trans hlog)
    have hexp : Int.log 2 |x| = 53 + k := by
      rw [hexact, ← zpow_natCast]
      exact_mod_cast Int.log_zpow (R := Rat) (by norm_num) (53 + k : Nat)
    have hulp : (2 : Rat) ^ (53 + k) = 2 ^ 52 * 2 ^ (Int.log 2 |x| - 52) := by
      rw [hexp, ← zpow_natCast, ← zpow_natCast, ← zpow_add₀ (by norm_num)]
      congr 1
      push_cast
      omega
    rw [hulp, abs_eq (mul_nonneg (by positivity) (zpow_pos (by norm_num) _).le)] at hexact
    cases hexact with
    | inl h => exact ⟨2 ^ 52, by rw [← ulp] at h ⊢; exact_mod_cast h⟩
    | inr h => exact ⟨-2 ^ 52, by rw [← ulp] at h ⊢; push_cast; rw [neg_mul]; exact h⟩

theorem round_intCast {n : Int} (h : IsSafe n) : round n = n := by
  apply round_eq_self (m := n) (k := 0)
  . rw [pow_zero, mul_one]
  . unfold IsSafe at h
    rw [abs_le]
    omega

theorem add_intCast {m n : Int} (h : IsSafe (m + n)) : add m n = ((m + n : Int) : Rat) := by
  rw [add, ← Int.cast_add, round_intCast h]

theorem sub_intCast {m n : Int} (h : IsSafe (m - n)) : sub m n = ((m - n : Int) : Rat) := by
  rw [sub, ← Int.cast_sub, round_intCast h]

theorem remainder_intCast (n : Int) {m : Nat} (hm : 0 < m)
    : remainder n m = ((n.tmod m : Int) : Rat) := by
  have hpos : (0 : Rat) < m := Nat.cast_pos.mpr hm
  unfold remainder
  by_cases hn : 0 ≤ n
  . have hquot : 0 ≤ (n : Rat) / m := div_nonneg (Int.cast_nonneg hn) hpos.le
    rw [if_pos hquot, Rat.floor_intCast_div_natCast, Int.tmod_eq_emod_of_nonneg hn, Int.emod_def]
    push_cast
    rfl
  . have hquot : ¬0 ≤ (n : Rat) / m := by
      rw [not_le]
      exact div_neg_of_neg_of_pos (Int.cast_lt_zero.mpr (by omega)) hpos
    have hceil : ⌈(n : Rat) / m⌉ = -(-n / m) := by
      rw [← Rat.floor_intCast_div_natCast (-n) m, Int.cast_neg, neg_div, Int.floor_neg, neg_neg]
    have htmod : n.tmod m = -(-n % m) := by
      rw [← Int.tmod_eq_emod_of_nonneg (show 0 ≤ -n by omega), Int.neg_tmod, neg_neg]
    rw [if_neg hquot, hceil, htmod, Int.emod_def]
    push_cast
    ring

theorem abs_div_sub_lt {n : Int} {m : Nat} (hm : 0 < m) (h : IsSafe n)
    : |div n m - n / m| < 1 / m := by
  have hpos : (0 : Rat) < m := Nat.cast_pos.mpr hm
  unfold div
  by_cases hzero : n = 0
  . rw [hzero, Int.cast_zero, zero_div, show (0 : Rat) = ((0 : Int) : Rat) from rfl,
      round_intCast (by decide), sub_self, abs_zero]
    exact div_pos one_pos hpos
  have hne : (n : Rat) / m ≠ 0 := div_ne_zero (Int.cast_ne_zero.mpr hzero) hpos.ne'
  have hround := abs_round_sub_le ((n : Rat) / m)
  have hulp := ulp_le hne
  have hsafe : |(n : Rat)| < 2 ^ 53 := by
    unfold IsSafe at h
    rw [← Int.cast_abs]
    have habs : |n| < 2 ^ 53 := by
      rw [abs_lt]
      omega
    exact_mod_cast habs
  rw [abs_div, abs_of_pos hpos] at hulp
  have hquot : |(n : Rat)| / m / 2 ^ 53 < 1 / m := by
    rw [div_right_comm]
    apply div_lt_div_of_pos_right _ hpos
    rw [div_lt_one (by positivity)]
    exact hsafe
  calc |round ((n : Rat) / m) - n / m|
    _ ≤ ulp ((n : Rat) / m) / 2 := hround
    _ ≤ |(n : Rat)| / m / 2 ^ 52 / 2 := by linarith
    _ = |(n : Rat)| / m / 2 ^ 53 := by ring
    _ < 1 / m := hquot

/-- A quotient that is rounded is still below the next integer. -/
theorem floor_div_intCast {n : Int} {m : Nat} (hm : 0 < m) (h : IsSafe n)
    : ⌊div n m⌋ = n / m := by
  have hpos : (0 : Rat) < m := Nat.cast_pos.mpr hm
  have hmod := Int.emod_nonneg n (show (m : Int) ≠ 0 by omega)
  have hlt := Int.emod_lt_of_pos n (show (0 : Int) < m by omega)
  have hquot : (n : Rat) / m = (n / m : Int) + ((n % m : Int) : Rat) / m := by
    have hsplit : (n : Rat) = m * (n / m : Int) + ((n % m : Int) : Rat) := by
      exact_mod_cast (Int.mul_ediv_add_emod n m).symm
    rw [eq_comm, ← sub_eq_zero]
    field_simp
    linarith
  have hnear := abs_lt.mp (abs_div_sub_lt hm h)
  rw [Int.floor_eq_iff]
  constructor
  . by_cases hzero : n % m = 0
    . have hexact : (n : Rat) / m = ((n / m : Int) : Rat) := by
        rw [hquot, hzero, Int.cast_zero, zero_div, add_zero]
      have hsafe : IsSafe (n / m) := by
        have hsplit := Int.mul_ediv_add_emod n m
        have hm1 : (1 : Int) ≤ m := by omega
        rw [hzero, add_zero] at hsplit
        unfold IsSafe at h ⊢
        by_cases hq : 0 ≤ n / m
        . have := le_mul_of_one_le_left hq hm1
          omega
        . have := mul_le_of_one_le_left (show n / (m : Int) ≤ 0 by omega) hm1
          omega
      rw [div, hexact, round_intCast hsafe]
    . have hone : 1 / (m : Rat) ≤ ((n % m : Int) : Rat) / m := by
        apply div_le_div_of_nonneg_right _ hpos.le
        exact_mod_cast (show (1 : Int) ≤ n % m by omega)
      linarith
  . have hone : ((n % m : Int) : Rat) / m + 1 / m ≤ 1 := by
      rw [← add_div, div_le_one hpos]
      exact_mod_cast (show n % m + 1 ≤ (m : Int) by omega)
    linarith

end Ecma.Number
