import Ketabdaneh.Api.Worker.Retry
import Ketabdaneh.Library.Python.TimeDelta
import Mathlib.Algebra.Order.Field.Basic

/-!
This module contains the delays of a policy whose own delays are numbers.
-/

namespace Api

open Python Text

namespace RetryPolicy

theorem isOk_delayFor (policy : RetryPolicy) {attempt : Int} (h : attempt ≤ 1025)
    (retryAfter : Option PyFloat) : (policy.delayFor attempt retryAfter).isOk = true := by
  unfold delayFor
  split
  . rfl
  . rw [PyFloat.mulInt, if_pos (PyFloat.pow_lt_floatLimit.mpr (by omega))]
    rfl

/-- The two delays as numbers. -/
structure Finite (policy : RetryPolicy) where
  base : Rat
  maximum : Rat
  baseDelay : policy.baseDelaySeconds = .finite base
  maxDelay : policy.maxDelaySeconds = .finite maximum

namespace Finite

variable {policy : RetryPolicy} (delays : policy.Finite)

theorem base_pos : 0 < delays.base := by
  have hpos := policy.baseDelay_pos
  rwa [delays.baseDelay, ← Bool.not_eq_true, PyFloat.le_finite, not_le] at hpos

theorem base_le : delays.base ≤ delays.maximum := by
  have hle := policy.baseDelay_le
  rwa [delays.baseDelay, delays.maxDelay, ← Bool.not_eq_true, PyFloat.lt_finite, not_lt] at hle

/-- The wait before a retry when the provider gives no hint, without the cap. -/
def backoff (attempt : Int) : Rat :=
  delays.base * 2 ^ (attempt - 1).toNat

def deferral (attempt : Int) (hint : Nat) : Rat :=
  min (max (delays.backoff attempt) hint) delays.maximum

theorem base_le_backoff (attempt : Int) : delays.base ≤ delays.backoff attempt := by
  have hpow : (1 : Rat) ≤ 2 ^ (attempt - 1).toNat := one_le_pow₀ (by norm_num)
  unfold backoff
  exact le_mul_of_one_le_right delays.base_pos.le hpow

theorem backoff_mono {m n : Int} (h : m ≤ n) : delays.backoff m ≤ delays.backoff n := by
  have hpow : (2 : Rat) ^ (m - 1).toNat ≤ 2 ^ (n - 1).toNat := by
    apply pow_le_pow_right₀
    . norm_num
    . omega
  unfold backoff
  exact mul_le_mul_of_nonneg_left hpow delays.base_pos.le

theorem deferral_mono {m n : Int} {hint hint' : Nat} (h : m ≤ n) (hhint : hint ≤ hint')
    : delays.deferral m hint ≤ delays.deferral n hint' := by
  unfold deferral
  apply min_le_min_right
  apply max_le_max
  . exact delays.backoff_mono h
  . exact_mod_cast hhint

theorem base_le_deferral (attempt : Int) (hint : Nat)
    : delays.base ≤ delays.deferral attempt hint := by
  apply le_min
  . apply le_max_of_le_left
    apply base_le_backoff
  . exact delays.base_le

theorem deferral_le (attempt : Int) (hint : Nat)
    : delays.deferral attempt hint ≤ delays.maximum :=
  min_le_right _ _

/-- A float is made of the powers of two up to the one of the retry after the 1024th attempt. -/
theorem mulInt_baseDelay {attempt : Int} (h : 1 ≤ attempt)
    : policy.baseDelaySeconds.mulInt (2 ^ (attempt + 1 - 2).toNat)
        =
      if attempt ≤ 1024 then .ok (.finite (delays.backoff attempt)) else .error .overflowError := by
  have hexp : attempt + 1 - 2 = attempt - 1 := by omega
  rw [hexp, delays.baseDelay, PyFloat.mulInt]
  simp only [PyFloat.pow_lt_floatLimit]
  by_cases hle : attempt ≤ 1024
  . rw [if_pos (by omega), if_pos hle, PyFloat.scale, backoff]
    norm_cast
  . rw [if_neg (by omega), if_neg hle]

/-- `min` of Python gives its first argument, unless the second one is less. -/
theorem min_maxDelay (delay : Rat)
    : (if policy.maxDelaySeconds.lt (.finite delay) then policy.maxDelaySeconds else .finite delay)
        =
      .finite (min delay delays.maximum) := by
  rw [delays.maxDelay]
  split
  . next hlt => rw [min_eq_right (PyFloat.lt_finite.mp hlt).le]
  . next hle =>
    rw [PyFloat.lt_finite, not_lt] at hle
    rw [min_eq_left hle]

theorem max_hint (delay hint : Rat)
    : (if (PyFloat.finite delay).lt (.finite hint) then PyFloat.finite hint else .finite delay)
        =
      .finite (max delay hint) := by
  split
  . next hlt => rw [max_eq_right (PyFloat.lt_finite.mp hlt).le]
  . next hle =>
    rw [PyFloat.lt_finite, not_lt] at hle
    rw [max_eq_left hle]

theorem delayFor_succ {attempt : Int} (h : 1 ≤ attempt) (hint : Option Nat)
    : policy.delayFor (attempt + 1) (hint.map PyFloat.ofNat)
        =
      if attempt ≤ 1024 then .ok (.finite (delays.deferral attempt (hint.getD 0)))
      else .error .overflowError := by
  unfold delayFor deferral
  rw [if_neg (by omega), delays.mulInt_baseDelay h]
  split
  . cases hint with
    | none =>
      have hbase := delays.base_pos
      have hle := delays.base_le_backoff attempt
      rw [Option.getD_none, Nat.cast_zero, max_eq_left (by linarith), ← delays.min_maxDelay]
      rfl
    | some n =>
      rw [Option.map_some, Option.getD_some, ← delays.min_maxDelay, ← max_hint]
      rfl
  . rfl

theorem isDelta_deferral {attempt : Int} {hint : Nat}
    : (PyFloat.finite (delays.deferral attempt hint)).isDelta = true
        ↔
      delays.deferral attempt hint < 86400000000000 := by
  apply isDelta_iff_of_nonneg
  exact le_trans delays.base_pos.le (delays.base_le_deferral attempt hint)

theorem deferral_eq_zero_iff (attempt : Int) (hint : Nat)
    : delays.deferral attempt hint = delays.deferral attempt 0
        ↔
      ¬(delays.backoff attempt < hint ∧ delays.backoff attempt < delays.maximum) := by
  have hbase := delays.base_pos
  have hle := delays.base_le_backoff attempt
  unfold deferral
  rw [Nat.cast_zero, max_eq_left (by linarith : (0 : Rat) ≤ delays.backoff attempt)]
  constructor
  . rintro heq ⟨hhint, hmax⟩
    rw [max_eq_right hhint.le, min_eq_left hmax.le, min_eq_iff] at heq
    cases heq with
    | inl h => linarith [h.1]
    | inr h => linarith [h.1]
  . intro h
    by_cases hhint : delays.backoff attempt < hint
    . have hmax := not_lt.mp (not_and.mp h hhint)
      rw [min_eq_right hmax, min_eq_right (le_max_of_le_left hmax)]
    . rw [max_eq_left (not_lt.mp hhint)]

end Finite
end RetryPolicy

end Api
