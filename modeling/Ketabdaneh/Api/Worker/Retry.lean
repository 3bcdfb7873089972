import Ketabdaneh.Library.Python.Float
import Ketabdaneh.Library.Text.Basic
import Mathlib.Tactic.NormNum

namespace Api

open Python Text

/-- A policy as it constructs; its delays may be infinite, or no number. -/
structure RetryPolicy where
  maxAttempts : Int
  baseDelaySeconds : PyFloat
  maxDelaySeconds : PyFloat
  one_le_maxAttempts : 1 ≤ maxAttempts
  baseDelay_pos : baseDelaySeconds.le (.finite 0) = false
  baseDelay_le : maxDelaySeconds.lt baseDelaySeconds = false

namespace RetryPolicy

def postInit (maxAttempts : Int) (baseDelaySeconds maxDelaySeconds : PyFloat)
    : Except String Unit :=
  if maxAttempts < 1 then
    .error "max_attempts must be at least 1."
  else if baseDelaySeconds.le (.finite 0) then
    .error "base_delay_seconds must be positive."
  else if maxDelaySeconds.lt baseDelaySeconds then
    .error "max_delay_seconds must be greater than or equal to base_delay_seconds."
  else
    .ok ()

theorem postInit_eq_ok {maxAttempts : Int} {baseDelaySeconds maxDelaySeconds : PyFloat}
    : postInit maxAttempts baseDelaySeconds maxDelaySeconds = .ok ()
        ↔
      1 ≤ maxAttempts ∧ baseDelaySeconds.le (.finite 0) = false
        ∧ maxDelaySeconds.lt baseDelaySeconds = false := by
  unfold postInit
  split
  . next hattempts =>
    simp only [reduceCtorEq, false_iff, not_and]
    omega
  . next hattempts =>
    have hone : 1 ≤ maxAttempts := by omega
    split
    . next hbase => simp [hbase]
    . next hbase =>
      split
      . next hmax => simp [hmax]
      . next hmax => simp [hone, hbase, hmax]

def new (maxAttempts : Int) (baseDelaySeconds maxDelaySeconds : PyFloat)
    : Except String RetryPolicy :=
  match h : postInit maxAttempts baseDelaySeconds maxDelaySeconds with
  | .error message => .error message
  | .ok () =>
    .ok ⟨maxAttempts, baseDelaySeconds, maxDelaySeconds, (postInit_eq_ok.mp h).1,
      (postInit_eq_ok.mp h).2.1, (postInit_eq_ok.mp h).2.2⟩

/-- The products are those of the numbers, without rounding. -/
def delayFor (policy : RetryPolicy) (attempt : Int) (retryAfter : Option PyFloat)
    : Except FloatError PyFloat :=
  if attempt ≤ 1 then
    .ok (.finite 0)
  else do
    let delay ← policy.baseDelaySeconds.mulInt (2 ^ (attempt - 2).toNat)
    let delay :=
      match retryAfter with
      | some hint => if delay.lt hint then hint else delay
      | none => delay
    return if policy.maxDelaySeconds.lt delay then policy.maxDelaySeconds else delay

end RetryPolicy

/-- What `str` writes a float with. -/
def floatText (s : Str) : Bool :=
  s.all fun c => c ∈ ofString "+-.0123456789aefin"

theorem parenthesis_not_mem_of_floatText {s : Str} (h : floatText s = true) : cp '(' ∉ s := by
  intro hmem
  have := List.all_eq_true.mp h _ hmem
  revert this
  decide

/-- The settings of the background delivery, as they are admitted. -/
structure Settings where
  telegramBotToken : Option Str := none
  baleBotToken : Option Str := none
  notificationTimeoutSeconds : Str := ofString "10.0"
  notificationMaxAttempts : Int := 5
  notificationRetryBaseDelaySeconds : PyFloat := .finite 5
  notificationRetryMaxDelaySeconds : PyFloat := .finite 300
  timeout_text : floatText notificationTimeoutSeconds = true := by decide +kernel
  one_le_maxAttempts : 1 ≤ notificationMaxAttempts := by decide
  baseDelay_pos : notificationRetryBaseDelaySeconds.le (.finite 0) = false := by decide
  maxDelay_pos : notificationRetryMaxDelaySeconds.le (.finite 0) = false := by decide
  baseDelay_le : notificationRetryMaxDelaySeconds.lt notificationRetryBaseDelaySeconds = false := by
    decide

def Settings.defaults : Settings := {}

def Settings.retryPolicy (settings : Settings) : RetryPolicy where
  maxAttempts := settings.notificationMaxAttempts
  baseDelaySeconds := settings.notificationRetryBaseDelaySeconds
  maxDelaySeconds := settings.notificationRetryMaxDelaySeconds
  one_le_maxAttempts := settings.one_le_maxAttempts
  baseDelay_pos := settings.baseDelay_pos
  baseDelay_le := settings.baseDelay_le

theorem Settings.new_retryPolicy (settings : Settings)
    : RetryPolicy.new settings.notificationMaxAttempts settings.notificationRetryBaseDelaySeconds
        settings.notificationRetryMaxDelaySeconds
        =
      .ok settings.retryPolicy := by
  have hok := RetryPolicy.postInit_eq_ok.mpr
    ⟨settings.one_le_maxAttempts, settings.baseDelay_pos, settings.baseDelay_le⟩
  unfold RetryPolicy.new
  split
  . next h =>
    rw [hok] at h
    injection h
  . rfl

end Api
