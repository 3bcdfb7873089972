import Ketabdaneh.Api.Worker.Lemmas.RetryHint

/-!
This module contains how long a retryable attempt defers the next one, where the delays of the
policy are numbers.
-/

namespace Api

open Python Text

/-- The wait that the provider asks for, by a body of status 429. -/
def Exchange.asked : Exchange → Option Nat
  | .timeout => none
  | .requestError => none
  | .raises _ _ => none
  | .response status body => if status = 429 then body.value?.bind suggestedWait else none

/-- An unexpected exception whose text looks like a rate limit. -/
def LooksLimited (exchange : Exchange) (wait : Nat) : Prop :=
  ∃ typeName message, exchange = .raises typeName message
    ∧ waitIn (typeName ++ ofString ": " ++ message) = some wait

/-- A rate limit with a hint, in a body that cannot be read. -/
def Unread (frames : Nat) (exchange : Exchange) (wait : Nat) : Prop :=
  ∃ doc, exchange = .response 429 (.document doc) ∧ (doc.fault frames).isSome = true
    ∧ suggestedWait (Json.loads doc) = some wait

def MishearsAs (frames : Nat) (exchange : Exchange) (wait : Nat) : Prop :=
  LooksLimited exchange wait ∨ Unread frames exchange wait

theorem mishearsAs_raises {frames : Nat} {typeName message : Str} {n : Nat}
    : MishearsAs frames (.raises typeName message) n
        ↔
      waitIn (typeName ++ ofString ": " ++ message) = some n := by
  constructor
  . intro h
    cases h with
    | inl h =>
      rcases h with ⟨typeName', message', heq, hwait⟩
      injection heq with htype hmessage
      rw [htype, hmessage, hwait]
    | inr h =>
      rcases h with ⟨doc, heq, -⟩
      injection heq
  . intro h
    exact Or.inl ⟨typeName, message, rfl, h⟩

theorem mishearsAs_document {frames : Nat} {doc : Json} {n : Nat}
    : MishearsAs frames (.response 429 (.document doc)) n
        ↔
      (doc.fault frames).isSome = true ∧ suggestedWait (Json.loads doc) = some n := by
  constructor
  . intro h
    cases h with
    | inl h =>
      rcases h with ⟨typeName, message, heq, -⟩
      injection heq
    | inr h =>
      rcases h with ⟨doc', heq, hfault, hwait⟩
      injection heq with _ heq
      injection heq with heq
      rw [heq]
      exact ⟨hfault, hwait⟩
  . intro h
    exact Or.inr ⟨doc, rfl, h⟩

/-- What is heard is what is asked, or one of them is there where the other is not. -/
theorem hearing (frames : Nat) (exchange : Exchange)
    : (BotApi.heard frames exchange = exchange.asked ∧ ∀ n, ¬MishearsAs frames exchange n)
        ∨ (∃ wait, BotApi.heard frames exchange = some wait ∧ exchange.asked = none
          ∧ ∀ n, MishearsAs frames exchange n ↔ n = wait)
        ∨ (∃ wait, BotApi.heard frames exchange = none ∧ exchange.asked = some wait
          ∧ ∀ n, MishearsAs frames exchange n ↔ n = wait) := by
  cases exchange with
  | timeout => simp [Exchange.asked, BotApi.heard, MishearsAs, LooksLimited, Unread]
  | requestError => simp [Exchange.asked, BotApi.heard, MishearsAs, LooksLimited, Unread]
  | raises typeName message =>
    simp only [mishearsAs_raises]
    rw [BotApi.heard]
    cases waitIn (typeName ++ ofString ": " ++ message) with
    | none => simp [Exchange.asked]
    | some wait => simp [Exchange.asked, eq_comm]
  | response status body =>
    by_cases h429 : status = 429
    . rw [h429, BotApi.heard, Exchange.asked, if_pos rfl, if_pos rfl, JsonText.loads]
      cases body with
      | broken text =>
        left
        refine ⟨rfl, ?_⟩
        simp [MishearsAs, LooksLimited, Unread]
      | document doc =>
        simp only [mishearsAs_document]
        rw [JsonText.fault]
        cases doc.fault frames with
        | none =>
          left
          refine ⟨rfl, ?_⟩
          simp
        | some error =>
          simp only [JsonText.value?, Option.bind_some, Except.toOption, Option.bind_none]
          cases suggestedWait (Json.loads doc) with
          | none => simp
          | some wait => simp [eq_comm]
    . left
      simp [Exchange.asked, BotApi.heard, MishearsAs, LooksLimited, Unread, h429]

namespace Attempt

variable {attempt : Attempt} (delays : attempt.context.policy.Finite)

/-- The hint in what the provider answers, if it answers: nothing is asked without a token. -/
def hint (attempt : Attempt) : Nat :=
  if attempt.botApi.botToken.getD [] = [] then 0 else attempt.exchange.asked.getD 0

/-- The wait of the attempt is the one for `hint`, bounded, and none after it is shorter. -/
def Defers (hint : Nat) : Prop :=
  ∃ d, attempt.delivery.outcome = .retry d ∧ delays.base ≤ d ∧ d ≤ delays.maximum
    ∧ d = delays.deferral attempt.context.jobTry hint
    ∧ ∀ n hint', attempt.context.jobTry ≤ n → hint ≤ hint' → d ≤ delays.deferral n hint'

/-- A hint is heard where none is, or the other way round, at a bot with a token, and it counts. -/
def Misheard : Prop :=
  attempt.botApi.botToken.getD [] ≠ []
    ∧ delays.backoff attempt.context.jobTry < delays.maximum
    ∧ ∃ wait : Nat, MishearsAs attempt.python.frames attempt.exchange wait
      ∧ delays.backoff attempt.context.jobTry < wait

theorem outcome_deferral (hone : 1 ≤ attempt.context.jobTry) (hremains : attempt.Remains)
    (h : answerOf attempt.result = .retryable)
    : attempt.delivery.outcome
        =
      .ofDelay
        (if attempt.context.jobTry ≤ 1024 then
          .ok (.finite (delays.deferral attempt.context.jobTry (attempt.heard.getD 0)))
        else
          .error .overflowError) := by
  rw [answerOf_result] at h
  rw [outcome_waits h hremains, wait, delays.delayFor_succ hone]

theorem defers_iff {heard : Nat} (hint : Nat)
    (h : attempt.delivery.outcome
      = .ofDelay
        (if attempt.context.jobTry ≤ 1024 then
          .ok (.finite (delays.deferral attempt.context.jobTry heard))
        else
          .error .overflowError))
    : Defers delays hint
        ↔
      attempt.context.jobTry ≤ 1024
        ∧ delays.deferral attempt.context.jobTry heard = delays.deferral attempt.context.jobTry hint
        ∧ delays.deferral attempt.context.jobTry hint < 86400000000000 := by
  rw [← delays.isDelta_deferral]
  constructor
  . rintro ⟨d, hretry, -, -, heq, -⟩
    have hfits := Outcome.isRetry_ofDelay
      (if attempt.context.jobTry ≤ 1024 then
        .ok (.finite (delays.deferral attempt.context.jobTry heard))
      else
        .error .overflowError)
    rw [← h, hretry] at hfits
    split at hfits
    . next hle =>
      have hdelta : (PyFloat.finite (delays.deferral attempt.context.jobTry heard)).isDelta = true :=
        hfits.symm
      rw [h, if_pos hle, Outcome.ofDelay, Except.bind, timedelta_of_isDelta hdelta] at hretry
      injection hretry with hretry
      rw [← heq, ← hretry]
      exact ⟨hle, rfl, hdelta⟩
    . contradiction
  . rintro ⟨hle, heq, hdelta⟩
    rw [if_pos hle, heq, Outcome.ofDelay, Except.bind, timedelta_of_isDelta hdelta] at h
    refine ⟨_, h, delays.base_le_deferral _ _, delays.deferral_le _ _, rfl, ?_⟩
    intro n hint' hn hhint
    exact delays.deferral_mono hn hhint

theorem misheard_iff {wait : Nat} (htoken : attempt.botApi.botToken.getD [] ≠ [])
    (h : ∀ n, MishearsAs attempt.python.frames attempt.exchange n ↔ n = wait)
    : Misheard delays
        ↔
      delays.backoff attempt.context.jobTry < wait
        ∧ delays.backoff attempt.context.jobTry < delays.maximum := by
  simp only [Misheard, h, exists_eq_left, htoken, ne_eq, not_false_eq_true, true_and]
  exact and_comm

theorem not_misheard (h : ∀ n, ¬MishearsAs attempt.python.frames attempt.exchange n)
    : ¬Misheard delays := by
  rintro ⟨-, -, wait, hwait, -⟩
  exact h wait hwait

/--
The wait that is raised is the one for the hint exactly when the hint is not misheard, and no
longer than a `Retry` can hold, at an attempt whose power of two a float is made of.
-/
theorem defers_iff_not_misheard (attempt : Attempt) (delays : attempt.context.policy.Finite)
    (hone : 1 ≤ attempt.context.jobTry) (hremains : attempt.Remains)
    (hretryable : answerOf attempt.result = .retryable)
    : Defers delays attempt.hint
        ↔
      attempt.context.jobTry ≤ 1024 ∧ ¬Misheard delays
        ∧ delays.deferral attempt.context.jobTry attempt.hint < 86400000000000 := by
  rw [defers_iff delays _ (outcome_deferral delays hone hremains hretryable), and_congr_right_iff]
  intro _
  rw [and_congr_left_iff]
  intro _
  rw [hint, heard]
  by_cases htoken : attempt.botApi.botToken.getD [] = []
  . rw [if_pos htoken, if_pos htoken]
    simp [Misheard, htoken]
  rw [if_neg htoken, if_neg htoken]
  rcases hearing attempt.python.frames attempt.exchange with
    ⟨heq, hnone⟩ | ⟨wait, hheard, hasked, hwait⟩ | ⟨wait, hheard, hasked, hwait⟩
  . rw [heq]
    simp only [true_iff]
    exact not_misheard delays hnone
  . rw [hheard, hasked, misheard_iff delays htoken hwait]
    apply delays.deferral_eq_zero_iff
  . rw [hheard, hasked, misheard_iff delays htoken hwait, eq_comm]
    apply delays.deferral_eq_zero_iff

end Attempt

def firstDelays (exchange : Exchange) : (firstAttempt exchange).context.policy.Finite :=
  ⟨5, 300, rfl, rfl⟩

def rateLimited : Exchange :=
  .response 429
    (.document (.obj [(ofString "parameters", .obj [(ofString "retry_after", .int 60)])]))

theorem rateLimited_defers :
    Attempt.Defers (firstDelays rateLimited) 60 ∧ (firstDelays rateLimited).deferral 1 60 = 60 := by
  have hdeferral : (firstDelays rateLimited).deferral 1 60 = 60 := by decide +kernel
  have hnot : ¬Attempt.Misheard (firstDelays rateLimited) := by
    apply Attempt.not_misheard
    intro n
    rw [show (firstAttempt rateLimited).exchange = rateLimited from rfl, rateLimited,
      mishearsAs_document, show (Json.fault _ _).isSome = false from by decide +kernel]
    simp
  refine ⟨(Attempt.defers_iff_not_misheard _ (firstDelays rateLimited) (by decide)
    (firstAttempt_remains _) rfl).mpr ⟨by decide, hnot, ?_⟩, hdeferral⟩
  show (firstDelays rateLimited).deferral 1 60 < 86400000000000
  rw [hdeferral]
  norm_num

def lookAlike : Exchange :=
  .raises (ofString "RuntimeError") (ofString "upstream busy (retry after 120s)")

/-- The exception is no rate limit, and its attempt waits for two minutes and not five seconds. -/
theorem lookAlike_misheard :
    (firstAttempt lookAlike).delivery.outcome = .retry 120
      ∧ (firstAttempt lookAlike).hint = 0
      ∧ (firstDelays lookAlike).deferral 1 0 = 5
      ∧ ¬Attempt.Defers (firstDelays lookAlike) (firstAttempt lookAlike).hint := by
  have houtcome : (firstAttempt lookAlike).delivery.outcome = .retry 120 := by
    have hheard : BotApi.heard 900 lookAlike = some 120 := by decide +kernel
    have hdeferral : (firstDelays lookAlike).deferral 1 120 = 120 := by decide +kernel
    have hdelta : (PyFloat.finite 120).isDelta = true := by decide +kernel
    rw [Attempt.outcome_deferral (firstDelays lookAlike) (by decide) (firstAttempt_remains _) rfl,
      if_pos (by decide), Attempt.heard, if_neg (by decide)]
    show Outcome.ofDelay (.ok (.finite ((firstDelays lookAlike).deferral 1
      ((BotApi.heard 900 lookAlike).getD 0)))) = _
    rw [hheard, Option.getD_some, hdeferral, Outcome.ofDelay, Except.bind,
      timedelta_of_isDelta hdelta]
  have hhint : (firstAttempt lookAlike).hint = 0 := rfl
  have hdeferral : (firstDelays lookAlike).deferral 1 0 = 5 := by decide +kernel
  refine ⟨houtcome, hhint, hdeferral, ?_⟩
  rintro ⟨d, hretry, -, -, heq, -⟩
  rw [houtcome] at hretry
  injection hretry with hretry
  rw [hhint, show (firstAttempt lookAlike).context.jobTry = 1 from rfl, hdeferral, ← hretry] at heq
  norm_num at heq

end Api
