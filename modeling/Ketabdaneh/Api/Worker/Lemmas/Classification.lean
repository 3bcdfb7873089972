import Ketabdaneh.Api.Worker.Lemmas.RetryHint

/-!
This module contains which attempts are delivered, refused or retried as the contract of the
providers has it.
-/

namespace Api

open Python Text

/-- The statuses of a refusal, which is for this message and for good. -/
def RefusesAs (status : Nat) : Prop :=
  400 ≤ status ∧ status < 500 ∧ status ≠ 401 ∧ status ≠ 429

namespace BotApi

variable {api : BotApi} {text : Str} {exchange : Exchange} {frames : Nat}

theorem readStatus_eq_delivered {status : Nat} {body : Value}
    : readStatus status body = .delivered ↔ status < 400 ∧ SentEnvelope body := by
  rw [← isSome_sentMessageId]
  unfold readStatus
  split
  . simp only [reduceCtorEq, false_iff, not_and]
    omega
  . split
    . simp only [reduceCtorEq, false_iff, not_and]
      omega
    . split
      . next h =>
        simp only [h, and_true, true_iff]
        omega
      . next h => simp [h]

theorem readStatus_eq_rejected {status : Nat} {body : Value}
    : readStatus status body = .rejected ↔ RefusesAs status := by
  unfold readStatus RefusesAs
  split
  . simp only [reduceCtorEq, false_iff, not_and]
    omega
  . split
    . simp only [true_iff]
      omega
    . split
      all_goals
        simp only [reduceCtorEq, false_iff, not_and]
        omega

theorem not_sentEnvelope_none : ¬SentEnvelope .None := by
  rintro ⟨items, result, id, hitems, -⟩
  injection hitems

/-- A bot that sends the message, and the response to it. -/
def Answers (api : BotApi) (text : Str) (exchange : Exchange) (status : Nat) (body : JsonText)
    : Prop :=
  api.botToken.getD [] ≠ [] ∧ text.length ≤ api.maxTextLength ∧ exchange = .response status body

theorem readAs_eq_delivered
    : api.readAs frames text exchange = .delivered
        ↔
      ∃ status body value, api.Answers text exchange status body ∧ status < 400
        ∧ body.loads frames = .ok value ∧ SentEnvelope value := by
  unfold readAs Answers
  split
  . next htoken => simp [htoken]
  . next htoken =>
    split
    . next hlength =>
      simp only [reduceCtorEq, false_iff, not_exists, not_and]
      omega
    . next hlength =>
      have hle : text.length ≤ api.maxTextLength := by omega
      cases exchange with
      | response status body =>
        simp only [htoken, hle, ne_eq, not_false_eq_true, true_and, Exchange.response.injEq]
        cases hloads : body.loads frames with
        | ok value =>
          dsimp only
          rw [readStatus_eq_delivered]
          constructor
          . rintro ⟨hlt, hsent⟩
            exact ⟨status, body, value, ⟨rfl, rfl⟩, hlt, hloads, hsent⟩
          . rintro ⟨status', body', value', ⟨rfl, rfl⟩, hlt, hloads', hsent⟩
            rw [hloads] at hloads'
            injection hloads' with heq
            rw [heq]
            exact ⟨hlt, hsent⟩
        | error error =>
          have hread : ¬∃ status' body' value, (status = status' ∧ body = body') ∧ status' < 400
              ∧ body'.loads frames = .ok value ∧ SentEnvelope value := by
            rintro ⟨status', body', value, ⟨rfl, rfl⟩, -, hok, -⟩
            rw [hloads] at hok
            injection hok
          rw [iff_false_right hread]
          cases error with
          | valueError => simp [readStatus_eq_delivered, not_sentEnvelope_none]
          | recursionError container => simp
      | _ => simp

theorem readAs_eq_rejected
    : api.readAs frames text exchange = .rejected
        ↔
      api.botToken.getD [] ≠ []
        ∧ (api.maxTextLength < text.length
          ∨ ∃ status body, exchange = .response status body ∧ RefusesAs status
            ∧ ∀ container, body.fault frames ≠ some (.recursionError container)) := by
  unfold readAs
  split
  . next htoken => simp [htoken]
  . next htoken =>
    split
    . next hlength => simp [htoken, hlength]
    . next hlength =>
      cases exchange with
      | response status body =>
        simp only [htoken, hlength, ne_eq, not_false_eq_true, true_and, false_or,
          Exchange.response.injEq]
        rw [JsonText.loads]
        have hsame : (∃ status' body', (status = status' ∧ body = body') ∧ RefusesAs status'
              ∧ ∀ container, ¬body'.fault frames = some (.recursionError container))
            ↔ RefusesAs status ∧ ∀ container, ¬body.fault frames = some (.recursionError container) := by
          constructor
          . rintro ⟨status', body', ⟨rfl, rfl⟩, h⟩
            exact h
          . intro h
            exact ⟨status, body, ⟨rfl, rfl⟩, h⟩
        rw [hsame]
        cases body.fault frames with
        | none => simp [readStatus_eq_rejected]
        | some error =>
          cases error with
          | valueError => simp [readStatus_eq_rejected]
          | recursionError container => simp
      | _ => simp [hlength]

/-- The attempts that count as delivered. -/
def CountsDelivered (api : BotApi) (text : Str) (exchange : Exchange) : Prop :=
  ∃ status body value, api.Answers text exchange status body ∧ 200 ≤ status ∧ status < 300
    ∧ body.value? = some value ∧ SentEnvelope value

/-- The attempts that are refused, whatever is left of the budget. -/
def CountsRejected (api : BotApi) (text : Str) (exchange : Exchange) : Prop :=
  api.botToken.getD [] ≠ []
    ∧ (api.maxTextLength < text.length
      ∨ ∃ status body, exchange = .response status body ∧ RefusesAs status)

/-- Every attempt counts as one of the three; those that are neither of the first two may be retried. -/
def Counts (api : BotApi) (text : Str) (exchange : Exchange) (answer : Answer) : Prop :=
  (answer = .delivered ↔ api.CountsDelivered text exchange)
    ∧ (answer = .rejected ↔ api.CountsRejected text exchange)

/-- The envelope of a sent message in a response that is no 2xx and no error. -/
def Redirects (frames : Nat) (status : Nat) (body : JsonText) : Prop :=
  status < 400 ∧ ¬(200 ≤ status ∧ status < 300)
    ∧ ∃ value, body.loads frames = .ok value ∧ SentEnvelope value

/-- The same in a 2xx, in a body that cannot be read. -/
def Conceals (frames : Nat) (status : Nat) (body : JsonText) : Prop :=
  200 ≤ status ∧ status < 300
    ∧ ∃ value, body.value? = some value ∧ (body.fault frames).isSome = true ∧ SentEnvelope value

/-- A refusal with a body that is nested too deep. -/
def Overflows (frames : Nat) (status : Nat) (body : JsonText) : Prop :=
  RefusesAs status ∧ ∃ container, body.fault frames = some (.recursionError container)

theorem not_rejected_of_delivered (h : api.CountsDelivered text exchange)
    : ¬api.CountsRejected text exchange := by
  rcases h with ⟨status, body, value, ⟨htoken, hlength, hexchange⟩, hle, hlt, -⟩
  rintro ⟨-, hlong | ⟨status', body', hexchange', hrefuses⟩⟩
  . omega
  . rw [hexchange] at hexchange'
    injection hexchange' with hstatus
    unfold RefusesAs at hrefuses
    omega

theorem exists_counts (api : BotApi) (text : Str) (exchange : Exchange)
    : ∃ answer, api.Counts text exchange answer := by
  classical
  by_cases hdelivered : api.CountsDelivered text exchange
  . refine ⟨.delivered, ?_⟩
    simp [Counts, hdelivered, not_rejected_of_delivered hdelivered]
  . by_cases hrejected : api.CountsRejected text exchange
    . refine ⟨.rejected, ?_⟩
      simp [Counts, hdelivered, hrejected]
    . refine ⟨.retryable, ?_⟩
      simp [Counts, hdelivered, hrejected]

/-- A response that is taken for a delivery counts as one, unless it is no 2xx. -/
theorem countsDelivered_or_redirects (h : api.readAs frames text exchange = .delivered)
    : api.CountsDelivered text exchange
        ∨ ∃ status body, api.Answers text exchange status body ∧ Redirects frames status body := by
  rw [readAs_eq_delivered] at h
  rcases h with ⟨status, body, value, hanswers, hlt, hloads, hsent⟩
  by_cases h2xx : 200 ≤ status ∧ status < 300
  . left
    exact ⟨status, body, value, hanswers, h2xx.1, h2xx.2, (JsonText.loads_eq_ok.mp hloads).2, hsent⟩
  . right
    exact ⟨status, body, hanswers, hlt, h2xx, value, hloads, hsent⟩

theorem delivered_or_conceals (h : api.CountsDelivered text exchange)
    : api.readAs frames text exchange = .delivered
        ∨ ∃ status body, api.Answers text exchange status body ∧ Conceals frames status body := by
  rcases h with ⟨status, body, value, hanswers, hle, hlt, hvalue, hsent⟩
  cases hfault : body.fault frames with
  | none =>
    left
    rw [readAs_eq_delivered]
    exact ⟨status, body, value, hanswers, by omega, JsonText.loads_eq_ok.mpr ⟨hfault, hvalue⟩, hsent⟩
  | some error =>
    right
    exact ⟨status, body, hanswers, hle, hlt, value, hvalue, by rw [hfault]; rfl, hsent⟩

theorem countsRejected_of_rejected (h : api.readAs frames text exchange = .rejected)
    : api.CountsRejected text exchange := by
  rw [readAs_eq_rejected] at h
  rcases h with ⟨htoken, hlong | ⟨status, body, hexchange, hrefuses, -⟩⟩
  . exact ⟨htoken, Or.inl hlong⟩
  . exact ⟨htoken, Or.inr ⟨status, body, hexchange, hrefuses⟩⟩

theorem rejected_or_overflows (h : api.CountsRejected text exchange)
    : api.readAs frames text exchange = .rejected
        ∨ ∃ status body, api.Answers text exchange status body ∧ Overflows frames status body := by
  rw [readAs_eq_rejected]
  by_cases hlong : api.maxTextLength < text.length
  . exact Or.inl ⟨h.1, Or.inl hlong⟩
  . rcases h with ⟨htoken, hcase⟩
    rcases hcase.resolve_left hlong with ⟨status, body, hexchange, hrefuses⟩
    by_cases hdeep : ∃ container, body.fault frames = some (.recursionError container)
    . right
      exact ⟨status, body, ⟨htoken, by omega, hexchange⟩, hrefuses, hdeep⟩
    . left
      rw [not_exists] at hdeep
      exact ⟨htoken, Or.inr ⟨status, body, hexchange, hrefuses, hdeep⟩⟩

end BotApi

namespace Attempt

variable {attempt : Attempt}

def EndsAs (attempt : Attempt) : Answer → Prop
  | .delivered => attempt.delivery.outcome = .returned "delivered"
  | .rejected => attempt.delivery.outcome.isPermanent = true
  | .retryable =>
    (attempt.Remains → attempt.delivery.outcome.isRetry = true)
      ∧ (¬attempt.Remains → attempt.delivery.outcome.isPermanent = true)

def Counts (attempt : Attempt) (answer : Answer) : Prop :=
  attempt.botApi.Counts attempt.message.text attempt.exchange answer

def Classified (attempt : Attempt) : Prop :=
  ∃ answer, attempt.Counts answer ∧ attempt.EndsAs answer

/-- A response is taken for what it is not, and this makes a difference to how the attempt ends. -/
def Misread (attempt : Attempt) : Prop :=
  ∃ status body, attempt.botApi.Answers attempt.message.text attempt.exchange status body
    ∧ (BotApi.Redirects attempt.python.frames status body
      ∨ BotApi.Conceals attempt.python.frames status body
      ∨ BotApi.Overflows attempt.python.frames status body ∧ attempt.Remains)

/-- A `Retry` can be made of the delay of an attempt that counts as retryable. -/
def DelayFits (attempt : Attempt) : Prop :=
  attempt.Counts .retryable → attempt.Remains → fitsRetry attempt.wait = true

theorem countsDelivered_of_read (hread : attempt.read = .delivered) (hmisread : ¬attempt.Misread)
    : attempt.botApi.CountsDelivered attempt.message.text attempt.exchange := by
  cases BotApi.countsDelivered_or_redirects hread with
  | inl hdelivered => assumption
  | inr hredirects =>
    rcases hredirects with ⟨status, body, hanswers, hredirects⟩
    exact absurd ⟨status, body, hanswers, Or.inl hredirects⟩ hmisread

theorem read_of_counts_retryable (hcounts : attempt.Counts .retryable)
    (hmisread : ¬attempt.Misread) : attempt.read = .retryable := by
  cases hread : attempt.read with
  | delivered =>
    have := hcounts.1.mpr (countsDelivered_of_read hread hmisread)
    injection this
  | rejected =>
    have := hcounts.2.mpr (BotApi.countsRejected_of_rejected hread)
    injection this
  | retryable => rfl

theorem endsAs_of_not_misread {answer : Answer} (hcounts : attempt.Counts answer)
    (hmisread : ¬attempt.Misread) (hfits : attempt.DelayFits) : attempt.EndsAs answer := by
  cases answer with
  | delivered =>
    cases BotApi.delivered_or_conceals (hcounts.1.mp rfl) with
    | inl hread => exact outcome_delivered hread
    | inr hconceals =>
      rcases hconceals with ⟨status, body, hanswers, hconceals⟩
      exact absurd ⟨status, body, hanswers, Or.inr (Or.inl hconceals)⟩ hmisread
  | rejected =>
    cases hread : attempt.read with
    | delivered =>
      have hdelivered := countsDelivered_of_read hread hmisread
      exact absurd (hcounts.2.mp rfl) (BotApi.not_rejected_of_delivered hdelivered)
    | rejected => exact isPermanent_rejected hread
    | retryable =>
      -- only the last attempt has an end that tells nothing of the difference
      apply isPermanent_exhausted hread
      intro hremains
      cases BotApi.rejected_or_overflows (hcounts.2.mp rfl) with
      | inl hrejected =>
        rw [show BotApi.readAs attempt.python.frames attempt.botApi attempt.message.text
          attempt.exchange = attempt.read from rfl, hread] at hrejected
        injection hrejected
      | inr hoverflows =>
        rcases hoverflows with ⟨status, body, hanswers, hoverflows⟩
        exact hmisread ⟨status, body, hanswers, Or.inr (Or.inr ⟨hoverflows, hremains⟩)⟩
  | retryable =>
    have hread := read_of_counts_retryable hcounts hmisread
    constructor
    . intro hremains
      rw [outcome_waits hread hremains, Outcome.isRetry_ofDelay]
      exact hfits hcounts hremains
    . exact isPermanent_exhausted hread

theorem read_of_returned (h : attempt.delivery.outcome = .returned "delivered")
    : attempt.read = .delivered := by
  cases hread : attempt.read with
  | delivered => rfl
  | rejected =>
    have hpermanent := isPermanent_rejected hread
    rw [h] at hpermanent
    injection hpermanent
  | retryable =>
    by_cases hremains : attempt.Remains
    . rw [outcome_waits hread hremains, Outcome.ofDelay] at h
      split at h
      . injection h
      . injection h
    . have hpermanent := isPermanent_exhausted hread hremains
      rw [h] at hpermanent
      injection hpermanent

theorem endsAs_delivered_of_read {answer : Answer} (h : attempt.read = .delivered)
    (hends : attempt.EndsAs answer) : answer = .delivered := by
  have houtcome := outcome_delivered h
  cases answer with
  | delivered => rfl
  | rejected =>
    rw [EndsAs, houtcome] at hends
    injection hends
  | retryable =>
    rw [EndsAs, houtcome] at hends
    by_cases hremains : attempt.Remains
    . injection hends.1 hremains
    . injection hends.2 hremains

theorem not_isPermanent_waits (h : attempt.read = .retryable) (hremains : attempt.Remains)
    : attempt.delivery.outcome.isPermanent = false := by
  rw [outcome_waits h hremains, Outcome.ofDelay]
  split
  . rfl
  . rfl

theorem not_classified_of_redirects {status : Nat} {body : JsonText}
    (hanswers : attempt.botApi.Answers attempt.message.text attempt.exchange status body)
    (h : BotApi.Redirects attempt.python.frames status body) : ¬attempt.Classified := by
  rcases h with ⟨hlt, hnot, value, hloads, hsent⟩
  have hread : attempt.read = .delivered :=
    BotApi.readAs_eq_delivered.mpr ⟨status, body, value, hanswers, hlt, hloads, hsent⟩
  rintro ⟨answer, hcounts, hends⟩
  have hdelivered := hcounts.1.mp (endsAs_delivered_of_read hread hends)
  rcases hdelivered with ⟨status', body', value', ⟨-, -, hexchange⟩, hle, hlt', -⟩
  rw [hanswers.2.2] at hexchange
  injection hexchange with hstatus
  rw [← hstatus] at hle hlt'
  exact hnot ⟨hle, hlt'⟩

theorem not_classified_of_conceals {status : Nat} {body : JsonText}
    (hanswers : attempt.botApi.Answers attempt.message.text attempt.exchange status body)
    (h : BotApi.Conceals attempt.python.frames status body) : ¬attempt.Classified := by
  rcases h with ⟨hle, hlt, value, hvalue, hfault, hsent⟩
  rintro ⟨answer, hcounts, hends⟩
  rw [hcounts.1.mpr ⟨status, body, value, hanswers, hle, hlt, hvalue, hsent⟩] at hends
  rcases BotApi.readAs_eq_delivered.mp (read_of_returned hends) with
    ⟨status', body', value', ⟨-, -, hexchange⟩, -, hloads, -⟩
  rw [hanswers.2.2] at hexchange
  injection hexchange with _ hbody
  rw [← hbody, JsonText.loads_eq_ok] at hloads
  rw [hloads.1] at hfault
  injection hfault

theorem not_classified_of_overflows {status : Nat} {body : JsonText}
    (hanswers : attempt.botApi.Answers attempt.message.text attempt.exchange status body)
    (h : BotApi.Overflows attempt.python.frames status body) (hremains : attempt.Remains)
    : ¬attempt.Classified := by
  rcases h with ⟨hrefuses, container, hfault⟩
  have hread : attempt.read = .retryable := by
    cases hread : attempt.read with
    | delivered =>
      rcases BotApi.readAs_eq_delivered.mp hread with
        ⟨status', body', value', ⟨-, -, hexchange⟩, -, hloads, -⟩
      rw [hanswers.2.2] at hexchange
      injection hexchange with _ hbody
      rw [← hbody, JsonText.loads_eq_ok, hfault] at hloads
      injection hloads.1
    | rejected =>
      rcases (BotApi.readAs_eq_rejected.mp hread).2 with hlong | ⟨status', body', hexchange, -, hnone⟩
      . have hlength := hanswers.2.1
        omega
      . rw [hanswers.2.2] at hexchange
        injection hexchange with _ hbody
        rw [← hbody] at hnone
        exact absurd hfault (hnone container)
    | retryable => rfl
  rintro ⟨answer, hcounts, hends⟩
  rw [hcounts.2.mpr ⟨hanswers.1, Or.inr ⟨status, body, hanswers.2.2, hrefuses⟩⟩, EndsAs,
    not_isPermanent_waits hread hremains] at hends
  injection hends

theorem delayFits_of_classified (h : attempt.Classified) : attempt.DelayFits := by
  rcases h with ⟨answer, hcounts, hends⟩
  intro hretryable hremains
  have hanswer : answer = .retryable := by
    cases answer with
    | delivered => injection hretryable.1.mpr (hcounts.1.mp rfl)
    | rejected => injection hretryable.2.mpr (hcounts.2.mp rfl)
    | retryable => rfl
  rw [hanswer] at hends
  have hretry := hends.1 hremains
  cases hread : attempt.read with
  | delivered =>
    rw [outcome_delivered hread] at hretry
    injection hretry
  | rejected =>
    rw [JobRun.isRetry_of_isPermanent (isPermanent_rejected hread)] at hretry
    injection hretry
  | retryable => rwa [outcome_waits hread hremains, Outcome.isRetry_ofDelay] at hretry

/--
An attempt is classified exactly when its response is not misread, and when the retry that it may
count for can be raised.
-/
theorem classified_iff (attempt : Attempt)
    : attempt.Classified ↔ ¬attempt.Misread ∧ attempt.DelayFits := by
  constructor
  . intro h
    refine ⟨?_, delayFits_of_classified h⟩
    rintro ⟨status, body, hanswers, hredirects | hconceals | ⟨hoverflows, hremains⟩⟩
    . exact not_classified_of_redirects hanswers hredirects h
    . exact not_classified_of_conceals hanswers hconceals h
    . exact not_classified_of_overflows hanswers hoverflows hremains h
  . rintro ⟨hmisread, hfits⟩
    rcases BotApi.exists_counts attempt.botApi attempt.message.text attempt.exchange with
      ⟨answer, hcounts⟩
    exact ⟨answer, hcounts, endsAs_of_not_misread hcounts hmisread hfits⟩

end Attempt

def redirected : Attempt :=
  firstAttempt (.response 302 (.document messageSent))

theorem redirected_counts_as_delivered :
    redirected.delivery.outcome = .returned "delivered"
      ∧ ¬redirected.botApi.CountsDelivered redirected.message.text redirected.exchange
      ∧ ¬redirected.Classified := by
  have hnot : ¬redirected.botApi.CountsDelivered redirected.message.text redirected.exchange := by
    rintro ⟨status, body, value, ⟨-, -, hexchange⟩, hle, hlt, -⟩
    injection hexchange with hstatus
    omega
  have hread : redirected.read = .delivered := by decide +kernel
  refine ⟨Attempt.outcome_delivered hread, hnot, ?_⟩
  rintro ⟨answer, hcounts, hends⟩
  exact hnot (hcounts.1.mp (Attempt.endsAs_delivered_of_read hread hends))

end Api
