import Ketabdaneh.Api.Worker.Lemmas.Delivery

/-!
This module contains that what a job logs, raises, returns and counts says nothing of the text, the
address and the metadata of its message, nor of the token of the bot.
-/

namespace Api

open Python Text

/-- All of a call but the message it sends. -/
def Delivery.observed (delivery : Delivery) : Delivery :=
  { delivery with sent := [] }

theorem Delivery.outcome_observed (delivery : Delivery)
    : delivery.observed.outcome = delivery.outcome :=
  rfl

/-- The same answer or fault; exceptions of the client may differ in what they say of the request. -/
inductive Exchange.Alike : Exchange → Exchange → Prop where
  | same (exchange : Exchange) : Alike exchange exchange
  | raises {typeName message typeName' message' : Str}
      (hhint : retryAfterHint (some (typeName ++ ofString ": " ++ message))
        = retryAfterHint (some (typeName' ++ ofString ": " ++ message')))
    : Alike (.raises typeName message) (.raises typeName' message')

structure NotificationResult.Alike (result other : NotificationResult) : Prop where
  success : result.success = other.success
  externalMessageId : result.externalMessageId = other.externalMessageId
  errorCode : result.errorCode = other.errorCode
  hint : rejects result.errorCode = false →
    retryAfterHint result.errorMessage = retryAfterHint other.errorMessage

structure Context.Alike (ctx other : Context) : Prop where
  policy : ctx.policy = other.policy
  jobId : ctx.jobId = other.jobId
  jobTry : ctx.jobTry = other.jobTry
  started : ctx.started = other.started
  finished : ctx.finished = other.finished

theorem NotificationResult.Alike.refl (result : NotificationResult) : result.Alike result :=
  ⟨rfl, rfl, rfl, fun _ => rfl⟩

theorem classify_alike {ctx ctx' : Context} {job job' : NotificationJob}
    {result result' : NotificationResult} (hctx : ctx.Alike ctx') (hchannel : job.channel = job'.channel)
    (hcategory : job.category = job'.category) (hresult : result.Alike result')
    : ctx.classify job result = ctx'.classify job' result' := by
  unfold Context.classify
  rw [hresult.success, hresult.errorCode, hctx.jobTry, hctx.policy]
  split
  . simp only [Context.delivered, Context.observation, Context.durationMs, hchannel, hcategory,
      hresult.externalMessageId, hctx.jobId, hctx.started, hctx.finished]
  . split
    . simp only [Context.rejected, Context.observation, Context.durationMs, hchannel, hcategory,
        hctx.jobId, hctx.started, hctx.finished]
    . next hrejects =>
      rw [← hresult.errorCode, Bool.not_eq_true] at hrejects
      split
      . simp only [Context.exhausted, Context.observation, Context.durationMs, hchannel, hcategory,
          hctx.jobId, hctx.jobTry, hctx.started, hctx.finished]
      . simp only [Context.retried, Context.observation, Context.durationMs, hchannel, hcategory,
          hresult.errorCode, hresult.hint hrejects, hctx.policy, hctx.jobId, hctx.jobTry,
          hctx.started, hctx.finished]

namespace BotApi

variable {python : Interpreter}

/-- What comes of a send is alike for two tokens, and two messages that both fit or both do not. -/
theorem deliver_alike (api : BotApi) {token token' : Option Str} {exchange exchange' : Exchange}
    {message message' : NotificationMessage} (htoken : token.getD [] ≠ [])
    (htoken' : token'.getD [] ≠ []) (hexchange : exchange.Alike exchange')
    (hchannel : message.channel = message'.channel)
    (htext : message.text.length > api.maxTextLength ↔ message'.text.length > api.maxTextLength)
    : (NotificationDispatcher.deliver ({ api with botToken := token }.provider python exchange)
        message).Alike
        (NotificationDispatcher.deliver ({ api with botToken := token' }.provider python exchange')
          message') := by
  unfold NotificationDispatcher.deliver provider sendBotApiMessage
  dsimp only
  rw [if_neg htoken, if_neg htoken', hchannel]
  by_cases hlong : message.text.length > api.maxTextLength
  . rw [if_pos hlong, if_pos (htext.mp hlong)]
    refine ⟨rfl, rfl, rfl, ?_⟩
    intro hrejects
    injection hrejects
  . rw [if_neg hlong, if_neg (mt htext.mpr hlong)]
    cases hexchange with
    | same => exact NotificationResult.Alike.refl _
    | raises hhint => exact ⟨rfl, rfl, rfl, fun _ => hhint⟩

end BotApi

namespace Attempt

variable {left right : Attempt}

/--
Two attempts that may differ in the text, the address and the metadata of the message, and in the
tokens: nothing else tells them apart.
-/
structure Agrees (left right : Attempt) : Prop where
  python : left.python = right.python
  channel : left.job.channel = right.job.channel
  category : left.job.category = right.job.category
  text : left.message.text.length > left.botApi.maxTextLength
    ↔ right.message.text.length > right.botApi.maxTextLength
  token : left.botApi.botToken.getD [] ≠ []
  token' : right.botApi.botToken.getD [] ≠ []
  timeout : left.settings.notificationTimeoutSeconds = right.settings.notificationTimeoutSeconds
  exchange : left.exchange.Alike right.exchange
  context : left.context.Alike right.context

theorem ofValue_channel (attempt : Attempt)
    : NotificationChannel.ofValue attempt.job.channel = some attempt.message.channel := by
  have hreconstructs := attempt.reconstructs
  unfold reconstruct at hreconstructs
  split at hreconstructs
  . injection hreconstructs
  . split at hreconstructs
    . injection hreconstructs
    . injection hreconstructs
    . next hmessage =>
      injection hreconstructs with heq
      injection heq with hjob hsame
      rw [hjob, hsame, NotificationJob.toMessage_eq_ok] at hmessage
      exact hmessage.1

theorem botApi_eq (h : left.Agrees right) (hchannel : left.message.channel = right.message.channel)
    : right.botApi = { left.botApi with botToken := right.botApi.botToken } := by
  unfold botApi api
  rw [hchannel, h.timeout]
  cases right.message.channel with
  | telegram => rfl
  | bale => rfl

theorem result_alike (h : left.Agrees right) : left.result.Alike right.result := by
  have hchannel : left.message.channel = right.message.channel := by
    have hvalue := ofValue_channel left
    rw [h.channel, ofValue_channel right, Option.some.injEq] at hvalue
    exact hvalue.symm
  have hapi := botApi_eq h hchannel
  have htext : left.message.text.length > left.botApi.maxTextLength
      ↔ right.message.text.length > left.botApi.maxTextLength := by
    rw [h.text, hapi]
  rw [result, result, hapi, ← h.python]
  exact BotApi.deliver_alike left.botApi h.token h.token' h.exchange hchannel htext

theorem observed_eq (h : left.Agrees right) : left.delivery.observed = right.delivery.observed := by
  rw [delivery_eq, delivery_eq, classify_alike h.context h.channel h.category (result_alike h)]
  rfl

end Attempt

/-- Jobs whose calls look the same take as many tries, look the same in each and end alike. -/
theorem runTries_observed {call call' : Nat → Delivery}
    (h : ∀ i, (call i).observed = (call' i).observed) (left jobTry : Nat)
    : (runTries call left jobTry).1.map Delivery.observed
          = (runTries call' left jobTry).1.map Delivery.observed
        ∧ (runTries call left jobTry).2 = (runTries call' left jobTry).2 := by
  induction left generalizing jobTry with
  | zero => exact ⟨rfl, rfl⟩
  | succ left ih =>
    have houtcome : (call jobTry).outcome = (call' jobTry).outcome := by
      rw [← Delivery.outcome_observed, h jobTry, Delivery.outcome_observed]
    cases hretry : (call jobTry).outcome.isRetry with
    | true =>
      have hretry' : (call' jobTry).outcome.isRetry = true := by
        rwa [← houtcome]
      rcases ih (jobTry + 1) with ⟨hcalls, hend⟩
      rw [runTries_of_isRetry hretry, runTries_of_isRetry hretry', List.map_cons, List.map_cons,
        h jobTry, hcalls]
      exact ⟨rfl, hend⟩
    | false =>
      have hretry' : (call' jobTry).outcome.isRetry = false := by
        rwa [← houtcome]
      rw [runTries_of_not_isRetry hretry, runTries_of_not_isRetry hretry', List.map_singleton,
        List.map_singleton, h jobTry, houtcome]
      exact ⟨rfl, rfl⟩

/--
Neither the text, the address or the metadata of a message nor the token of the bot has a part in
what the tries of a job log, observe, raise or return.
-/
theorem deliverNotification_observed_eq (left right : Nat → Attempt)
    (h : ∀ i, (left i).Agrees (right i))
    : (∀ i, (left i).delivery.observed = (right i).delivery.observed)
        ∧ (runJob fun i => (left i).delivery).1.map Delivery.observed
          = (runJob fun i => (right i).delivery).1.map Delivery.observed
        ∧ (runJob fun i => (left i).delivery).2 = (runJob fun i => (right i).delivery).2 := by
  have hcalls : ∀ i, (left i).delivery.observed = (right i).delivery.observed := by
    intro i
    exact Attempt.observed_eq (h i)
  exact ⟨hcalls, runTries_observed hcalls WorkerSettings.maxTries 1⟩

def throttled : Json :=
  .obj [(ofString "parameters", .obj [(ofString "retry_after", .int 7)])]

/-- The tries of a job whose first request is put off and whose second one is answered. -/
def throttledOnce (token : String) (job : NotificationJob) (message : NotificationMessage)
    (reconstructs : reconstruct job.toPayload = .ok (job, message)) (i : Nat) : Attempt where
  python := interpreter
  settings := { Settings.defaults with telegramBotToken := some (ofString token) }
  exchange := if i = 1 then .response 429 (.document throttled) else .response 200 (.document messageSent)
  payload := job.toPayload
  job
  message
  reconstructs
  context := {
    dispatcher := buildNotificationDispatcher interpreter
      { Settings.defaults with telegramBotToken := some (ofString token) }
      (if i = 1 then .response 429 (.document throttled) else .response 200 (.document messageSent))
    policy := Settings.defaults.retryPolicy
    jobId := []
    jobTry := i
    started := 0
    finished := 0
  }
  dispatcher := rfl

def secretJob : NotificationJob :=
  { unconfiguredJob with
    address := ofString "77"
    text := ofString "Your code is 4711"
    metadata := [(.str (ofString "retry after 9s"), .None)]
    address_ne := by decide
    text_ne := by decide }

def secretMessage : NotificationMessage :=
  { unconfiguredMessage with
    recipient := ⟨.telegram, ofString "77", by decide⟩
    text := ofString "Your code is 4711"
    metadata := [(.str (ofString "retry after 9s"), .None)]
    text_ne := by decide }

theorem throttledOnce_observed_eq :
    (∀ i, (throttledOnce "1:a" unconfiguredJob unconfiguredMessage rfl i).delivery.observed
          = (throttledOnce "2:b" secretJob secretMessage rfl i).delivery.observed)
      ∧ (runJob fun i =>
            (throttledOnce "1:a" unconfiguredJob unconfiguredMessage rfl i).delivery).1.map
          Delivery.observed
        = (runJob fun i =>
            (throttledOnce "2:b" secretJob secretMessage rfl i).delivery).1.map Delivery.observed
      ∧ (runJob fun i => (throttledOnce "1:a" unconfiguredJob unconfiguredMessage rfl i).delivery).2
        = (runJob fun i => (throttledOnce "2:b" secretJob secretMessage rfl i).delivery).2 := by
  apply deliverNotification_observed_eq (throttledOnce "1:a" unconfiguredJob unconfiguredMessage rfl)
    (throttledOnce "2:b" secretJob secretMessage rfl)
  intro i
  constructor
  . rfl
  . rfl
  . rfl
  . show unconfiguredMessage.text.length > 4096 ↔ secretMessage.text.length > 4096
    decide
  . show (some (ofString "1:a")).getD [] ≠ []
    decide
  . show (some (ofString "2:b")).getD [] ≠ []
    decide
  . rfl
  . exact .same _
  . exact ⟨rfl, rfl, rfl, rfl, rfl⟩

end Api
