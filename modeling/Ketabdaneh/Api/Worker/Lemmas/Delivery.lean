import Ketabdaneh.Api.Worker.Lemmas.Worker

namespace Api

open Python Text

def SentEnvelope (body : Value) : Prop :=
  ∃ items result id, body = .dict items
    ∧ Value.get? items (ofString "ok") = some (.bool true)
    ∧ Value.get? items (ofString "result") = some (.dict result)
    ∧ Value.get? result (ofString "message_id") = some id ∧ id ≠ .None

theorem member?_eq_some {value entry : Value} {key : String}
    : member? value key = some entry
        ↔
      ∃ items, value = .dict items ∧ Value.get? items (ofString key) = some entry := by
  cases value with
  | dict items => simp [member?]
  | _ => simp [member?]

theorem messageId_eq_some {body id : Value}
    : messageId body = some id
        ↔
      id ≠ .None ∧ ∃ result, member? body "result" = some result
        ∧ member? result "message_id" = some id := by
  unfold messageId
  rw [← Option.bind_eq_some_iff]
  generalize (member? body "result").bind (fun result => member? result "message_id") = found
  cases found with
  | none => simp
  | some found =>
    cases found with
    | None => simp [eq_comm]
    | _ =>
      simp only [Option.some.injEq]
      constructor
      . intro h
        rw [← h]
        simp
      . intro h
        exact h.2

theorem isSome_sentMessageId {body : Value}
    : (sentMessageId body).isSome = true ↔ SentEnvelope body := by
  rw [Option.isSome_iff_exists]
  constructor
  . rintro ⟨id, h⟩
    unfold sentMessageId at h
    split at h
    . next hok =>
      rw [messageId_eq_some] at h
      rcases h with ⟨hne, result, hresult, hid⟩
      rw [member?_eq_some] at hok hresult hid
      rcases hok with ⟨items, hitems, hok⟩
      rcases hresult with ⟨items', hitems', hresult⟩
      rcases hid with ⟨entries, hentries, hid⟩
      rw [hitems] at hitems'
      injection hitems' with hitems'
      rw [← hitems', hentries] at hresult
      exact ⟨items, entries, id, hitems, hok, hresult, hid, hne⟩
    . injection h
  . rintro ⟨items, result, id, hitems, hok, hresult, hid, hne⟩
    refine ⟨id, ?_⟩
    have hok' : member? body "ok" = some (.bool true) := member?_eq_some.mpr ⟨items, hitems, hok⟩
    rw [sentMessageId, hok']
    dsimp only
    rw [messageId_eq_some]
    exact ⟨hne, .dict result, member?_eq_some.mpr ⟨items, hitems, hresult⟩,
      member?_eq_some.mpr ⟨result, rfl, hid⟩⟩

def sendAnswer : Except SendError NotificationResult → Answer
  | .ok result => answerOf result
  | .error (.providerUnavailable _) => .retryable
  | .error (.notificationRejected _ code) => if rejects (some code) then .rejected else .retryable
  | .error (.crash _ _) => .retryable

theorem answerOf_deliver (provider : NotificationProvider) (message : NotificationMessage)
    : answerOf (NotificationDispatcher.deliver provider message)
        =
      sendAnswer (provider.send message) := by
  unfold NotificationDispatcher.deliver
  cases provider.send message with
  | ok result => rfl
  | error error =>
    cases error with
    | providerUnavailable text => rfl
    | notificationRejected text code => rfl
    | crash typeName text => rfl

namespace BotApi

variable {python : Interpreter}

def readStatus (status : Nat) (body : Value) : Answer :=
  if status = 429 ∨ 500 ≤ status ∨ status = 401 then .retryable
  else if 400 ≤ status then .rejected
  else if (sentMessageId body).isSome then .delivered
  else .retryable

def readAs (frames : Nat) (api : BotApi) (text : Str) (exchange : Exchange) : Answer :=
  if api.botToken.getD [] = [] then .retryable
  else if text.length > api.maxTextLength then .rejected
  else
    match exchange with
    | .response status body =>
      match body.loads frames with
      | .ok value => readStatus status value
      | .error .valueError => readStatus status .None
      | .error (.recursionError _) => .retryable
    | _ => .retryable

theorem sendAnswer_readResponse (api : BotApi) (status : Nat) (body : Value)
    : sendAnswer (api.readResponse python status body) = readStatus status body := by
  unfold readResponse readStatus
  by_cases h429 : status = 429
  . rw [if_pos h429, if_pos (Or.inl h429)]
    rfl
  rw [if_neg h429]
  by_cases h500 : 500 ≤ status
  . rw [if_pos h500, if_pos (Or.inr (Or.inl h500))]
    rfl
  rw [if_neg h500]
  by_cases h401 : status = 401
  . rw [if_pos h401, if_pos (Or.inr (Or.inr h401))]
    rfl
  have hnot : ¬(status = 429 ∨ 500 ≤ status ∨ status = 401) := by omega
  rw [if_neg h401, if_neg hnot]
  by_cases h400 : 400 ≤ status
  . rw [if_pos h400, if_pos h400]
    rfl
  rw [if_neg h400, if_neg h400]
  cases sentMessageId body with
  | none => rfl
  | some id => rfl

theorem sendAnswer_sendBotApiMessage (api : BotApi) (exchange : Exchange)
    (message : NotificationMessage)
    : sendAnswer (api.sendBotApiMessage python exchange message)
        =
      api.readAs python.frames message.text exchange := by
  unfold sendBotApiMessage readAs
  split
  . rfl
  . split
    . rfl
    . cases exchange with
      | response status body =>
        dsimp only
        cases body.loads python.frames with
        | ok value => apply sendAnswer_readResponse
        | error error =>
          cases error with
          | valueError => apply sendAnswer_readResponse
          | recursionError container => rfl
      | _ => rfl

end BotApi

def api (settings : Settings) : NotificationChannel → BotApi
  | .telegram => telegram settings.telegramBotToken settings.notificationTimeoutSeconds
  | .bale => bale settings.baleBotToken settings.notificationTimeoutSeconds

structure Attempt where
  python : Interpreter
  settings : Settings
  exchange : Exchange
  payload : Value
  job : NotificationJob
  message : NotificationMessage
  reconstructs : reconstruct payload = .ok (job, message)
  context : Context
  dispatcher : context.dispatcher = buildNotificationDispatcher python settings exchange

namespace Attempt

def botApi (attempt : Attempt) : BotApi :=
  api attempt.settings attempt.message.channel

def delivery (attempt : Attempt) : Delivery :=
  deliverNotification attempt.context attempt.payload

def result (attempt : Attempt) : NotificationResult :=
  NotificationDispatcher.deliver (attempt.botApi.provider attempt.python attempt.exchange)
    attempt.message

/-- What the exchange of the attempt is taken for. -/
def read (attempt : Attempt) : Answer :=
  attempt.botApi.readAs attempt.python.frames attempt.message.text attempt.exchange

/-- Another attempt is left of the budget. -/
def Remains (attempt : Attempt) : Prop :=
  attempt.context.jobTry < attempt.context.policy.maxAttempts

theorem send_build (python : Interpreter) (settings : Settings) (exchange : Exchange)
    (message : NotificationMessage)
    : (buildNotificationDispatcher python settings exchange).send message
        =
      .ok (NotificationDispatcher.deliver
        ((api settings message.channel).provider python exchange) message) := by
  unfold NotificationDispatcher.send NotificationDispatcher.provider?
  cases message.channel with
  | telegram => rfl
  | bale => rfl

theorem delivery_eq (attempt : Attempt)
    : attempt.delivery
        =
      {
        attempt.context.classify attempt.job attempt.result
        with sent := [attempt.message]
      } := by
  rw [delivery, deliverNotification, attempt.reconstructs]
  dsimp only
  rw [attempt.dispatcher, send_build]
  rfl

theorem answerOf_result (attempt : Attempt) : answerOf attempt.result = attempt.read := by
  rw [result, answerOf_deliver]
  apply BotApi.sendAnswer_sendBotApiMessage

variable {attempt : Attempt}

theorem outcome_delivered (h : attempt.read = .delivered)
    : attempt.delivery.outcome = .returned "delivered" := by
  rw [← answerOf_result] at h
  rw [delivery_eq, Context.classify_delivered h]
  rfl

theorem isPermanent_rejected (h : attempt.read = .rejected)
    : attempt.delivery.outcome.isPermanent = true := by
  rw [← answerOf_result] at h
  rw [delivery_eq, Context.classify_rejected h]
  rfl

theorem isPermanent_exhausted (h : attempt.read = .retryable) (hlast : ¬attempt.Remains)
    : attempt.delivery.outcome.isPermanent = true := by
  rw [← answerOf_result] at h
  rw [delivery_eq, Context.classify_retryable h, if_pos (not_lt.mp hlast)]
  rfl

theorem outcome_retried (h : attempt.read = .retryable) (hremains : attempt.Remains)
    : attempt.delivery.outcome
        =
      .ofDelay (attempt.context.policy.delayFor (attempt.context.jobTry + 1)
        (retryAfterHint attempt.result.errorMessage)) := by
  rw [← answerOf_result] at h
  rw [delivery_eq, Context.classify_retryable h, if_neg (not_le.mpr hremains)]
  exact Context.outcome_retried _ _ _

end Attempt

def messageSent : Json :=
  .obj [(ofString "ok", .bool true),
    (ofString "result", .obj [(ofString "message_id", .int 1)])]

def redirectedSettings : Settings :=
  { Settings.defaults with telegramBotToken := some (ofString "token") }

def firstAttempt (exchange : Exchange) : Attempt where
  python := interpreter
  settings := redirectedSettings
  exchange := exchange
  payload := unconfiguredJob.toPayload
  job := unconfiguredJob
  message := unconfiguredMessage
  reconstructs := reconstruct_unconfiguredJob
  context := {
    dispatcher := buildNotificationDispatcher interpreter redirectedSettings exchange
    policy := redirectedSettings.retryPolicy
    jobId := []
    jobTry := 1
    started := 0
    finished := 0
  }
  dispatcher := rfl

theorem firstAttempt_remains (exchange : Exchange) : (firstAttempt exchange).Remains := by
  show (1 : Int) < 5
  decide

end Api
