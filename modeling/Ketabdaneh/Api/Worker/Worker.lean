import Ketabdaneh.Api.Core.Logging
import Ketabdaneh.Api.Core.Metrics
import Ketabdaneh.Api.Notifications.BotApi
import Ketabdaneh.Api.Worker.Jobs
import Ketabdaneh.Api.Worker.Retry
import Ketabdaneh.Library.Python.TimeDelta

namespace Api

open Python Text

def matchRetryAfter (s : Str) : Option Nat :=
  if (ofString "(retry after ").isPrefixOf s then
    let rest := s.drop (ofString "(retry after ").length
    let digits := rest.takeWhile fun c => (unicodeDigit c).isSome
    if digits ≠ [] ∧ (ofString "s)").isPrefixOf (rest.drop digits.length) then
      some (digits.foldl (fun n c => 10 * n + (unicodeDigit c).getD 0) 0)
    else
      none
  else
    none

def retryAfterHint (errorMessage : Option Str) : Option PyFloat :=
  errorMessage.bind fun message => (message.tails.findSome? matchRetryAfter).map PyFloat.ofNat

inductive Outcome where
  | returned (status : String)
  | retry (defer : Rat)
  | permanentNotificationFailure (message : Str)
  | unsupportedChannel (channel : NotificationChannel)
  -- of the delay, or of the `Retry` with it
  | floatError (error : FloatError)
  deriving DecidableEq

/-- Of `raise Retry(defer=delay)`: a `Retry` holds a `timedelta`, which not every delay makes. -/
def Outcome.ofDelay (delay : Except FloatError PyFloat) : Outcome :=
  match delay.bind Python.timedelta with
  | .ok defer => .retry defer
  | .error error => .floatError error

/-- One call of `deliver_notification`: its end, and what it sends, logs and observes. -/
structure Delivery where
  outcome : Outcome
  sent : List NotificationMessage := []
  logs : List LogRecord := []
  /-- The outcomes observed under the name of the function. -/
  jobs : List String := []
  /-- The channels, outcomes and durations observed. -/
  attempts : List (Str × String × Rat) := []

def Delivery.observations (delivery : Delivery) : List Observation :=
  delivery.jobs.map (fun outcome => .job (ofString DELIVER_FUNCTION_NAME) (ofString outcome))
    ++ delivery.attempts.map fun attempt =>
      .notificationAttempt attempt.1 (ofString attempt.2.1) (some attempt.2.2)

structure Context where
  dispatcher : NotificationDispatcher
  policy : RetryPolicy
  jobId : Str
  jobTry : Int
  /-- The clock before and after the delivery, in seconds. -/
  started : Rat
  finished : Rat

/-- Both providers are always registered; an attempt has one exchange with the one it uses. -/
def buildNotificationDispatcher (python : Interpreter) (settings : Settings) (exchange : Exchange)
    : NotificationDispatcher where
  providers := [
    (telegram settings.telegramBotToken settings.notificationTimeoutSeconds).provider python exchange,
    (bale settings.baleBotToken settings.notificationTimeoutSeconds).provider python exchange]
  nodup := by simp [BotApi.provider, telegram, bale]

def rejects (errorCode : Option Str) : Bool :=
  match errorCode with
  | none => false
  | some code =>
    code = notificationRejectedCode
      || (code ≠ [] && code ≠ providerUnavailableCode && code ≠ providerErrorCode)

def reconstruct (payload : Value) : Except Str (NotificationJob × NotificationMessage) :=
  match NotificationJob.fromPayload payload with
  | .error _ => .error (ofString "InvalidNotificationError")
  | .ok job =>
    match job.toMessage with
    | .error (.unknownChannel _) => .error (ofString "ValueError")
    | .error (.invalid _) => .error (ofString "InvalidNotificationError")
    | .ok message => .ok (job, message)

namespace Context

def durationMs (ctx : Context) : Rat :=
  (ctx.finished - ctx.started) * 1000

def observation (ctx : Context) (job : NotificationJob) (outcome : String) : Str × String × Rat :=
  (job.channel, outcome, ctx.durationMs / 1000)

def delivered (ctx : Context) (job : NotificationJob) (result : NotificationResult) : Delivery where
  outcome := .returned "delivered"
  logs := [{
    level := .info
    message := "notification delivered: channel=%s category=%s external_id=%s job_id=%s duration_ms=%.0f"
    args := [.str job.channel, .str job.category,
      .str (result.externalMessageId.getD (ofString "None")), .str ctx.jobId,
      .float (.finite ctx.durationMs)]
  }]
  jobs := [JOB_COMPLETED]
  attempts := [ctx.observation job NOTIF_SUCCESS]

def rejected (ctx : Context) (job : NotificationJob) (errorCode : Str) : Delivery where
  outcome := .permanentNotificationFailure
    (ofString "provider rejected the notification (" ++ errorCode ++ ofString ")")
  logs := [{
    level := .warning
    message := "notification permanently rejected: channel=%s category=%s error_code=%s job_id=%s duration_ms=%.0f"
    args := [.str job.channel, .str job.category, .str errorCode, .str ctx.jobId,
      .float (.finite ctx.durationMs)]
  }]
  jobs := [JOB_FAILED]
  attempts := [ctx.observation job NOTIF_REJECTED]

def exhausted (ctx : Context) (job : NotificationJob) (errorCode : Option Str) : Delivery where
  outcome := .permanentNotificationFailure
    (ofString "delivery failed after " ++ Json.intText ctx.jobTry ++ ofString " attempts ("
      ++ (if errorCode.getD [] = [] then ofString "unknown error" else errorCode.getD [])
      ++ ofString ")")
  logs := [{
    level := .error
    message := "notification delivery failed permanently after %d attempts: channel=%s category=%s error_code=%s job_id=%s"
    args := [.int ctx.jobTry, .str job.channel, .str job.category,
      .str (errorCode.getD (ofString "None")), .str ctx.jobId]
  }]
  jobs := [JOB_FAILED]
  attempts := [ctx.observation job NOTIF_FAILED]

def retried (ctx : Context) (job : NotificationJob) (result : NotificationResult) : Delivery :=
  match ctx.policy.delayFor (ctx.jobTry + 1) (retryAfterHint result.errorMessage) with
  | .error error => { outcome := .floatError error }
  | .ok delay =>
    {
      outcome := .ofDelay (.ok delay)
      logs := [{
        level := .info
        message := "notification attempt %d/%d failed (error_code=%s) — retrying in %.1fs: channel=%s category=%s job_id=%s"
        args := [.int ctx.jobTry, .int ctx.policy.maxAttempts,
          .str (result.errorCode.getD (ofString "None")), .float delay, .str job.channel,
          .str job.category, .str ctx.jobId]
      }]
      jobs := [JOB_RETRIED]
      attempts := [ctx.observation job NOTIF_RETRYABLE]
    }

def classify (ctx : Context) (job : NotificationJob) (result : NotificationResult) : Delivery :=
  if result.success then
    ctx.delivered job result
  else if rejects result.errorCode then
    ctx.rejected job (result.errorCode.getD [])
  else if ctx.jobTry ≥ ctx.policy.maxAttempts then
    ctx.exhausted job result.errorCode
  else
    ctx.retried job result

end Context

def deliverNotification (ctx : Context) (payload : Value) : Delivery :=
  match reconstruct payload with
  | .error name =>
    {
      outcome := .permanentNotificationFailure
        (ofString "invalid job payload (" ++ name ++ ofString ")")
      logs := [{
        level := .error
        message := "notification job payload is invalid: job_id=%s (%s)"
        args := [.str ctx.jobId, .str name]
      }]
      jobs := [JOB_FAILED]
    }
  | .ok (job, message) =>
    match ctx.dispatcher.send message with
    | .error channel => { outcome := .unsupportedChannel channel }
    | .ok result => { ctx.classify job result with sent := [message] }

namespace WorkerSettings

def maxTries : Nat :=
  25

end WorkerSettings

/-- How a job leaves the queue. -/
inductive JobEnd where
  /-- By the outcome of its last call. -/
  | ended (outcome : Outcome)
  /-- Without another call, as its tries exceed the framework's bound. -/
  | maxTries
  deriving DecidableEq

def runTries (call : Nat → Delivery) : Nat → Nat → List Delivery × JobEnd
  | 0, _ => ([], .maxTries)
  | left + 1, jobTry =>
    let delivery := call jobTry
    match delivery.outcome with
    | .retry _ =>
      let rest := runTries call left (jobTry + 1)
      (delivery :: rest.1, rest.2)
    | outcome => ([delivery], .ended outcome)

def runJob (call : Nat → Delivery) : List Delivery × JobEnd :=
  runTries call WorkerSettings.maxTries 1

end Api
