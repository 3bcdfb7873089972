import Ketabdaneh.Api.Notifications.Dispatcher
import Ketabdaneh.Library.Python.JsonText

namespace Api

open Python Text

/-- What comes of the one request of a send: the client's exception, or a response. -/
inductive Exchange where
  | timeout
  | requestError
  /-- Any other exception of the client. -/
  | raises (typeName message : Str)
  | response (status : Nat) (body : JsonText)

def UNEXPECTED_RESPONSE : Str :=
  ofString "returned an unexpected response"

def member? (value : Value) (key : String) : Option Value :=
  match value with
  | .dict items => Value.get? items (ofString key)
  | _ => none

def envelopeDescription (body : Value) : Option Str :=
  match member? body "description" with
  | some (.str description) => if description = [] then none else some description
  | _ => none

/-- The provider's suggested wait, as it is shown, when present; a bool is an integer too. -/
def retryAfter (body : Value) : Option Str :=
  match (member? body "parameters").bind fun parameters => member? parameters "retry_after" with
  | some (.int n) => some (Json.intText n)
  | some (.bool b) => some (ofString (if b then "True" else "False"))
  | _ => none

def messageId (body : Value) : Option Value :=
  match (member? body "result").bind fun result => member? result "message_id" with
  | some .None => none
  | found => found

def sentMessageId (body : Value) : Option Value :=
  match member? body "ok" with
  | some (.bool true) => messageId body
  | _ => none

structure BotApi where
  botToken : Option Str
  channel : NotificationChannel
  providerName : Str
  maxTextLength : Nat
  timeoutSeconds : Str

namespace BotApi

variable (python : Interpreter)

def readResponse (api : BotApi) (status : Nat) (body : Value)
    : Except SendError NotificationResult :=
  if status = 429 then
    let suffix :=
      match retryAfter body with
      | some wait => ofString " (retry after " ++ wait ++ ofString "s)"
      | none => []
    .error (.providerUnavailable (api.providerName ++ ofString " rate limit exceeded" ++ suffix))
  else if status ≥ 500 then
    .error (.providerUnavailable
      (api.providerName ++ ofString " server error (HTTP " ++ decimal status ++ ofString ")"))
  else if status = 401 then
    .error (.providerUnavailable
      (api.providerName ++ ofString " rejected the bot token (HTTP 401)"))
  else if status ≥ 400 then
    let detail :=
      match envelopeDescription body with
      | some description => ofString ": " ++ description
      | none => ofString " (HTTP " ++ decimal status ++ ofString ")"
    .error (.rejected (api.providerName ++ ofString " rejected the notification" ++ detail) none)
  else
    -- every status below 400 is taken for a success
    match sentMessageId body with
    | none =>
      .error (.providerUnavailable (api.providerName ++ ofString " " ++ UNEXPECTED_RESPONSE))
    | some id =>
      .ok { success := true, channel := api.channel, externalMessageId := some (python.str id) }

def sendBotApiMessage (api : BotApi) (exchange : Exchange) (message : NotificationMessage)
    : Except SendError NotificationResult :=
  if api.botToken.getD [] = [] then
    .error (.providerUnavailable
      (api.providerName ++ ofString (" provider is not configured: no bot token was provided "
        ++ "(see TELEGRAM_BOT_TOKEN/BALE_BOT_TOKEN in .env.example)")))
  else if message.text.length > api.maxTextLength then
    .error (.rejected
      (ofString "message text exceeds the " ++ api.providerName ++ ofString " limit of "
        ++ decimal api.maxTextLength ++ ofString " characters ("
        ++ decimal message.text.length ++ ofString " given); chunking is not implemented")
      (some (ofString "message_too_long")))
  else
    match exchange with
    | .timeout =>
      .error (.providerUnavailable
        (api.providerName ++ ofString " request timed out after " ++ api.timeoutSeconds
          ++ ofString "s"))
    | .requestError =>
      .error (.providerUnavailable (api.providerName ++ ofString " could not be reached"))
    | .raises typeName text => .error (.crash typeName text)
    | .response status body =>
      match body.loads python.frames with
      | .ok value => api.readResponse python status value
      | .error .valueError => api.readResponse python status .None
      | .error (.recursionError container) =>
        -- which is no `ValueError`
        .error (.crash (ofString "RecursionError") (LoadsError.recursionMessage container))

def provider (api : BotApi) (exchange : Exchange) : NotificationProvider where
  channel := api.channel
  send := api.sendBotApiMessage python exchange

end BotApi

def telegram (botToken : Option Str) (timeoutSeconds : Str) : BotApi where
  botToken
  channel := .telegram
  providerName := ofString "Telegram"
  maxTextLength := 4096
  timeoutSeconds

def bale (botToken : Option Str) (timeoutSeconds : Str) : BotApi where
  botToken
  channel := .bale
  providerName := ofString "Bale"
  maxTextLength := 4096
  timeoutSeconds

end Api
