import Ketabdaneh.Api.Notifications.Models
import Ketabdaneh.Library.Except
import Mathlib.Data.List.Nodup

namespace Api

open Python Text

structure NotificationResult where
  success : Bool
  channel : NotificationChannel
  externalMessageId : Option Str := none
  errorCode : Option Str := none
  errorMessage : Option Str := none

/-- What a provider raises; any exception that is none of the domain's counts as a crash. -/
inductive SendError where
  | providerUnavailable (message : Str)
  | notificationRejected (message errorCode : Str)
  | crash (typeName message : Str)

def providerUnavailableCode : Str :=
  ofString "provider_unavailable"

def providerErrorCode : Str :=
  ofString "provider_error"

def notificationRejectedCode : Str :=
  ofString "notification_rejected"

def SendError.rejected (message : Str) (errorCode : Option Str) : SendError :=
  match errorCode with
  | none => .notificationRejected message notificationRejectedCode
  | some [] => .notificationRejected message notificationRejectedCode
  | some code => .notificationRejected message code

structure NotificationProvider where
  channel : NotificationChannel
  send : NotificationMessage → Except SendError NotificationResult

structure NotificationDispatcher where
  providers : List NotificationProvider := []
  nodup : (providers.map NotificationProvider.channel).Nodup := by simp

namespace NotificationDispatcher

def register (dispatcher : NotificationDispatcher) (provider : NotificationProvider)
    : Except Str NotificationDispatcher :=
  if h : provider.channel ∈ dispatcher.providers.map NotificationProvider.channel then
    .error (ofString "A provider is already registered for channel: " ++ provider.channel.value)
  else
    .ok {
      providers := dispatcher.providers ++ [provider]
      nodup := by
        rw [List.map_append, List.map_singleton, ← List.concat_eq_append]
        exact List.Nodup.concat h dispatcher.nodup
    }

def ofProviders (providers : List NotificationProvider) : Except Str NotificationDispatcher :=
  providers.foldlM register {}

def provider? (dispatcher : NotificationDispatcher) (channel : NotificationChannel)
    : Option NotificationProvider :=
  dispatcher.providers.find? fun provider => provider.channel = channel

def hasProvider (dispatcher : NotificationDispatcher) (channel : NotificationChannel) : Bool :=
  (dispatcher.provider? channel).isSome

def deliver (provider : NotificationProvider) (message : NotificationMessage)
    : NotificationResult :=
  match provider.send message with
  | .ok result => result
  | .error (.providerUnavailable text) =>
    {
      success := false
      channel := message.channel
      errorCode := some providerUnavailableCode
      errorMessage := some text
    }
  | .error (.notificationRejected text errorCode) =>
    {
      success := false
      channel := message.channel
      errorCode := some errorCode
      errorMessage := some text
    }
  | .error (.crash typeName text) =>
    {
      success := false
      channel := message.channel
      errorCode := some providerErrorCode
      errorMessage := some (typeName ++ ofString ": " ++ text)
    }

/-- Deliver one notification; a channel without a provider is an error of its own. -/
def send (dispatcher : NotificationDispatcher) (message : NotificationMessage)
    : Except NotificationChannel NotificationResult :=
  match dispatcher.provider? message.channel with
  | none => .error message.channel
  | some provider => .ok (deliver provider message)

/-- How the providers behave at each send of a batch, which may differ from one to the next. -/
abbrev Behaviour :=
  Nat → NotificationChannel → NotificationMessage → Except SendError NotificationResult

/-- The dispatcher as its providers behave at one send. -/
def behaving (dispatcher : NotificationDispatcher) (behaviour : Behaviour) (time : Nat)
    : NotificationDispatcher where
  providers := dispatcher.providers.map fun provider =>
    { provider with send := behaviour time provider.channel }
  nodup := by
    rw [List.map_map]
    exact dispatcher.nodup

/-- What a provider was handed, in order, and what the caller is given. -/
structure Batch where
  sent : List NotificationMessage
  outcome : Except NotificationChannel (List NotificationResult)

/-- One message after the other; the first that is raised for ends it. -/
def sendMany (dispatcher : NotificationDispatcher) (behaviour : Behaviour) (time : Nat)
    : List NotificationMessage → Batch
  | [] => ⟨[], .ok []⟩
  | message :: messages =>
    match (dispatcher.behaving behaviour time).send message with
    | .error channel => ⟨[], .error channel⟩
    | .ok result =>
      let rest := dispatcher.sendMany behaviour (time + 1) messages
      ⟨message :: rest.sent, rest.outcome.map fun results => result :: results⟩

end NotificationDispatcher

end Api
