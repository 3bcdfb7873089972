import Ketabdaneh.Api.Worker.Jobs

namespace Api

open Python Text

def renderException (typeName message : Str) : Str :=
  typeName ++ ofString ": " ++ message

def jsonDefault : Value → Except EncodeError Str
  | .exception _ typeName message => .ok (renderException typeName message)
  | value =>
    .error (.typeError
      (ofString "Object of type " ++ value.typeName ++ ofString " is not JSON serializable"))

/-- The UTF-8 bytes of a JSON text, as the document they are read as. -/
structure JobBytes where
  document : Json
  encodable : document.encodable = true

def jsonJobSerializer (floatText : PyFloat → Str) (data : Value) : Except EncodeError JobBytes :=
  match Json.dumps floatText jsonDefault data with
  | .error error => .error error
  | .ok document =>
    if h : document.encodable = true then .ok ⟨document, h⟩ else .error .unicodeEncodeError

def jsonJobDeserializer (data : JobBytes) : Value :=
  Json.loads data.document

/-- How Redis meets one call: the class of the exception a step of it raises. -/
structure Redis where
  connect : Option String := none
  enqueue : Option String := none

structure BackgroundNotificationService where
  pool : Bool

inductive EnqueueError where
  | invalidNotification (error : InvalidNotificationError)
  | notificationQueue (message : String)

namespace BackgroundNotificationService

def getPool (service : BackgroundNotificationService) (redis : Redis)
    : Except EnqueueError BackgroundNotificationService :=
  if service.pool then
    .ok service
  else
    match redis.connect with
    | some name =>
      .error (.notificationQueue
        ("could not connect to Redis for notification enqueueing (" ++ name ++ ")"))
    | none => .ok ⟨true⟩

/-- What the pool does with a payload; arq raises its own error for a failing serializer. -/
def enqueueJob (floatText : PyFloat → Str) (redis : Redis) (payload : Value)
    : Except String JobBytes :=
  match jsonJobSerializer floatText payload with
  | .error _ => .error "SerializationError"
  | .ok bytes =>
    match redis.enqueue with
    | some name => .error name
    | none => .ok bytes

def enqueueNotification (floatText : PyFloat → Str) (redis : Redis)
    (service : BackgroundNotificationService) (channel address text category metadata : Value)
    : BackgroundNotificationService × Except EnqueueError (NotificationJob × JobBytes) :=
  let metadata := if metadata.truthy then metadata else .dict []
  match NotificationJob.new channel address text category metadata with
  | .error error => (service, .error (.invalidNotification error))
  | .ok job =>
    match service.getPool redis with
    | .error error => (service, .error error)
    | .ok service =>
      match enqueueJob floatText redis job.toPayload with
      | .error name =>
        -- the cached pool is dropped, so that the next call reconnects
        (⟨false⟩, .error (.notificationQueue
          ("could not enqueue notification job (" ++ name ++ ")")))
      | .ok bytes => (service, .ok (job, bytes))

end BackgroundNotificationService

end Api
