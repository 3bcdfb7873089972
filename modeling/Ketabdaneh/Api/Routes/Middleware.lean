import Ketabdaneh.Api.Core.Logging
import Ketabdaneh.Api.Core.Metrics
import Ketabdaneh.Library.Python.Uuid

namespace Api

open Asgi Python Text

def REQUEST_ID_HEADER : Str :=
  ofString "X-Request-ID"

def maxRequestIdLength : Nat :=
  64

/-- A character of the class `[A-Za-z0-9_.-]`. -/
def safeCharacter (c : CodePoint) : Bool :=
  isAlphanumeric c || c == cp '_' || c == cp '.' || c == cp '-'

/-- `^[A-Za-z0-9_.-]{1,64}$`, whose end may have a line feed after it. -/
def matchesSafeRequestId (s : Str) : Bool :=
  let id := s.takeWhile safeCharacter
  decide (1 ≤ id.length) && decide (id.length ≤ 64)
    && (s.drop id.length = [] || s.drop id.length = [cp '\n'])

/-- The client's id if it is acceptable, else the one `uuid4` gives. -/
def resolveRequestId (uuid4 : Fin (2 ^ 128)) (incoming : Option Str) : Str :=
  match incoming with
  | some value =>
    let candidate := strip value
    if candidate ≠ [] ∧ candidate.length ≤ maxRequestIdLength ∧ matchesSafeRequestId candidate then
      candidate
    else
      uuidHex uuid4
  | none => uuidHex uuid4

inductive Report where
  | observed (observation : Observation)
  | logged (record : LogRecord)

structure RequestLoggingMiddleware (Effect : Type) where
  app : Application Effect

/-- What a request finds: a fresh id, and the clock before and after it, in seconds. -/
structure Circumstances where
  uuid4 : Fin (2 ^ 128)
  started : Rat
  finished : Rat

namespace RequestLoggingMiddleware

variable {Effect : Type}

def requestId (circumstances : Circumstances) (scope : Scope) : Str :=
  resolveRequestId circumstances.uuid4 (Header.get? (ofString "x-request-id") scope.headers)

def withRequestId (requestId : Str) (scope : Scope) : Scope :=
  {
    scope with
    state := some (Json.setItem (scope.state.getD []) (ofString "request_id") (.str requestId))
  }

def sendWithRequestId (requestId : Str) : Message → Message
  | .start status headers =>
    .start status (headers ++ [⟨asciiLower REQUEST_ID_HEADER, requestId⟩])
  | message => message

def statusOf (statusCode : Int) : Message → Int
  | .start status _ => status
  | _ => statusCode

def durationMs (circumstances : Circumstances) : Rat :=
  (circumstances.finished - circumstances.started) * 1000

def requestLine (method path : Str) (statusCode : Int) (durationMs : Rat) (requestId : Str)
    : LogRecord where
  level := if statusCode ≥ 500 then .warning else .info
  message := "request: %s %s -> %d %.1fms request_id=%s"
  args := [.str method, .str path, .int statusCode, .float (.finite durationMs), .str requestId]

def finish (circumstances : Circumstances) (method path requestId : Str) (statusCode : Int)
    (ended : Ended) : Task (Effect ⊕ Report) Ended :=
  .emit (.inr (.observed (.httpRequestEnd method)))
    (.emit
      (.inr (.observed
        (.httpRequest method path ended.scope.route statusCode (durationMs circumstances / 1000))))
      (.emit
        (.inr (.logged (requestLine method path statusCode (durationMs circumstances) requestId)))
        (.done ended)))

def call (circumstances : Circumstances) (middleware : RequestLoggingMiddleware Effect)
    : Application (Effect ⊕ Report) :=
  fun scope =>
    if scope.type ≠ .http then
      (middleware.app scope).wrap .inl id (fun _ _ => ()) (fun _ ended => .done ended) ()
    else
      let requestId := requestId circumstances scope
      let method := scope.method.getD (ofString "?")
      let path := scope.path.getD (ofString "?")
      .emit (.inr (.observed (.httpRequestStart method)))
        -- the status is that of an error, until a response starts
        ((middleware.app (withRequestId requestId scope)).wrap .inl (sendWithRequestId requestId)
          statusOf (finish circumstances method path requestId) 500)

end RequestLoggingMiddleware

end Api
