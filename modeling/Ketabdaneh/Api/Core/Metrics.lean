import Ketabdaneh.Library.Asgi.Basic
import Ketabdaneh.Library.Prometheus
import Ketabdaneh.Library.Text.Decimal

namespace Api

open Asgi Prometheus Python Text

def JOB_COMPLETED : String := "completed"

def JOB_RETRIED : String := "retried"

def JOB_FAILED : String := "failed"

def NOTIF_SUCCESS : String := "success"

def NOTIF_REJECTED : String := "rejected"

def NOTIF_RETRYABLE : String := "retryable"

def NOTIF_FAILED : String := "failed"

def knownChannels : List Str :=
  [ofString "telegram", ofString "bale"]

def unmeteredPaths : List Str :=
  [ofString "/metrics", ofString "/api/health", ofString "/api/health/live",
    ofString "/api/health/ready"]

def unmatched : Str :=
  ofString "unmatched"

structure Metrics where
  httpRequestsTotal : Family Nat := .empty
  httpRequestDurationSeconds : Family (List Rat) := .empty
  httpRequestsInProgress : Family Int := .empty
  workerJobsTotal : Family Nat := .empty
  notificationDeliveryTotal : Family Nat := .empty
  notificationDeliveryDurationSeconds : Family (List Rat) := .empty

def safeChannel (channel : Str) : Str :=
  if channel ∈ knownChannels then channel else ofString "unknown"

def statusClass (statusCode : Int) : Str :=
  decimal (min (max (statusCode / 100) 1) 5).toNat ++ ofString "xx"

def routeLabel (routeTemplate : Option Route) : Str :=
  match routeTemplate.bind Route.path with
  | some (.str route) => if route = [] then unmatched else route
  | _ => unmatched

def observeHttpRequest (method rawPath : Str) (routeTemplate : Option Route) (statusCode : Int)
    (durationSeconds : Rat) (metrics : Metrics) : Metrics :=
  if rawPath ∈ unmeteredPaths then
    metrics
  else
    let route := routeLabel routeTemplate
    {
      metrics with
      httpRequestsTotal := inc [method, route, statusClass statusCode] metrics.httpRequestsTotal
      httpRequestDurationSeconds :=
        observe durationSeconds [method, route] metrics.httpRequestDurationSeconds
    }

def observeHttpRequestStart (method : Str) (metrics : Metrics) : Metrics :=
  { metrics with httpRequestsInProgress := add 1 [method] metrics.httpRequestsInProgress }

def observeHttpRequestEnd (method : Str) (metrics : Metrics) : Metrics :=
  { metrics with httpRequestsInProgress := add (-1) [method] metrics.httpRequestsInProgress }

def observeJob (function outcome : Str) (metrics : Metrics) : Metrics :=
  { metrics with workerJobsTotal := inc [function, outcome] metrics.workerJobsTotal }

def observeNotificationAttempt (channel outcome : Str) (durationSeconds : Option Rat)
    (metrics : Metrics) : Metrics :=
  let safe := safeChannel channel
  {
    metrics with
    notificationDeliveryTotal := inc [safe, outcome] metrics.notificationDeliveryTotal
    notificationDeliveryDurationSeconds :=
      match durationSeconds with
      | some seconds => observe seconds [safe] metrics.notificationDeliveryDurationSeconds
      | none => metrics.notificationDeliveryDurationSeconds
  }

/-- A call of one of the above, with its arguments. -/
inductive Observation where
  | httpRequest (method rawPath : Str) (routeTemplate : Option Route) (statusCode : Int)
    (durationSeconds : Rat)
  | httpRequestStart (method : Str)
  | httpRequestEnd (method : Str)
  | job (function outcome : Str)
  | notificationAttempt (channel outcome : Str) (durationSeconds : Option Rat)

def Observation.record (metrics : Metrics) : Observation → Metrics
  | .httpRequest method rawPath routeTemplate statusCode durationSeconds =>
    observeHttpRequest method rawPath routeTemplate statusCode durationSeconds metrics
  | .httpRequestStart method => observeHttpRequestStart method metrics
  | .httpRequestEnd method => observeHttpRequestEnd method metrics
  | .job function outcome => observeJob function outcome metrics
  | .notificationAttempt channel outcome durationSeconds =>
    observeNotificationAttempt channel outcome durationSeconds metrics

end Api
