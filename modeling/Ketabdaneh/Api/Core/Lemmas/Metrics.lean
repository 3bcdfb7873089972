import Ketabdaneh.Api.Core.Metrics
import Mathlib.Data.List.Sections

namespace Api

open Asgi Prometheus Python Text

inductive Metric where
  | httpRequestsTotal
  | httpRequestDurationSeconds
  | httpRequestsInProgress
  | workerJobsTotal
  | notificationDeliveryTotal
  | notificationDeliveryDurationSeconds
  deriving DecidableEq

/-- The label tuples of a metric there is a time series for. -/
def Metrics.series (metrics : Metrics) : Metric → List (List Str)
  | .httpRequestsTotal => metrics.httpRequestsTotal.series
  | .httpRequestDurationSeconds => metrics.httpRequestDurationSeconds.series
  | .httpRequestsInProgress => metrics.httpRequestsInProgress.series
  | .workerJobsTotal => metrics.workerJobsTotal.series
  | .notificationDeliveryTotal => metrics.notificationDeliveryTotal.series
  | .notificationDeliveryDurationSeconds => metrics.notificationDeliveryDurationSeconds.series

/-- The value of a counter or a gauge under these labels, or how much a histogram has observed. -/
def Metrics.amount (metrics : Metrics) (tuple : List Str) : Metric → Int
  | .httpRequestsTotal => (metrics.httpRequestsTotal.value 0 tuple : Nat)
  | .httpRequestDurationSeconds => (metrics.httpRequestDurationSeconds.value [] tuple).length
  | .httpRequestsInProgress => metrics.httpRequestsInProgress.value 0 tuple
  | .workerJobsTotal => (metrics.workerJobsTotal.value 0 tuple : Nat)
  | .notificationDeliveryTotal => (metrics.notificationDeliveryTotal.value 0 tuple : Nat)
  | .notificationDeliveryDurationSeconds =>
    (metrics.notificationDeliveryDurationSeconds.value [] tuple).length

namespace Observation

/-- The label tuples an observation asks a metric for. -/
def labels : Observation → Metric → List (List Str)
  | .httpRequest method rawPath routeTemplate statusCode _, .httpRequestsTotal =>
    if rawPath ∈ unmeteredPaths then []
    else [[method, routeLabel routeTemplate, statusClass statusCode]]
  | .httpRequest method rawPath routeTemplate _ _, .httpRequestDurationSeconds =>
    if rawPath ∈ unmeteredPaths then [] else [[method, routeLabel routeTemplate]]
  | .httpRequestStart method, .httpRequestsInProgress => [[method]]
  | .httpRequestEnd method, .httpRequestsInProgress => [[method]]
  | .job function outcome, .workerJobsTotal => [[function, outcome]]
  | .notificationAttempt channel outcome _, .notificationDeliveryTotal =>
    [[safeChannel channel, outcome]]
  | .notificationAttempt channel _ (some _), .notificationDeliveryDurationSeconds =>
    [[safeChannel channel]]
  | _, _ => []

theorem labels_httpRequestEnd (method : Str)
    : (httpRequestEnd method).labels = (httpRequestStart method).labels := by
  funext metric
  cases metric <;> rfl

variable {metrics : Metrics} {metric : Metric} {tuple : List Str}

/-- An observation makes the series it asks for, and removes none. -/
theorem mem_series_record (observation : Observation)
    : tuple ∈ (observation.record metrics).series metric
        ↔
      tuple ∈ metrics.series metric ∨ tuple ∈ observation.labels metric := by
  cases observation with
  | httpRequest method rawPath routeTemplate statusCode durationSeconds =>
    rw [record, observeHttpRequest]
    split
    . next h => cases metric <;> simp [labels, h]
    . next h => cases metric <;> simp [labels, h, Metrics.series, inc, observe]
  | httpRequestStart method =>
    cases metric <;> simp [labels, record, observeHttpRequestStart, Metrics.series, add]
  | httpRequestEnd method =>
    cases metric <;> simp [labels, record, observeHttpRequestEnd, Metrics.series, add]
  | job function outcome =>
    cases metric <;> simp [labels, record, observeJob, Metrics.series, inc]
  | notificationAttempt channel outcome durationSeconds =>
    cases durationSeconds <;> cases metric <;>
      simp [labels, record, observeNotificationAttempt, Metrics.series, inc, observe]

theorem mem_series_foldl (observations : List Observation)
    : tuple ∈ (observations.foldl record metrics).series metric
        ↔
      tuple ∈ metrics.series metric ∨ ∃ o ∈ observations, tuple ∈ o.labels metric := by
  induction observations generalizing metrics with
  | nil => simp
  | cons observation observations ih =>
    rw [List.foldl_cons, ih, mem_series_record, or_assoc]
    simp only [List.mem_cons, exists_eq_or_imp]

/-- What an observation adds to a metric under these labels. -/
def change (tuple : List Str) (metric : Metric) (observation : Observation) : Int :=
  match observation with
  | .httpRequestEnd _ => -((observation.labels metric).count tuple : Nat)
  | _ => ((observation.labels metric).count tuple : Nat)

theorem amount_record (observation : Observation)
    : (observation.record metrics).amount tuple metric
        =
      metrics.amount tuple metric + observation.change tuple metric := by
  cases observation with
  | httpRequest method rawPath routeTemplate statusCode durationSeconds =>
    rw [record, observeHttpRequest]
    split
    . next h => cases metric <;> simp [change, labels, h]
    . next h =>
      cases metric <;> simp [change, labels, h, Metrics.amount, value_inc, length_value_observe]
  | httpRequestStart method =>
    cases metric <;>
      simp [change, labels, record, observeHttpRequestStart, Metrics.amount, value_add]
  | httpRequestEnd method =>
    cases metric <;> simp [change, labels, record, observeHttpRequestEnd, Metrics.amount, value_add]
  | job function outcome =>
    cases metric <;> simp [change, labels, record, observeJob, Metrics.amount, value_inc]
  | notificationAttempt channel outcome durationSeconds =>
    cases durationSeconds <;> cases metric <;>
      simp [change, labels, record, observeNotificationAttempt, Metrics.amount, value_inc,
        length_value_observe]

theorem amount_foldl (observations : List Observation)
    : (observations.foldl record metrics).amount tuple metric
        =
      metrics.amount tuple metric + (observations.map (change tuple metric)).sum := by
  induction observations generalizing metrics with
  | nil => simp
  | cons observation observations ih =>
    rw [List.foldl_cons, ih, amount_record, List.map_cons, List.sum_cons, add_assoc]

end Observation

theorem sum_map_ite {α : Type} (p : α → Bool) (l : List α)
    : (l.map fun a => if p a then (1 : Int) else 0).sum = l.countP p := by
  induction l with
  | nil => rfl
  | cons a l ih =>
    rw [List.map_cons, List.sum_cons, ih, List.countP_cons]
    split
    . rw [Nat.cast_add, Nat.cast_one, add_comm]
    . rw [zero_add, add_zero]

def statusClasses : List Str :=
  [ofString "1xx", ofString "2xx", ofString "3xx", ofString "4xx", ofString "5xx"]

theorem statusClass_mem (statusCode : Int) : statusClass statusCode ∈ statusClasses := by
  unfold statusClass
  generalize hclass : (min (max (statusCode / 100) 1) 5).toNat = n
  have hlower : 1 ≤ n := by omega
  have hupper : n ≤ 5 := by omega
  interval_cases n <;> decide

theorem safeChannel_mem (channel : Str) : safeChannel channel ∈ ofString "unknown" :: knownChannels := by
  unfold safeChannel
  split
  . next h => exact List.mem_cons_of_mem _ h
  . apply List.mem_cons_self

end Api
