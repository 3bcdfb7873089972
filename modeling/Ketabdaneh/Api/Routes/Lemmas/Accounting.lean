import Ketabdaneh.Api.Core.Lemmas.Metrics
import Ketabdaneh.Api.Routes.Lemmas.Middleware
import Ketabdaneh.Library.Asgi.Loop

/-!
This module contains what the metrics come to of requests that are answered at the same time.
-/

namespace Api

open Asgi Prometheus Python RequestLoggingMiddleware Text

variable {Effect : Type}

/-- A request that gets to the middleware, and what is inside of it. -/
structure Arrival (Effect : Type) where
  circumstances : Circumstances
  router : Application Effect
  request : Request

def Arrival.task (arrival : Arrival Effect) : Task (Effect ⊕ Report) Ended :=
  (RequestLoggingMiddleware.mk arrival.router).call arrival.circumstances arrival.request.scope

abbrev Answering (Effect : Type) :=
  Started (Arrival Effect) Effect Report Ended

abbrev Answers (Effect : Type) :=
  Loop (Arrival Effect) Effect Report Ended

def metricsOf (answers : Answers Effect) : Metrics :=
  (answers.reports.filterMap Report.observation?).foldl Observation.record {}

/-- The status of a response that is handed to the server, and its answer. -/
def start? : Asgi.Event Effect → Option (Int × Option Raised)
  | .sent (.start status _) answer => some (status, answer)
  | _ => none

/-- The status of the response that was handed over last, and that of an error where none was. -/
def lastStatus (events : List (Asgi.Event Effect)) : Int :=
  ((events.filterMap start?).getLast?.map Prod.fst).getD 500

/-- The status of the response that has actually started. -/
def startedStatus? (events : List (Asgi.Event Effect)) : Option Int :=
  ((events.filterMap start?).find? fun start => start.2 = none).map Prod.fst

/-- The server takes the one response that it is handed, if it is handed any. -/
def Orderly (events : List (Asgi.Event Effect)) : Prop :=
  events.filterMap start? = [] ∨ ∃ status, events.filterMap start? = [(status, none)]

namespace Answering

def inside (answering : Answering Effect) (method : Str) : Bool :=
  answering.result?.isNone && answering.key.request.method = method

/-- What a request that has finished is recorded as, unless its path is not metered. -/
def recordedAs (answering : Answering Effect) : Option (Str × Str × Str) :=
  match answering.result? with
  | some ended =>
    if answering.key.request.path ∈ unmeteredPaths then
      none
    else
      some (answering.key.request.method, routeLabel ended.scope.route,
        statusClass (lastStatus answering.events))
  | none => none

end Answering

theorem lastStatus_concat (events : List (Asgi.Event Effect)) (event : Asgi.Event Effect)
    : lastStatus (events ++ [event])
        =
      match event with
      | .sent message _ => statusOf (lastStatus events) message
      | .emitted _ => lastStatus events := by
  unfold lastStatus
  rw [List.filterMap_append]
  cases event with
  | emitted effect => simp [start?]
  | sent message answer =>
    cases message with
    | start status headers => simp [start?, statusOf]
    | body content more => simp [start?, statusOf]

theorem lastStatus_of_orderly {events : List (Asgi.Event Effect)} (h : Orderly events)
    : lastStatus events = (startedStatus? events).getD 500 := by
  unfold lastStatus startedStatus?
  rcases h with h | ⟨status, h⟩
  . rw [h]
    rfl
  . rw [h]
    rfl

theorem statusOf_sendWithRequestId (noted : Int) (requestId : Str) (message : Message)
    : statusOf noted (sendWithRequestId requestId message) = statusOf noted message := by
  cases message with
  | start status headers => rfl
  | body content more => rfl

namespace Arrival

variable (arrival : Arrival Effect)

def correlationId : Str :=
  requestId arrival.circumstances arrival.request.scope

/-- What is left of the request when this is left of what is inside of the middleware. -/
def wrapped (noted : Int) (rest : Task Effect Ended) : Task (Effect ⊕ Report) Ended :=
  rest.wrap .inl (sendWithRequestId arrival.correlationId) statusOf
    (finish arrival.circumstances arrival.request.method arrival.request.path arrival.correlationId)
    noted

def startReports : List Report :=
  [.observed (.httpRequestStart arrival.request.method)]

def endReports (noted : Int) (ended : Ended) : List Report :=
  [.observed (.httpRequestEnd arrival.request.method),
    .observed (.httpRequest arrival.request.method arrival.request.path ended.scope.route noted
      (durationMs arrival.circumstances / 1000)),
    .logged (requestLine arrival.request.method arrival.request.path noted
      (durationMs arrival.circumstances) arrival.correlationId)]

theorem task_eq
    : arrival.task
        =
      .emit (.inr (.observed (.httpRequestStart arrival.request.method)))
        (arrival.wrapped 500 (arrival.router (withRequestId arrival.correlationId
          arrival.request.scope))) := by
  have htype : ¬arrival.request.scope.type ≠ .http := by
    simp [Request.scope]
  unfold task call
  rw [if_neg htype]
  rfl

end Arrival

/-- Where a request that is answered stands, and what it has reported. -/
inductive Accounted (answering : Answering Effect) : Prop where
  | waits {rest : Task Effect Ended} (hrest : ∀ ended, rest ≠ .done ended)
      (htask : answering.task = answering.key.wrapped (lastStatus answering.events) rest)
      (hreports : answering.reports = answering.key.startReports)
  | ended {ended : Ended} (htask : answering.task = .done ended)
      (hreports : answering.reports = answering.key.startReports
        ++ answering.key.endReports (lastStatus answering.events) ended)

theorem accounted_of_wrapped {answering : Answering Effect} {rest : Task Effect Ended}
    (htask : answering.task = answering.key.wrapped (lastStatus answering.events) rest)
    (hreports : answering.reports = answering.key.startReports)
    : Accounted answering.settle := by
  cases rest with
  | done ended =>
    apply @Accounted.ended _ _ ended
    . rw [Started.settle, htask]
      rfl
    . rw [Started.settle, htask, hreports]
      rfl
  | emit effect rest =>
    apply @Accounted.waits _ _ (.emit effect rest) (by simp)
    . rw [Started.settle, htask]
      rfl
    . rw [Started.settle, htask, hreports]
      rfl
  | send message next =>
    apply @Accounted.waits _ _ (.send message next) (by simp)
    . rw [Started.settle, htask]
      rfl
    . rw [Started.settle, htask, hreports]
      rfl

theorem accounted_start (arrival : Arrival Effect)
    : Accounted (Started.settle { key := arrival, task := arrival.task } : Answering Effect) := by
  have hsettle : (Started.settle { key := arrival, task := arrival.task } : Answering Effect)
      = Started.settle {
          key := arrival
          reports := arrival.startReports
          task := arrival.wrapped 500 (arrival.router (withRequestId arrival.correlationId
            arrival.request.scope))
        } := by
    rw [Started.settle, Arrival.task_eq]
    rfl
  rw [hsettle]
  apply accounted_of_wrapped
  . rfl
  . rfl

theorem accounted_proceed {answering next : Answering Effect} {answer : Option Raised}
    (h : Accounted answering) (hnext : answering.proceed answer = some next) : Accounted next := by
  cases h with
  | ended htask _ =>
    rw [Started.proceed, htask] at hnext
    injection hnext
  | @waits rest hrest htask hreports =>
    cases rest with
    | done ended => exact absurd rfl (hrest ended)
    | emit effect rest =>
      rw [Started.proceed, htask] at hnext
      injection hnext with hnext
      rw [← hnext]
      apply @accounted_of_wrapped _ _ rest
      . dsimp only
        rw [lastStatus_concat]
        rfl
      . exact hreports
    | send message next' =>
      rw [Started.proceed, htask] at hnext
      injection hnext with hnext
      rw [← hnext]
      apply @accounted_of_wrapped _ _ (next' answer)
      . dsimp only
        rw [lastStatus_concat]
        dsimp only
        rw [statusOf_sendWithRequestId]
        rfl
      . exact hreports

theorem result?_of_waits {answering : Answering Effect} {rest : Task Effect Ended}
    (hrest : ∀ ended, rest ≠ .done ended)
    (htask : answering.task = answering.key.wrapped (lastStatus answering.events) rest)
    : answering.result? = none := by
  unfold Started.result?
  rw [htask]
  cases rest with
  | done ended => exact absurd rfl (hrest ended)
  | emit effect rest => rfl
  | send message next => rfl

def Answering.observations (answering : Answering Effect) : List Observation :=
  answering.reports.filterMap Report.observation?

theorem observations_of_accounted {answering : Answering Effect} (h : Accounted answering)
    : answering.observations
        =
      .httpRequestStart answering.key.request.method
        :: match answering.result? with
          | none => []
          | some ended =>
            [.httpRequestEnd answering.key.request.method,
              .httpRequest answering.key.request.method answering.key.request.path
                ended.scope.route (lastStatus answering.events)
                (durationMs answering.key.circumstances / 1000)] := by
  unfold Answering.observations
  cases h with
  | waits hrest htask hreports =>
    rw [hreports, result?_of_waits hrest htask]
    rfl
  | ended htask hreports =>
    rw [hreports, Started.result?, htask]
    rfl

/-- What a request has added to a metric. -/
def Answering.added (tuple : List Str) (metric : Metric) (answering : Answering Effect) : Int :=
  (answering.observations.map (Observation.change tuple metric)).sum

section

variable {answering : Answering Effect} {method route class' : Str}

theorem added_inProgress (h : Accounted answering)
    : answering.added [method] .httpRequestsInProgress
        =
      if answering.inside method then 1 else 0 := by
  unfold Answering.added Answering.inside
  rw [observations_of_accounted h]
  cases answering.result? with
  | none => simp [Observation.change, Observation.labels, List.count_singleton]
  | some ended => simp [Observation.change, Observation.labels]

theorem added_total (h : Accounted answering)
    : answering.added [method, route, class'] .httpRequestsTotal
        =
      if answering.recordedAs = some (method, route, class') then 1 else 0 := by
  unfold Answering.added Answering.recordedAs
  rw [observations_of_accounted h]
  cases answering.result? with
  | none => simp [Observation.change, Observation.labels]
  | some ended =>
    dsimp only
    split
    . next hpath => simp [Observation.change, Observation.labels, hpath]
    . next hpath => simp [Observation.change, Observation.labels, hpath, List.count_singleton]

theorem added_duration (h : Accounted answering)
    : answering.added [method, route] .httpRequestDurationSeconds
        =
      if answering.recordedAs.map (fun labels => (labels.1, labels.2.1)) = some (method, route) then 1
      else 0 := by
  unfold Answering.added Answering.recordedAs
  rw [observations_of_accounted h]
  cases answering.result? with
  | none => simp [Observation.change, Observation.labels]
  | some ended =>
    dsimp only
    split
    . next hpath => simp [Observation.change, Observation.labels, hpath]
    . next hpath => simp [Observation.change, Observation.labels, hpath, List.count_singleton]

end

section

variable {turns : List (Turn (Arrival Effect))} {answers : Answers Effect}

theorem accounted_of_run (h : Transition.run (Loop.step Arrival.task) {} turns = some answers)
    : ∀ answering ∈ answers.tasks, Accounted answering := by
  apply Loop.forall_tasks accounted_start _ h
  intro answering answer next haccounted hnext
  exact accounted_proceed haccounted hnext

/-- What the metrics come to is what the requests add to them, each for itself. -/
theorem amount_metricsOf (h : Transition.run (Loop.step Arrival.task) {} turns = some answers)
    (tuple : List Str) (metric : Metric)
    : (metricsOf answers).amount tuple metric
        =
      (answers.tasks.map (Answering.added tuple metric)).sum := by
  have hempty : ({} : Metrics).amount tuple metric = 0 := by
    cases metric <;> rfl
  have hperm := ((Loop.reports_perm h).filterMap Report.observation?).map
    (Observation.change tuple metric)
  rw [metricsOf, Observation.amount_foldl, hempty, zero_add, hperm.sum_eq, List.filterMap_flatMap,
    List.map_flatMap, List.flatMap_def, List.sum_flatten, List.map_map]
  rfl

theorem countP_of_added (tuple : List Str) (metric : Metric) (p : Answering Effect → Bool)
    (h : Transition.run (Loop.step Arrival.task) {} turns = some answers)
    (hadded : ∀ answering, Accounted answering →
      answering.added tuple metric = if p answering then 1 else 0)
    : (metricsOf answers).amount tuple metric = answers.tasks.countP p := by
  rw [amount_metricsOf h, ← sum_map_ite]
  congr 1
  apply List.map_congr_left
  intro answering hmem
  exact hadded answering (accounted_of_run h answering hmem)

/--
At every point, whatever the order in which the requests go on: the gauge of a method is the number
of its requests that are inside; the counter and the histogram have counted each request that has
finished once, and none whose path is not metered; and the status it is counted under is that of the
response that has started, where the server takes the one it is handed.
-/
theorem requests_accounted (h : Transition.run (Loop.step Arrival.task) {} turns = some answers)
    : (∀ method, (metricsOf answers).httpRequestsInProgress.value 0 [method]
          = answers.tasks.countP fun answering : Answering Effect => answering.inside method)
        ∧ (∀ method route class', (metricsOf answers).httpRequestsTotal.value 0 [method, route, class']
          = answers.tasks.countP fun answering : Answering Effect =>
            answering.recordedAs = some (method, route, class'))
        ∧ (∀ method route,
          ((metricsOf answers).httpRequestDurationSeconds.value [] [method, route]).length
            = answers.tasks.countP fun answering : Answering Effect =>
              answering.recordedAs.map (fun labels => (labels.1, labels.2.1)) = some (method, route))
        ∧ ∀ answering ∈ answers.tasks, Orderly answering.events →
          lastStatus answering.events = (startedStatus? answering.events).getD 500 := by
  refine ⟨?_, ?_, ?_, fun _ _ => lastStatus_of_orderly⟩
  . intro method
    exact countP_of_added [method] .httpRequestsInProgress (fun answering => answering.inside method) h
      fun _ => added_inProgress
  . intro method route class'
    have hamount := countP_of_added [method, route, class'] .httpRequestsTotal
      (fun answering => answering.recordedAs = some (method, route, class')) h
      fun answering haccounted => by
        rw [added_total haccounted]
        simp only [decide_eq_true_eq]
    exact Int.ofNat_inj.mp hamount
  . intro method route
    have hamount := countP_of_added [method, route] .httpRequestDurationSeconds
      (fun answering =>
        answering.recordedAs.map (fun labels => (labels.1, labels.2.1)) = some (method, route)) h
      fun answering haccounted => by
        rw [added_duration haccounted]
        simp only [decide_eq_true_eq]
    exact Int.ofNat_inj.mp hamount

end

section

def created : Application Empty :=
  fun scope => .send (.start 201 []) fun answer =>
    .done ⟨scope, answer.elim .returned .raised⟩

def personRequest : Request where
  method := ofString "POST"
  path := ofString "/api/persons"
  method_ne := by decide
  method_token := by decide

def creation : Arrival Empty :=
  ⟨⟨0, 0, 0⟩, created, personRequest⟩

def twoCreations : List (Turn (Arrival Empty)) :=
  [.start creation, .start creation, .proceed 1 none]

theorem twoCreations_accounted
    : ∃ answers, Transition.run (Loop.step Arrival.task) {} twoCreations = some answers
        ∧ (metricsOf answers).httpRequestsInProgress.value 0 [ofString "POST"] = 1
        ∧ (metricsOf answers).httpRequestsTotal.value 0
          [ofString "POST", unmatched, ofString "2xx"] = 1 := by
  refine ⟨_, rfl, ?_⟩
  have hrun : Transition.run (Loop.step Arrival.task) {} twoCreations = some _ := rfl
  rcases requests_accounted hrun with ⟨hgauge, htotal, _⟩
  rw [hgauge, htotal]
  exact ⟨rfl, rfl⟩

/-- The server cannot send the head of the response: none has started, and it counts as a good one. -/
theorem refused_counted
    : ∃ answers, Transition.run (Loop.step Arrival.task) {}
          [.start creation, .proceed 0 (some (.exception "LocalProtocolError"))] = some answers
        ∧ answers.tasks.map (fun answering => startedStatus? answering.events) = [none]
        ∧ (metricsOf answers).httpRequestsTotal.value 0
          [ofString "POST", unmatched, ofString "2xx"] = 1
        ∧ (metricsOf answers).httpRequestsTotal.value 0
          [ofString "POST", unmatched, ofString "5xx"] = 0 := by
  refine ⟨_, rfl, rfl, ?_, ?_⟩
  . decide +kernel
  . decide +kernel

end

end Api
