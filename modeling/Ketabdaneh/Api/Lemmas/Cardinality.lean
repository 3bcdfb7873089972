import Ketabdaneh.Api.Core.Lemmas.Metrics
import Ketabdaneh.Api.Lemmas.Main
import Ketabdaneh.Api.Worker.Lemmas.Worker

/-!
This module contains that the time series of the metrics are bounded by the routes and fixed
vocabularies: of the method of a request it is the server that admits no more than a fixed set.
-/

namespace Api

open Asgi Python RequestLoggingMiddleware Text

/-- The route that the router leaves in the scope of a request is one of a table. -/
structure Router (σ Effect : Type) (routes : List Str) where
  app : Application Effect
  routed : ∀ (scope : Scope) (server : Server σ) (s : σ) (route : Route), scope.route = none →
    ((app scope).run server s).result.scope.route = some route →
      ∃ path ∈ routes, route.path = some (.str path)

/-- The requests that the parser of the server hands on; it answers to all others itself. -/
abbrev HttpParser :=
  Request → Bool

/-- What the parser promises: to read no methods but those of its table. -/
def HttpParser.Documented (parser : HttpParser) (verbs : List Str) : Prop :=
  ∀ request, parser request = true → request.method ∈ verbs

/-- What the two processes do: one answers requests, the other works on jobs. -/
inductive Activity (σ Effect : Type) (routes : List Str) where
  | request (circumstances : Circumstances) (router : Router σ Effect routes) (request : Request)
    (server : Server σ) (s : σ)
  | job (ctx : Context) (payload : Value)

def jobOutcomes : List Str :=
  [ofString JOB_COMPLETED, ofString JOB_RETRIED, ofString JOB_FAILED]

def attemptOutcomes : List Str :=
  [ofString NOTIF_SUCCESS, ofString NOTIF_REJECTED, ofString NOTIF_RETRYABLE, ofString NOTIF_FAILED]

def channels : List Str :=
  ofString "unknown" :: knownChannels

/-- The values that each of the labels of a metric is to have. -/
def vocabulary (verbs routes : List Str) : Metric → List (List Str)
  | .httpRequestsTotal => [verbs, unmatched :: routes, statusClasses]
  | .httpRequestDurationSeconds => [verbs, unmatched :: routes]
  | .httpRequestsInProgress => [verbs]
  | .workerJobsTotal => [[ofString DELIVER_FUNCTION_NAME], jobOutcomes]
  | .notificationDeliveryTotal => [channels, attemptOutcomes]
  | .notificationDeliveryDurationSeconds => [channels]

theorem routeLabel_mem {routes : List Str} {routeTemplate : Option Route}
    (h : ∀ route, routeTemplate = some route → ∃ path ∈ routes, route.path = some (.str path))
    : routeLabel routeTemplate ∈ unmatched :: routes := by
  unfold routeLabel
  cases routeTemplate with
  | none => apply List.mem_cons_self
  | some route =>
    rcases h route rfl with ⟨path, hpath, hroute⟩
    rw [Option.bind_some, hroute]
    dsimp only
    split
    . apply List.mem_cons_self
    . exact List.mem_cons_of_mem _ hpath

section

variable {verbs routes : List Str} {method : Str} {metric : Metric} {tuple : List Str}

theorem mem_sections_httpRequestStart (hmethod : method ∈ verbs)
    (htuple : tuple ∈ (Observation.httpRequestStart method).labels metric)
    : tuple ∈ (vocabulary verbs routes metric).sections := by
  rw [List.mem_sections]
  cases metric with
  | httpRequestsInProgress =>
    rw [Observation.labels, List.mem_singleton] at htuple
    rw [htuple]
    exact .cons hmethod .nil
  | _ => simp [Observation.labels] at htuple

theorem mem_sections_httpRequest {rawPath : Str} {routeTemplate : Option Route} {statusCode : Int}
    {durationSeconds : Rat} (hmethod : method ∈ verbs)
    (hroute : routeLabel routeTemplate ∈ unmatched :: routes)
    (htuple : tuple ∈ (Observation.httpRequest method rawPath routeTemplate statusCode
      durationSeconds).labels metric)
    : tuple ∈ (vocabulary verbs routes metric).sections := by
  rw [List.mem_sections]
  cases metric with
  | httpRequestsTotal =>
    rw [Observation.labels] at htuple
    split at htuple
    . simp at htuple
    . rw [List.mem_singleton] at htuple
      rw [htuple]
      exact .cons hmethod (.cons hroute (.cons (statusClass_mem _) .nil))
  | httpRequestDurationSeconds =>
    rw [Observation.labels] at htuple
    split at htuple
    . simp at htuple
    . rw [List.mem_singleton] at htuple
      rw [htuple]
      exact .cons hmethod (.cons hroute .nil)
  | _ => simp [Observation.labels] at htuple

end

namespace Delivery

/-- Its outcomes are all in the vocabulary. -/
structure Vouched (delivery : Delivery) : Prop where
  jobs : ∀ outcome ∈ delivery.jobs, ofString outcome ∈ jobOutcomes
  attempts : ∀ attempt ∈ delivery.attempts, ofString attempt.2.1 ∈ attemptOutcomes

theorem vouched_observation {ctx : Context} {job : NotificationJob} {delivery : Delivery}
    {jobOutcome outcome : String} (hjobs : delivery.jobs = [jobOutcome])
    (hattempts : delivery.attempts = [ctx.observation job outcome])
    (hjob : ofString jobOutcome ∈ jobOutcomes) (hattempt : ofString outcome ∈ attemptOutcomes)
    : delivery.Vouched := by
  constructor
  . rw [hjobs, List.forall_mem_singleton]
    assumption
  . rw [hattempts, List.forall_mem_singleton]
    assumption

theorem vouched_retried (ctx : Context) (job : NotificationJob) (result : NotificationResult)
    : (ctx.retried job result).Vouched := by
  unfold Context.retried
  split
  . constructor
    . simp
    . simp
  . exact vouched_observation rfl rfl (by decide) (by decide)

theorem vouched_classify (ctx : Context) (job : NotificationJob) (result : NotificationResult)
    : (ctx.classify job result).Vouched := by
  unfold Context.classify
  split
  . exact vouched_observation rfl rfl (by decide) (by decide)
  . split
    . exact vouched_observation rfl rfl (by decide) (by decide)
    . split
      . exact vouched_observation rfl rfl (by decide) (by decide)
      . apply vouched_retried

theorem vouched_deliverNotification (ctx : Context) (payload : Value)
    : (deliverNotification ctx payload).Vouched := by
  unfold deliverNotification
  split
  . constructor
    . rw [List.forall_mem_singleton]
      decide
    . simp
  . split
    . constructor
      . simp
      . simp
    . next job message _ _ result _ =>
      have hclassify := vouched_classify ctx job result
      exact ⟨hclassify.jobs, hclassify.attempts⟩

theorem mem_sections_of_mem_observations (verbs routes : List Str) {delivery : Delivery}
    (h : delivery.Vouched) {observation : Observation} (ho : observation ∈ delivery.observations)
    {metric : Metric} {tuple : List Str} (htuple : tuple ∈ observation.labels metric)
    : tuple ∈ (vocabulary verbs routes metric).sections := by
  rw [observations, List.mem_append, List.mem_map, List.mem_map] at ho
  rw [List.mem_sections]
  cases ho with
  | inl ho =>
    rcases ho with ⟨outcome, houtcome, rfl⟩
    cases metric with
    | workerJobsTotal =>
      rw [Observation.labels, List.mem_singleton] at htuple
      rw [htuple]
      exact .cons (List.mem_singleton_self _) (.cons (h.jobs outcome houtcome) .nil)
    | _ => simp [Observation.labels] at htuple
  | inr ho =>
    rcases ho with ⟨attempt, hattempt, rfl⟩
    cases metric with
    | notificationDeliveryTotal =>
      rw [Observation.labels, List.mem_singleton] at htuple
      rw [htuple]
      exact .cons (safeChannel_mem _) (.cons (h.attempts attempt hattempt) .nil)
    | notificationDeliveryDurationSeconds =>
      rw [Observation.labels, List.mem_singleton] at htuple
      rw [htuple]
      exact .cons (safeChannel_mem _) .nil
    | _ => simp [Observation.labels] at htuple

end Delivery

theorem observations_served {σ Effect : Type} (circumstances : Circumstances)
    (router : Application Effect) (request : Request) (server : Server σ) (s : σ)
    : observations (served circumstances router request server s)
        =
      observations (answer circumstances ⟨router⟩ request server s) := by
  rw [observations, reports, served, app, ServerErrorMiddleware.effects_call rfl]
  rfl

namespace Activity

variable {σ Effect : Type} {routes : List Str}

def observations : Activity σ Effect routes → List Observation
  | .request circumstances router received server s =>
    Api.observations (served circumstances router.app received server s)
  | .job ctx payload => (deliverNotification ctx payload).observations

def Speaks (verbs : List Str) : Activity σ Effect routes → Prop
  | .request _ _ received _ _ => received.method ∈ verbs
  | .job .. => True

/-- A request that comes through the parser, or a job. -/
def PassedBy (parser : HttpParser) : Activity σ Effect routes → Prop
  | .request _ _ received _ _ => parser received = true
  | .job .. => True

def Bounded (verbs : List Str) (activity : Activity σ Effect routes) : Prop :=
  ∀ observation ∈ activity.observations, ∀ metric, ∀ tuple ∈ observation.labels metric,
    tuple ∈ (vocabulary verbs routes metric).sections

theorem start_mem_observations {circumstances : Circumstances} {router : Router σ Effect routes}
    {received : Request} {server : Server σ} {s : σ}
    : .httpRequestStart received.method
        ∈ observations (.request circumstances router received server s) := by
  rw [observations, observations_served, observations_answer]
  apply List.mem_cons_self

theorem method_mem_of_bounded {verbs : List Str} {circumstances : Circumstances}
    {router : Router σ Effect routes} {received : Request} {server : Server σ} {s : σ}
    (h : Bounded verbs (.request circumstances router received server s))
    : received.method ∈ verbs := by
  have hstart := h _ start_mem_observations .httpRequestsInProgress [received.method]
    (List.mem_singleton_self _)
  rw [List.mem_sections] at hstart
  cases hstart with
  | cons hmethod _ => exact hmethod

theorem bounded_iff_speaks (verbs : List Str) (activity : Activity σ Effect routes)
    : activity.Bounded verbs ↔ activity.Speaks verbs := by
  cases activity with
  | job ctx payload =>
    constructor
    . intro _
      trivial
    . intro _ observation ho metric tuple htuple
      exact Delivery.mem_sections_of_mem_observations verbs routes
        (Delivery.vouched_deliverNotification ctx payload) ho htuple
  | request circumstances router received server s =>
    constructor
    . apply method_mem_of_bounded
    . intro hmethod observation ho metric tuple htuple
      have hroute : ∀ route, (inner circumstances ⟨router.app⟩ received server s).result.scope.route
          = some route → ∃ path ∈ routes, route.path = some (.str path) := by
        intro route
        apply router.routed
        rfl
      rw [observations, observations_served, observations_answer] at ho
      simp only [List.mem_cons, List.not_mem_nil, or_false] at ho
      rcases ho with rfl | rfl | rfl
      . exact mem_sections_httpRequestStart hmethod htuple
      . rw [Observation.labels_httpRequestEnd] at htuple
        exact mem_sections_httpRequestStart hmethod htuple
      . exact mem_sections_httpRequest hmethod (routeLabel_mem hroute) htuple

/-- A series that there is after some of the observations of the activities. -/
def EverCreated (activities : List (Activity σ Effect routes)) (metric : Metric) (tuple : List Str)
    : Prop :=
  ∃ pre, pre <+: activities.flatMap observations
    ∧ tuple ∈ (pre.foldl Observation.record {}).series metric

theorem everCreated_iff {activities : List (Activity σ Effect routes)} {metric : Metric}
    {tuple : List Str}
    : EverCreated activities metric tuple
        ↔
      ∃ activity ∈ activities, ∃ observation ∈ activity.observations,
        tuple ∈ observation.labels metric := by
  have hempty : tuple ∉ Metrics.series {} metric := by
    cases metric <;> simp [Metrics.series, Prometheus.Family.series]
  simp only [EverCreated, Observation.mem_series_foldl, hempty, false_or]
  constructor
  . rintro ⟨pre, hpre, observation, ho, htuple⟩
    rcases List.mem_flatMap.mp (hpre.subset ho) with ⟨activity, hactivity, ho⟩
    exact ⟨activity, hactivity, observation, ho, htuple⟩
  . rintro ⟨activity, hactivity, observation, ho, htuple⟩
    exact ⟨_, List.prefix_rfl, observation, List.mem_flatMap.mpr ⟨activity, hactivity, ho⟩, htuple⟩

/--
Whatever is requested and worked on, no series is ever created outside of the fixed ones exactly
when all the requests use the verbs.
-/
theorem everCreated_bounded_iff (verbs : List Str) (activities : List (Activity σ Effect routes))
    : (∀ metric tuple, EverCreated activities metric tuple →
        tuple ∈ (vocabulary verbs routes metric).sections)
        ↔
      ∀ activity ∈ activities, activity.Speaks verbs := by
  simp only [everCreated_iff, ← bounded_iff_speaks]
  constructor
  . intro h activity hactivity observation ho metric tuple htuple
    exact h metric tuple ⟨activity, hactivity, observation, ho, htuple⟩
  . rintro h metric tuple ⟨activity, hactivity, observation, ho, htuple⟩
    exact h activity hactivity observation ho metric tuple htuple

/--
Whatever the server lets through and the worker works on, all series that are ever created are of
one finite set, which the verbs, the routes and the fixed vocabularies make up.
-/
theorem everCreated_bounded {parser : HttpParser} {verbs : List Str}
    (hparser : parser.Documented verbs) {activities : List (Activity σ Effect routes)}
    (hpassed : ∀ activity ∈ activities, activity.PassedBy parser)
    : ∀ metric tuple, EverCreated activities metric tuple →
        tuple ∈ (vocabulary verbs routes metric).sections := by
  rw [everCreated_bounded_iff]
  intro activity hactivity
  have hpass := hpassed activity hactivity
  cases activity with
  | request circumstances router received server s => exact hparser received hpass
  | job ctx payload => trivial

end Activity

section

def parserMethods : List Str :=
  ["DELETE", "GET", "HEAD", "POST", "PUT", "CONNECT", "OPTIONS", "TRACE", "COPY", "LOCK", "MKCOL",
    "MOVE", "PROPFIND", "PROPPATCH", "SEARCH", "UNLOCK", "BIND", "REBIND", "UNBIND", "ACL", "REPORT",
    "MKACTIVITY", "CHECKOUT", "MERGE", "M-SEARCH", "NOTIFY", "SUBSCRIBE", "UNSUBSCRIBE", "PATCH",
    "PURGE", "MKCALENDAR", "LINK", "UNLINK", "SOURCE"].map ofString

def tableParser : HttpParser := fun request =>
  request.method ∈ parserMethods

theorem tableParser_documented : tableParser.Documented parserMethods := by
  intro request h
  exact of_decide_eq_true h

/-- A request that no route answers, and a job without a token. -/
def oneOfEach : List (Activity Unit Empty []) :=
  [.request ⟨0, 0, 0⟩
      {
        app := notFound.app
        routed := by
          intro scope server s route hscope hroute
          rw [show ((notFound.app scope).run server s).result.scope = scope from rfl, hscope] at hroute
          injection hroute
      }
      { twoLines with path := ofString "/" }
      accepting (),
    .job (unconfiguredRun.context 1) unconfiguredJob.toPayload]

theorem oneOfEach_bounded :
    Activity.EverCreated oneOfEach .httpRequestsInProgress [ofString "GET"]
      ∧ ∀ metric tuple, Activity.EverCreated oneOfEach metric tuple →
        tuple ∈ (vocabulary parserMethods [] metric).sections := by
  constructor
  . rw [Activity.everCreated_iff]
    exact ⟨_, List.mem_cons_self, _, Activity.start_mem_observations, List.mem_singleton_self _⟩
  . apply Activity.everCreated_bounded tableParser_documented
    intro activity hactivity
    simp only [oneOfEach, List.mem_cons, List.not_mem_nil, or_false] at hactivity
    rcases hactivity with rfl | rfl
    . exact decide_eq_true (by decide)
    . trivial

end

end Api
