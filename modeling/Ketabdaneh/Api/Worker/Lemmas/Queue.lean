import Ketabdaneh.Api.Core.Lemmas.Metrics
import Ketabdaneh.Api.Worker.Lemmas.RetryHint
import Ketabdaneh.Api.Worker.Queue
import Mathlib.Algebra.BigOperators.Ring.Finset

namespace Api

open Prometheus Python Text Transition

theorem endingOf_of_isRetry {outcome : Outcome} (h : outcome.isRetry = true)
    : endingOf outcome = none := by
  cases outcome with
  | retry defer => rfl
  | _ => injection h

theorem endingOf_of_not_isRetry {outcome : Outcome} (h : outcome.isRetry = false)
    : endingOf outcome = some (.ended outcome) := by
  cases outcome with
  | retry defer => injection h
  | _ => rfl

/-- The label and the outcome of each delivery that is observed. -/
def Delivery.labels (delivery : Delivery) : List (Str × String) :=
  delivery.attempts.map fun attempt => (safeChannel attempt.1, attempt.2.1)

namespace Running

variable (worker : WorkerProcess)

/-- The calls that a job has yet to see, and its end. -/
def rest (running : Running) : List Delivery × JobEnd :=
  match running.ending with
  | some ending => ([], ending)
  | none =>
    runTries (worker.call running.job) (WorkerSettings.maxTries - running.deliveries.length)
      (running.deliveries.length + 1)

/-- The calls that have ended are the first of the job's, whatever others have done meanwhile. -/
structure OnTrack (running : Running) : Prop where
  inFlight : running.inFlight = true →
    running.ending = none ∧ running.deliveries.length < WorkerSettings.maxTries
  runJob : Api.runJob (worker.call running.job)
    = (running.deliveries ++ (running.rest worker).1, (running.rest worker).2)

variable {worker} {running next : Running} {new : List Observation}

theorem onTrack_join (job : QueuedJob) : OnTrack worker { job } := by
  constructor
  . simp
  . rfl

theorem onTrack_begin (h : running.OnTrack worker)
    (hact : worker.act running .begin = some (next, new)) : next.OnTrack worker := by
  unfold WorkerProcess.act at hact
  dsimp only at hact
  split at hact
  . injection hact
  . next hidle =>
    rw [not_or, Bool.not_eq_true, Bool.not_eq_true, Option.isSome_eq_false_iff,
      Option.isNone_iff_eq_none] at hidle
    have hjob := h.runJob
    unfold rest at hjob
    rw [hidle.2] at hjob
    split at hact
    . next hlt =>
      injection hact with hact
      injection hact with hnext
      rw [← hnext]
      constructor
      . intro _
        exact ⟨hidle.2, hlt⟩
      . rw [rest]
        dsimp only
        rw [hidle.2]
        exact hjob
    . next hge =>
      injection hact with hact
      injection hact with hnext
      have hnone : WorkerSettings.maxTries - running.deliveries.length = 0 := by omega
      rw [hnone] at hjob
      rw [← hnext]
      constructor
      . simp [hidle.1]
      . exact hjob

theorem onTrack_finish (h : running.OnTrack worker)
    (hact : worker.act running .finish = some (next, new)) : next.OnTrack worker := by
  unfold WorkerProcess.act at hact
  dsimp only at hact
  split at hact
  . next hflight =>
    injection hact with hact
    injection hact with hnext
    rcases h.inFlight hflight with ⟨hending, hlt⟩
    have hjob := h.runJob
    unfold rest at hjob
    rw [hending] at hjob
    have hleft : WorkerSettings.maxTries - running.deliveries.length
        = WorkerSettings.maxTries - (running.deliveries.length + 1) + 1 := by omega
    rw [hleft] at hjob
    rw [← hnext]
    constructor
    . simp
    . unfold rest
      dsimp only
      cases hretry : (worker.call running.job (running.deliveries.length + 1)).outcome.isRetry with
      | true =>
        rw [endingOf_of_isRetry hretry, List.length_append, List.length_singleton, hjob,
          runTries_of_isRetry hretry, List.append_assoc]
        rfl
      | false =>
        rw [endingOf_of_not_isRetry hretry, hjob, runTries_of_not_isRetry hretry, List.append_nil]
  . injection hact

theorem onTrack_act {action : TryStep} (h : running.OnTrack worker)
    (hact : worker.act running action = some (next, new)) : next.OnTrack worker := by
  cases action with
  | begin => exact onTrack_begin h hact
  | finish => exact onTrack_finish h hact

theorem OnTrack.runJob_of_ending (h : running.OnTrack worker) {ending : JobEnd}
    (hending : running.ending = some ending)
    : Api.runJob (worker.call running.job) = (running.deliveries, ending) := by
  rw [h.runJob, rest, hending, List.append_nil]

/-- What a job has had observed, in the order of its calls. -/
def observations (running : Running) : List Observation :=
  running.deliveries.flatMap Delivery.observations

theorem observations_act {action : TryStep}
    (h : worker.act running action = some (next, new))
    : next.observations = running.observations ++ new := by
  unfold WorkerProcess.act at h
  cases action with
  | begin =>
    dsimp only at h
    split at h
    . injection h
    . split at h
      all_goals
        injection h with h
        injection h with hnext hnew
        rw [← hnext, ← hnew, List.append_nil]
        rfl
  | finish =>
    dsimp only at h
    split at h
    . injection h with h
      injection h with hnext hnew
      rw [← hnext, ← hnew, observations, List.flatMap_append, List.flatMap_singleton]
      rfl
    . injection h

def jobOutcomes (running : Running) : List String :=
  running.deliveries.flatMap Delivery.jobs

def sendOutcomes (running : Running) : List (Str × String) :=
  running.deliveries.flatMap Delivery.labels

end Running

namespace Delivery

variable (delivery : Delivery)

theorem sum_change_jobs (outcome : String)
    : (delivery.observations.map (Observation.change
        [ofString DELIVER_FUNCTION_NAME, ofString outcome] .workerJobsTotal)).sum
        =
      delivery.jobs.count outcome := by
  have hjob : ∀ o : String, Observation.change
      [ofString DELIVER_FUNCTION_NAME, ofString outcome] .workerJobsTotal
      (.job (ofString DELIVER_FUNCTION_NAME) (ofString o)) = if o == outcome then 1 else 0 := by
    intro o
    simp [Observation.change, Observation.labels, List.count_singleton, ofString_inj]
  rw [observations, List.map_append, List.sum_append, List.map_map, List.map_map]
  simp only [Function.comp_def, hjob]
  rw [sum_map_ite]
  simp [Observation.change, Observation.labels, List.count]

theorem sum_change_attempts (channel : Str) (outcome : String)
    : (delivery.observations.map (Observation.change [channel, ofString outcome]
        .notificationDeliveryTotal)).sum
        =
      delivery.labels.count (channel, outcome) := by
  have hattempt : ∀ attempt : Str × String × Rat, Observation.change
      [channel, ofString outcome] .notificationDeliveryTotal
      (.notificationAttempt attempt.1 (ofString attempt.2.1) (some attempt.2.2))
      = if (safeChannel attempt.1, attempt.2.1) == (channel, outcome) then 1 else 0 := by
    intro attempt
    simp [Observation.change, Observation.labels, List.count_singleton, ofString_inj]
  rw [observations, List.map_append, List.sum_append, List.map_map, List.map_map]
  simp only [Function.comp_def, hattempt]
  rw [sum_map_ite, labels, List.count, List.countP_map]
  simp [Observation.change, Observation.labels, Function.comp_def]

end Delivery

theorem safeChannel_value (channel : NotificationChannel) : safeChannel channel.value = channel.value := by
  cases channel with
  | telegram => rfl
  | bale => rfl

namespace WorkerProcess

variable (worker : WorkerProcess) (job : QueuedJob) (message : NotificationMessage)

/-- What a try of the job meets, as its provider reads it. -/
def answer (i : Nat) : Answer :=
  (api worker.settings message.channel).readAs worker.python.frames message.text (job.exchange i)

/-- The outcome of the send of a try; a provider that cannot be had fails it when it is the last. -/
def sendOutcome (i : Nat) : String :=
  match worker.answer job message i with
  | .delivered => NOTIF_SUCCESS
  | .rejected => NOTIF_REJECTED
  | .retryable =>
    if worker.settings.notificationMaxAttempts ≤ i then NOTIF_FAILED else NOTIF_RETRYABLE

/-- The delay of the retry after a try, by the hint that the worker finds in what it meets. -/
def wait (i : Nat) : Except FloatError PyFloat :=
  worker.settings.retryPolicy.delayFor (i + 1)
    ((if (api worker.settings message.channel).botToken.getD [] = [] then none
      else BotApi.heard worker.python.frames (job.exchange i)).map PyFloat.ofNat)

/-- A `Retry` can be made of the delay after each try of which all, up to it, may be retried. -/
def DelaysFit : Prop :=
  ∀ i : Nat, 1 ≤ i → i < worker.settings.notificationMaxAttempts →
    (∀ j, 1 ≤ j → j ≤ i → worker.answer job message j = .retryable) →
    fitsRetry (worker.wait job message i) = true

variable {job} {message} {notification : NotificationJob}

def attempt (h : reconstruct job.payload = .ok (notification, message)) (i : Nat) : Attempt where
  python := worker.python
  settings := worker.settings
  exchange := job.exchange i
  payload := job.payload
  job := notification
  message := message
  reconstructs := h
  context := worker.context job i
  dispatcher := rfl

def jobRun (h : reconstruct job.payload = .ok (notification, message)) : JobRun where
  settings := worker.settings
  payload := job.payload
  job := notification
  message := message
  reconstructs := h
  context := worker.context job
  policy _ := rfl
  jobTry _ := rfl
  result i := (worker.attempt h i).result
  answers _ := Attempt.send_build _ _ _ _

variable {worker}

theorem answer_jobRun (h : reconstruct job.payload = .ok (notification, message)) (i : Nat)
    : (worker.jobRun h).answer i = worker.answer job message i :=
  (worker.attempt h i).answerOf_result

theorem wait_jobRun (h : reconstruct job.payload = .ok (notification, message)) {i : Nat}
    (hanswer : worker.answer job message i = .retryable)
    : (worker.jobRun h).wait i = worker.wait job message i := by
  have hread : (worker.attempt h i).read = .retryable := hanswer
  rw [JobRun.wait, show (worker.jobRun h).result i = (worker.attempt h i).result from rfl,
    Attempt.retryAfterHint_result hread]
  rfl

theorem delaysFit_jobRun (h : reconstruct job.payload = .ok (notification, message))
    : (worker.jobRun h).DelaysFit ↔ worker.DelaysFit job message := by
  unfold JobRun.DelaysFit DelaysFit
  simp only [answer_jobRun h]
  constructor
  . intro hfit i hi hlt hanswers
    rw [← wait_jobRun h (hanswers i hi (le_refl i))]
    exact hfit i hi hlt hanswers
  . intro hfit i hi hlt hanswers
    rw [wait_jobRun h (hanswers i hi (le_refl i))]
    exact hfit i hi hlt hanswers

theorem channel_of_reconstruct (h : reconstruct job.payload = .ok (notification, message))
    : notification.channel = message.channel.value := by
  unfold reconstruct at h
  split at h
  . injection h
  . split at h
    . injection h
    . injection h
    . next hmessage =>
      injection h with h
      injection h with hnotification hmessage'
      rw [hmessage', NotificationJob.toMessage_eq_ok] at hmessage
      rw [← hnotification, ← NotificationChannel.ofValue_eq_some hmessage.1]
      rfl

theorem labels_call (h : reconstruct job.payload = .ok (notification, message)) {i : Nat}
    (hle : i ≤ WorkerSettings.maxTries)
    : (worker.call job i).labels = [(message.channel.value, worker.sendOutcome job message i)] := by
  have hcall : worker.call job i = (worker.jobRun h).call i := rfl
  have hchannel : safeChannel notification.channel = message.channel.value := by
    rw [channel_of_reconstruct h, safeChannel_value]
  rw [hcall, JobRun.call_eq, sendOutcome, ← answer_jobRun h, ← hchannel]
  cases hcase : (worker.jobRun h).answer i with
  | delivered =>
    rw [Context.classify_delivered hcase]
    rfl
  | rejected =>
    rw [Context.classify_rejected hcase]
    rfl
  | retryable =>
    rw [Context.classify_retryable hcase]
    dsimp only
    split
    . next hge =>
      have hge : worker.settings.notificationMaxAttempts ≤ i := hge
      rw [if_pos hge]
      rfl
    . next hlt =>
      have hlt : ¬worker.settings.notificationMaxAttempts ≤ i := hlt
      have htry : ((worker.jobRun h).context i).jobTry ≤ 1024 := by
        rw [(worker.jobRun h).jobTry i]
        unfold WorkerSettings.maxTries at hle
        omega
      rw [if_neg hlt, Delivery.labels, Context.attempts_retried _ _ _ htry]
      rfl

/-- A job with a valid payload: one end, a retry before it for each other try, and what each try sent. -/
def Conserved (worker : WorkerProcess) (running : Running) (message : NotificationMessage) : Prop :=
  1 ≤ running.deliveries.length
    ∧ running.jobOutcomes.count JOB_COMPLETED + running.jobOutcomes.count JOB_FAILED = 1
    ∧ running.jobOutcomes.count JOB_RETRIED = running.deliveries.length - 1
    ∧ running.deliveries.map (fun delivery => (delivery.sent, delivery.labels))
      = (List.range' 1 running.deliveries.length).map fun i =>
        ([message], [(message.channel.value, worker.sendOutcome running.job message i)])

theorem flatMap_eq_replicate {α β : Type} {f : α → List β} {b : β} {l : List α}
    (h : ∀ a ∈ l, f a = [b]) : l.flatMap f = List.replicate l.length b := by
  induction l with
  | nil => rfl
  | cons a l ih =>
    rw [List.forall_mem_cons] at h
    rw [List.flatMap_cons, h.1, ih h.2]
    rfl

theorem jobs_of_keepsBudget {run : JobRun} {m : Nat} (hm : 1 ≤ m)
    (hretried : ∀ i, 1 ≤ i → i < m → (run.call i).jobs = [JOB_RETRIED]) (hends : run.EndsBy m)
    : ∃ last, (last = JOB_COMPLETED ∨ last = JOB_FAILED)
        ∧ ((List.range' 1 m).map run.call).flatMap Delivery.jobs
          = List.replicate (m - 1) JOB_RETRIED ++ [last] := by
  have hlast : ∃ last, (last = JOB_COMPLETED ∨ last = JOB_FAILED) ∧ (run.call m).jobs = [last] := by
    cases JobRun.jobs_of_endsBy hends with
    | inl hjobs => exact ⟨_, Or.inl rfl, hjobs⟩
    | inr hjobs => exact ⟨_, Or.inr rfl, hjobs⟩
  rcases hlast with ⟨last, houtcome, hjobs⟩
  have hrange : List.range' 1 m = List.range' 1 (m - 1) ++ [m] := by
    have hconcat : List.range' 1 (m - 1 + 1) = List.range' 1 (m - 1) ++ [1 + (m - 1)] :=
      List.range'_1_concat
    rwa [Nat.sub_add_cancel hm, show 1 + (m - 1) = m by omega] at hconcat
  refine ⟨last, houtcome, ?_⟩
  rw [hrange, List.map_append, List.flatMap_append, List.map_singleton, List.flatMap_singleton, hjobs,
    List.flatMap_map, flatMap_eq_replicate (b := JOB_RETRIED), List.length_range']
  intro i hi
  rw [List.mem_range'_1] at hi
  apply hretried i
  all_goals omega

theorem conserved (hbudget : worker.settings.notificationMaxAttempts ≤ WorkerSettings.maxTries)
    {running : Running} (htrack : running.OnTrack worker) (hending : running.ending.isSome = true)
    (h : reconstruct running.job.payload = .ok (notification, message))
    (hfit : worker.DelaysFit running.job message)
    : worker.Conserved running message := by
  rw [Option.isSome_iff_exists] at hending
  rcases hending with ⟨ending, hending⟩
  have hkeeps : (worker.jobRun h).KeepsBudget :=
    JobRun.keepsBudget_of_room (Or.inl hbudget) ((delaysFit_jobRun h).mpr hfit)
  rcases hkeeps with ⟨m, hm, hle, -, -, hjob, hsent, hretried, hends⟩
  have htracked := htrack.runJob_of_ending hending
  rw [show worker.call running.job = (worker.jobRun h).call from rfl, hjob] at htracked
  injection htracked with hdeliveries
  have hlength : running.deliveries.length = m := by
    rw [← hdeliveries, List.length_map, List.length_range']
  unfold Conserved Running.jobOutcomes
  rw [hlength, ← hdeliveries]
  rcases jobs_of_keepsBudget hm hretried hends with ⟨last, houtcome, hjobs⟩
  rw [hjobs]
  refine ⟨hm, ?_, ?_, ?_⟩
  . rcases houtcome with rfl | rfl
    . simp [JOB_COMPLETED, JOB_FAILED, JOB_RETRIED, List.count_replicate]
    . simp [JOB_COMPLETED, JOB_FAILED, JOB_RETRIED, List.count_replicate]
  . rcases houtcome with rfl | rfl
    . simp [JOB_COMPLETED, JOB_RETRIED]
    . simp [JOB_FAILED, JOB_RETRIED]
  . rw [List.map_map]
    apply List.map_congr_left
    intro i hi
    rw [List.mem_range'_1] at hi
    rw [Function.comp_apply, hsent i (by omega) (by omega)]
    have htries : i ≤ WorkerSettings.maxTries := by
      have hmax : m ≤ worker.settings.notificationMaxAttempts := hle
      omega
    rw [show (worker.jobRun h).call i = worker.call running.job i from rfl, labels_call h htries]
    rfl

theorem count_jobs_of_retried {run : JobRun} {m : Nat}
    (hretried : ∀ i, 1 ≤ i → i ≤ m → ∀ outcome ∈ (run.call i).jobs, outcome = JOB_RETRIED)
    {outcome : String} (hne : outcome ≠ JOB_RETRIED)
    : (((List.range' 1 m).map run.call).flatMap Delivery.jobs).count outcome = 0 := by
  rw [List.count_eq_zero, List.flatMap_map, List.mem_flatMap]
  rintro ⟨i, hi, houtcome⟩
  rw [List.mem_range'_1] at hi
  apply hne
  apply hretried i _ _ outcome houtcome
  all_goals omega

/-- A job with a delay that fits no `Retry` counts neither end. -/
theorem delaysFit_of_conserved
    (hbudget : worker.settings.notificationMaxAttempts ≤ WorkerSettings.maxTries)
    {running : Running} (htrack : running.OnTrack worker) (hending : running.ending.isSome = true)
    (h : reconstruct running.job.payload = .ok (notification, message))
    (hconserved : worker.Conserved running message)
    : worker.DelaysFit running.job message := by
  rw [Option.isSome_iff_exists] at hending
  rcases hending with ⟨ending, hending⟩
  have hroom : (worker.jobRun h).HasRoom := Or.inl hbudget
  rw [← delaysFit_jobRun h]
  by_contra hfit
  rcases JobRun.runJob_of_not_delaysFit hroom hfit with ⟨m, -, hjob, hretried⟩
  have htracked := htrack.runJob_of_ending hending
  rw [show worker.call running.job = (worker.jobRun h).call from rfl, hjob] at htracked
  injection htracked with hdeliveries
  have hends := hconserved.2.1
  rw [Running.jobOutcomes, ← hdeliveries, count_jobs_of_retried hretried (by decide),
    count_jobs_of_retried hretried (by decide)] at hends
  omega

theorem invalid_counted {running : Running} (htrack : running.OnTrack worker)
    (hending : running.ending.isSome = true) {name : Str}
    (h : reconstruct running.job.payload = .error name)
    : running.jobOutcomes = [JOB_FAILED] ∧ running.deliveries.flatMap Delivery.sent = []
        ∧ running.sendOutcomes = [] := by
  rw [Option.isSome_iff_exists] at hending
  rcases hending with ⟨ending, hending⟩
  have hcall : (worker.call running.job 1).outcome.isRetry = false
      ∧ (worker.call running.job 1).jobs = [JOB_FAILED]
      ∧ (worker.call running.job 1).sent = [] ∧ (worker.call running.job 1).attempts = [] := by
    unfold call deliverNotification
    rw [h]
    exact ⟨rfl, rfl, rfl, rfl⟩
  have htracked := htrack.runJob_of_ending hending
  rw [runJob, show WorkerSettings.maxTries = 24 + 1 from rfl, runTries_of_not_isRetry hcall.1] at htracked
  injection htracked with hdeliveries
  unfold Running.jobOutcomes Running.sendOutcomes
  rw [← hdeliveries]
  simp only [List.flatMap_singleton, Delivery.labels, hcall.2, List.map_nil, and_self]

section

variable {moves : List (Move QueuedJob TryStep)} {queue : Queue}

theorem onTrack_of_run (h : run worker.step {} moves = some queue)
    : ∀ running ∈ queue.parties, running.OnTrack worker := by
  apply Parties.forall_parties Running.onTrack_join _ h
  intro running action next new htrack hact
  exact Running.onTrack_act htrack hact

/-- What the metrics come to is what the jobs add to them, each for itself. -/
theorem amount_metrics (h : run worker.step {} moves = some queue) (tuple : List Str)
    (metric : Metric)
    : queue.metrics.amount tuple metric
        =
      (queue.parties.map fun running =>
        (running.observations.map (Observation.change tuple metric)).sum).sum := by
  have hempty : ({} : Metrics).amount tuple metric = 0 := by
    cases metric <;> rfl
  have hperm : queue.log.Perm (queue.parties.flatMap Running.observations) := by
    apply Parties.log_perm _ _ h
    . intro job
      rfl
    . intro running action next new hact
      exact Running.observations_act hact
  rw [Queue.metrics, Observation.amount_foldl, hempty, zero_add,
    (hperm.map (Observation.change tuple metric)).sum_eq, List.map_flatMap, List.flatMap_def,
    List.sum_flatten, List.map_map]
  rfl

theorem sum_observations {count : Delivery → Nat} {tuple : List Str} {metric : Metric}
    (hcount : ∀ delivery : Delivery,
      (delivery.observations.map (Observation.change tuple metric)).sum = count delivery)
    (running : Running)
    : (running.observations.map (Observation.change tuple metric)).sum
        =
      ((running.deliveries.map count).sum : Nat) := by
  rw [Running.observations]
  induction running.deliveries with
  | nil => rfl
  | cons delivery deliveries ih =>
    rw [List.flatMap_cons, List.map_append, List.sum_append, hcount, ih, List.map_cons,
      List.sum_cons]
    rfl

theorem amount_eq_sum (h : run worker.step {} moves = some queue) {count : Delivery → Nat}
    {tuple : List Str} {metric : Metric}
    (hcount : ∀ delivery : Delivery,
      (delivery.observations.map (Observation.change tuple metric)).sum = count delivery)
    : queue.metrics.amount tuple metric
        =
      ((queue.parties.map fun running => (running.deliveries.map count).sum).sum : Nat) := by
  rw [amount_metrics h]
  simp only [sum_observations hcount]
  rw [Nat.cast_list_sum, List.map_map]
  rfl

/--
In whatever order the jobs go on: the counters are the sums of what the jobs count. What a job with
a valid payload that has ended counts is one end, a retry for each other try, and each of its sends
by its outcome, exactly when its retries can be raised; one with an invalid payload counts one
failure, and no send.
-/
theorem jobs_conserved_iff
    (hbudget : worker.settings.notificationMaxAttempts ≤ WorkerSettings.maxTries)
    (h : run worker.step {} moves = some queue)
    : (∀ outcome, queue.metrics.workerJobsTotal.value 0
          [ofString DELIVER_FUNCTION_NAME, ofString outcome]
          = (queue.parties.map fun running => running.jobOutcomes.count outcome).sum)
        ∧ (∀ channel outcome, queue.metrics.notificationDeliveryTotal.value 0
          [channel, ofString outcome]
          = (queue.parties.map fun running => running.sendOutcomes.count (channel, outcome)).sum)
        ∧ ∀ running ∈ queue.parties, running.ending.isSome = true →
          (∀ notification message, reconstruct running.job.payload = .ok (notification, message) →
            (worker.Conserved running message ↔ worker.DelaysFit running.job message))
          ∧ ∀ name, reconstruct running.job.payload = .error name →
            running.jobOutcomes = [JOB_FAILED] ∧ running.deliveries.flatMap Delivery.sent = []
              ∧ running.sendOutcomes = [] := by
  refine ⟨?_, ?_, ?_⟩
  . intro outcome
    have hamount := amount_eq_sum h fun delivery => delivery.sum_change_jobs outcome
    simp only [Running.jobOutcomes, List.count_flatMap]
    exact Int.ofNat_inj.mp hamount
  . intro channel outcome
    have hamount := amount_eq_sum h fun delivery => delivery.sum_change_attempts channel outcome
    simp only [Running.sendOutcomes, List.count_flatMap]
    exact Int.ofNat_inj.mp hamount
  . intro running hmem hending
    have htrack := onTrack_of_run h running hmem
    constructor
    . intro notification message hvalid
      constructor
      . exact delaysFit_of_conserved hbudget htrack hending hvalid
      . exact conserved hbudget htrack hending hvalid
    . intro name hinvalid
      exact invalid_counted htrack hending hinvalid

end

section

def configured : WorkerProcess :=
  ⟨interpreter, redirectedSettings⟩

def slowJob : QueuedJob where
  jobId := ofString "1"
  payload := unconfiguredJob.toPayload
  exchange i := if i = 1 then .timeout else .response 200 (.document messageSent)
  started _ := 0
  finished _ := 1

def emptyJob : QueuedJob :=
  { slowJob with jobId := ofString "2", payload := .None }

/-- The job with no payload is over while the first try of the other one is under way. -/
def twoJobs : List (Move QueuedJob TryStep) :=
  [.join slowJob, .join emptyJob, .act 0 .begin, .act 1 .begin, .act 1 .finish, .act 0 .finish,
    .act 0 .begin, .act 0 .finish]

theorem twoJobs_conserved
    : ∃ queue, run configured.step {} twoJobs = some queue
        ∧ queue.metrics.workerJobsTotal.value 0
          [ofString DELIVER_FUNCTION_NAME, ofString JOB_COMPLETED] = 1
        ∧ queue.metrics.workerJobsTotal.value 0
          [ofString DELIVER_FUNCTION_NAME, ofString JOB_FAILED] = 1
        ∧ queue.metrics.workerJobsTotal.value 0
          [ofString DELIVER_FUNCTION_NAME, ofString JOB_RETRIED] = 1 := by
  have hcounts : (run configured.step {} twoJobs).map (fun queue =>
      [JOB_COMPLETED, JOB_FAILED, JOB_RETRIED].map fun outcome =>
        (queue.parties.map fun running => running.jobOutcomes.count outcome).sum)
      = some [1, 1, 1] := by
    decide +kernel
  rw [Option.map_eq_some_iff] at hcounts
  rcases hcounts with ⟨queue, hrun, hcounts⟩
  simp only [List.map_cons, List.cons.injEq] at hcounts
  have hconserved := jobs_conserved_iff (by decide) hrun
  refine ⟨queue, hrun, ?_⟩
  rw [hconserved.1, hconserved.1, hconserved.1]
  exact ⟨hcounts.1, hcounts.2.1, hcounts.2.2.1⟩

def farDelays : Settings :=
  { Settings.defaults with
    notificationRetryBaseDelaySeconds := .finite 100000000000000
    notificationRetryMaxDelaySeconds := .finite 100000000000000
    baseDelay_pos := by decide +kernel
    maxDelay_pos := by decide +kernel
    baseDelay_le := by decide +kernel }

def patient : WorkerProcess :=
  ⟨interpreter, farDelays⟩

def slowRunning : Running where
  job := slowJob
  deliveries := [patient.call slowJob 1]
  ending := endingOf (patient.call slowJob 1).outcome

/-- The retry of the job is counted and cannot be raised, which ends the job. -/
theorem slowJob_not_conserved
    : ∃ queue running, run patient.step {} [.join slowJob, .act 0 .begin, .act 0 .finish] = some queue
        ∧ queue.parties = [running]
        ∧ reconstruct running.job.payload = .ok (unconfiguredJob, unconfiguredMessage)
        ∧ running.ending = some (.ended (.floatError .overflowError))
        ∧ running.jobOutcomes = [JOB_RETRIED]
        ∧ patient.settings.notificationMaxAttempts ≤ WorkerSettings.maxTries
        ∧ ¬patient.Conserved running unconfiguredMessage := by
  have houtcome : (patient.call slowJob 1).outcome = .floatError .overflowError := by
    decide +kernel
  have hjobs : (patient.call slowJob 1).jobs = [JOB_RETRIED] := by
    decide +kernel
  have hcounted : slowRunning.jobOutcomes = [JOB_RETRIED] := by
    rw [Running.jobOutcomes, slowRunning, List.flatMap_singleton, hjobs]
  refine ⟨_, slowRunning, rfl, rfl, reconstruct_unconfiguredJob, ?_, hcounted, by decide, ?_⟩
  . rw [slowRunning, houtcome]
    rfl
  . rintro ⟨-, hends, -⟩
    rw [hcounted] at hends
    revert hends
    decide

end

end WorkerProcess

end Api
