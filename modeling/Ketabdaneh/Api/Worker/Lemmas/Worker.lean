import Ketabdaneh.Api.Notifications.Lemmas.Dispatcher
import Ketabdaneh.Api.Worker.Lemmas.Retry
import Ketabdaneh.Api.Worker.Worker

namespace Api

open Python Text

inductive Answer where
  | delivered
  | rejected
  | retryable
  deriving DecidableEq

def answerOf (result : NotificationResult) : Answer :=
  if result.success then .delivered
  else if rejects result.errorCode then .rejected
  else .retryable

def Outcome.isRetry : Outcome → Bool
  | .retry _ => true
  | _ => false

/-- Whether a `Retry` can be made of a delay. -/
def fitsRetry (delay : Except FloatError PyFloat) : Bool :=
  (delay.bind Python.timedelta).isOk

theorem Outcome.isRetry_ofDelay (delay : Except FloatError PyFloat)
    : (Outcome.ofDelay delay).isRetry = fitsRetry delay := by
  unfold Outcome.ofDelay fitsRetry
  cases delay.bind Python.timedelta with
  | ok defer => rfl
  | error error => rfl

namespace Context

variable (ctx : Context) (job : NotificationJob) (result : NotificationResult)

theorem outcome_retried
    : (ctx.retried job result).outcome
        =
      .ofDelay (ctx.policy.delayFor (ctx.jobTry + 1) (retryAfterHint result.errorMessage)) := by
  unfold retried
  cases ctx.policy.delayFor (ctx.jobTry + 1) (retryAfterHint result.errorMessage) with
  | ok delay => rfl
  | error error => rfl

theorem attempts_retried (h : ctx.jobTry ≤ 1024)
    : (ctx.retried job result).attempts = [ctx.observation job NOTIF_RETRYABLE] := by
  have hok := ctx.policy.isOk_delayFor (show ctx.jobTry + 1 ≤ 1025 by omega)
    (retryAfterHint result.errorMessage)
  unfold retried
  cases hdelay : ctx.policy.delayFor (ctx.jobTry + 1) (retryAfterHint result.errorMessage) with
  | ok delay => rfl
  | error error =>
    rw [hdelay] at hok
    contradiction

theorem jobs_retried
    : (ctx.retried job result).jobs
        =
      if (ctx.policy.delayFor (ctx.jobTry + 1) (retryAfterHint result.errorMessage)).isOk then
        [JOB_RETRIED]
      else
        [] := by
  unfold retried
  cases ctx.policy.delayFor (ctx.jobTry + 1) (retryAfterHint result.errorMessage) with
  | ok delay => rfl
  | error error => rfl

end Context

def Outcome.isPermanent : Outcome → Bool
  | .permanentNotificationFailure _ => true
  | _ => false

theorem runTries_of_not_isRetry {call : Nat → Delivery} {left jobTry : Nat}
    (h : (call jobTry).outcome.isRetry = false)
    : runTries call (left + 1) jobTry = ([call jobTry], .ended (call jobTry).outcome) := by
  rw [runTries]
  cases hcall : (call jobTry).outcome with
  | retry defer => simp [hcall, Outcome.isRetry] at h
  | _ => rfl

theorem runTries_of_isRetry {call : Nat → Delivery} {left jobTry : Nat}
    (h : (call jobTry).outcome.isRetry = true)
    : runTries call (left + 1) jobTry
        =
      (call jobTry :: (runTries call left (jobTry + 1)).1, (runTries call left (jobTry + 1)).2) := by
  rw [runTries]
  cases hcall : (call jobTry).outcome with
  | retry defer => rfl
  | _ => simp [hcall, Outcome.isRetry] at h

theorem runTries_add {call : Nat → Delivery} {retries jobTry : Nat} (left : Nat)
    (h : ∀ i, jobTry ≤ i → i < jobTry + retries → (call i).outcome.isRetry = true)
    : runTries call (retries + left) jobTry
        =
      ((List.range' jobTry retries).map call ++ (runTries call left (jobTry + retries)).1,
        (runTries call left (jobTry + retries)).2) := by
  induction retries generalizing jobTry with
  | zero => simp
  | succ retries ih =>
    rw [Nat.add_right_comm, runTries_of_isRetry]
    . rw [ih]
      . rw [List.range'_succ, List.map_cons, List.cons_append, Nat.add_assoc, Nat.add_comm 1]
      . intro i hi hlt
        apply h i
        all_goals omega
    . apply h jobTry
      all_goals omega

theorem length_runTries_le (call : Nat → Delivery) (left jobTry : Nat)
    : (runTries call left jobTry).1.length ≤ left := by
  induction left generalizing jobTry with
  | zero => simp [runTries]
  | succ left ih =>
    cases h : (call jobTry).outcome.isRetry with
    | true =>
      rw [runTries_of_isRetry h, List.length_cons]
      have := ih (jobTry + 1)
      omega
    | false =>
      rw [runTries_of_not_isRetry h, List.length_singleton]
      omega

namespace Context

variable {ctx : Context} {job : NotificationJob} {result : NotificationResult}

theorem classify_delivered (h : answerOf result = .delivered)
    : ctx.classify job result = ctx.delivered job result := by
  unfold answerOf at h
  unfold classify
  split at h
  . next hsuccess => rw [if_pos hsuccess]
  . split at h
    . injection h
    . injection h

theorem classify_rejected (h : answerOf result = .rejected)
    : ctx.classify job result = ctx.rejected job (result.errorCode.getD []) := by
  unfold answerOf at h
  unfold classify
  split at h
  . injection h
  . next hsuccess =>
    rw [if_neg hsuccess]
    split at h
    . next hrejects => rw [if_pos hrejects]
    . injection h

theorem classify_retryable (h : answerOf result = .retryable)
    : ctx.classify job result
        =
      if ctx.jobTry ≥ ctx.policy.maxAttempts then ctx.exhausted job result.errorCode
      else ctx.retried job result := by
  unfold answerOf at h
  unfold classify
  split at h
  . injection h
  . next hsuccess =>
    rw [if_neg hsuccess]
    split at h
    . injection h
    . next hrejects => rw [if_neg hrejects]

end Context

/-- A job with a valid payload, and the circumstances and results of its tries. -/
structure JobRun where
  settings : Settings
  payload : Value
  job : NotificationJob
  message : NotificationMessage
  reconstructs : reconstruct payload = .ok (job, message)
  context : Nat → Context
  policy : ∀ i, (context i).policy = settings.retryPolicy
  jobTry : ∀ i, (context i).jobTry = i
  result : Nat → NotificationResult
  answers : ∀ i, (context i).dispatcher.send message = .ok (result i)

namespace JobRun

def call (run : JobRun) (i : Nat) : Delivery :=
  deliverNotification (run.context i) run.payload

def answer (run : JobRun) (i : Nat) : Answer :=
  answerOf (run.result i)

def budget (run : JobRun) : Int :=
  run.settings.notificationMaxAttempts

theorem call_eq (run : JobRun) (i : Nat)
    : run.call i
        =
      { (run.context i).classify run.job (run.result i) with sent := [run.message] } := by
  rw [call, deliverNotification, run.reconstructs]
  dsimp only
  rw [run.answers i]

theorem sent_call (run : JobRun) (i : Nat) : (run.call i).sent = [run.message] := by
  rw [call_eq]

theorem call_delivered {run : JobRun} {i : Nat} (h : run.answer i = .delivered)
    : (run.call i).outcome = .returned "delivered" ∧ (run.call i).jobs = [JOB_COMPLETED] := by
  rw [call_eq, Context.classify_delivered h]
  exact ⟨rfl, rfl⟩

theorem call_rejected {run : JobRun} {i : Nat} (h : run.answer i = .rejected)
    : (run.call i).outcome.isPermanent = true ∧ (run.call i).jobs = [JOB_FAILED] := by
  rw [call_eq, Context.classify_rejected h]
  exact ⟨rfl, rfl⟩

theorem call_exhausted {run : JobRun} {i : Nat} (h : run.answer i = .retryable)
    (hbudget : run.budget ≤ i)
    : (run.call i).outcome.isPermanent = true ∧ (run.call i).jobs = [JOB_FAILED] := by
  rw [call_eq, Context.classify_retryable h, run.jobTry i, run.policy i, if_pos]
  . exact ⟨rfl, rfl⟩
  . exact hbudget

/-- The delay of the retry after a try. -/
def wait (run : JobRun) (i : Nat) : Except FloatError PyFloat :=
  run.settings.retryPolicy.delayFor (i + 1) (retryAfterHint (run.result i).errorMessage)

/-- The tries that another one is meant to follow. -/
def Retries (run : JobRun) (i : Nat) : Prop :=
  run.answer i = .retryable ∧ i < run.budget

theorem call_retried {run : JobRun} {i : Nat} (h : run.Retries i)
    : (run.call i).outcome = .ofDelay (run.wait i)
        ∧ (run.call i).jobs = if (run.wait i).isOk then [JOB_RETRIED] else [] := by
  rw [call_eq, Context.classify_retryable h.1, run.jobTry i, run.policy i, if_neg]
  . dsimp only
    rw [Context.outcome_retried, Context.jobs_retried, run.jobTry i, run.policy i]
    exact ⟨rfl, rfl⟩
  . exact Int.not_le.mpr h.2

theorem jobs_retried {run : JobRun} {i : Nat} (h : run.Retries i)
    (hfits : fitsRetry (run.wait i) = true) : (run.call i).jobs = [JOB_RETRIED] := by
  rw [(call_retried h).2]
  cases hwait : run.wait i with
  | ok delay => rfl
  | error error =>
    rw [hwait] at hfits
    contradiction

theorem eq_of_mem_jobs_retried {run : JobRun} {i : Nat} (h : run.Retries i)
    : ∀ outcome ∈ (run.call i).jobs, outcome = JOB_RETRIED := by
  rw [(call_retried h).2]
  split
  . simp
  . simp

theorem isRetry_of_isPermanent {outcome : Outcome} (h : outcome.isPermanent = true)
    : outcome.isRetry = false := by
  cases outcome with
  | permanentNotificationFailure message => rfl
  | _ => injection h

theorem isRetry_call {run : JobRun} {i : Nat}
    : (run.call i).outcome.isRetry = true ↔ run.Retries i ∧ fitsRetry (run.wait i) = true := by
  by_cases hretries : run.Retries i
  . rw [(call_retried hretries).1, Outcome.isRetry_ofDelay, and_iff_right hretries]
  . simp only [hretries, false_and, iff_false, Bool.not_eq_true]
    cases h : run.answer i with
    | delivered =>
      rw [(call_delivered h).1]
      rfl
    | rejected => exact isRetry_of_isPermanent (call_rejected h).1
    | retryable =>
      have hbudget := not_and.mp hretries h
      exact isRetry_of_isPermanent (call_exhausted h (by omega)).1

def EndsBy (run : JobRun) (m : Nat) : Prop :=
  if run.answer m = .delivered then
    (run.call m).outcome = .returned "delivered" ∧ (run.call m).jobs = [JOB_COMPLETED]
  else
    (run.call m).outcome.isPermanent = true ∧ (run.call m).jobs = [JOB_FAILED]

/--
The calls are the tries up to the first answer that is not retryable, or else up to the budget;
each sends the message once, and the last one ends the job.
-/
def KeepsBudget (run : JobRun) : Prop :=
  ∃ m : Nat, 1 ≤ m ∧ m ≤ run.budget
    ∧ (∀ i, 1 ≤ i → i < m → run.answer i = .retryable)
    ∧ (m = run.budget ∨ run.answer m ≠ .retryable)
    ∧ runJob run.call = ((List.range' 1 m).map run.call, .ended (run.call m).outcome)
    ∧ (∀ i, 1 ≤ i → i ≤ m → (run.call i).sent = [run.message])
    ∧ (∀ i, 1 ≤ i → i < m → (run.call i).jobs = [JOB_RETRIED])
    ∧ run.EndsBy m

/-- The delays of the retries that the answers ask for are such as a `Retry` can be made of. -/
def DelaysFit (run : JobRun) : Prop :=
  ∀ i : Nat, 1 ≤ i → i < run.budget → (∀ j, 1 ≤ j → j ≤ i → run.answer j = .retryable) →
    fitsRetry (run.wait i) = true

theorem endsBy_of_not_retries {run : JobRun} {m : Nat} (h : ¬run.Retries m) : run.EndsBy m := by
  unfold EndsBy
  cases hanswer : run.answer m with
  | delivered =>
    rw [if_pos rfl]
    apply call_delivered
    assumption
  | rejected =>
    rw [if_neg (by simp)]
    apply call_rejected
    assumption
  | retryable =>
    rw [if_neg (by simp)]
    apply call_exhausted hanswer
    have hbudget := not_and.mp h hanswer
    omega

theorem exists_last (run : JobRun)
    : ∃ m, 1 ≤ m ∧ ¬run.Retries m ∧ ∀ i, 1 ≤ i → i < m → run.Retries i := by
  classical
  have hex : ∃ m, 1 ≤ m ∧ ¬run.Retries m := by
    refine ⟨run.budget.toNat, ?_, ?_⟩
    . have := run.settings.one_le_maxAttempts
      unfold budget
      omega
    . rintro ⟨-, hlt⟩
      omega
  refine ⟨Nat.find hex, (Nat.find_spec hex).1, (Nat.find_spec hex).2, ?_⟩
  intro i hi hlt
  have hmin := Nat.find_min hex hlt
  rw [not_and, not_not] at hmin
  exact hmin hi

theorem runJob_of_last {run : JobRun} {m : Nat} (hm : 1 ≤ m) (hle : m ≤ WorkerSettings.maxTries)
    (hlast : (run.call m).outcome.isRetry = false)
    (hretry : ∀ i, 1 ≤ i → i < m → (run.call i).outcome.isRetry = true)
    : runJob run.call = ((List.range' 1 m).map run.call, .ended (run.call m).outcome) := by
  unfold runJob
  have hsplit : WorkerSettings.maxTries = (m - 1) + ((WorkerSettings.maxTries - m) + 1) := by omega
  have hnext : 1 + (m - 1) = m := by omega
  have hrange : List.range' 1 (m - 1 + 1) = List.range' 1 (m - 1) ++ [1 + (m - 1)] :=
    List.range'_1_concat
  rw [hnext, Nat.sub_add_cancel hm] at hrange
  rw [hsplit, runTries_add, hnext, runTries_of_not_isRetry hlast, hrange, List.map_append,
    List.map_singleton]
  intro i hi hlt
  apply hretry i hi
  omega

/-- The framework's bound leaves the job room for its budget, or the answers need none. -/
def HasRoom (run : JobRun) : Prop :=
  run.budget ≤ WorkerSettings.maxTries
    ∨ ∃ i, 1 ≤ i ∧ i ≤ WorkerSettings.maxTries ∧ run.answer i ≠ .retryable

theorem HasRoom.le_maxTries {run : JobRun} (hroom : run.HasRoom) {m : Nat}
    (hretries : ∀ i, 1 ≤ i → i < m → run.Retries i) : m ≤ WorkerSettings.maxTries := by
  by_contra hgt
  cases hroom with
  | inl hbudget =>
    have := (hretries WorkerSettings.maxTries (by decide) (by omega)).2
    omega
  | inr hanswer =>
    rcases hanswer with ⟨i, hi, hile, hne⟩
    exact hne (hretries i hi (by omega)).1

theorem keepsBudget_of_room {run : JobRun} (hroom : run.HasRoom) (hfit : run.DelaysFit)
    : run.KeepsBudget := by
  rcases run.exists_last with ⟨m, hm, hlast, hretries⟩
  have hle := hroom.le_maxTries hretries
  have hbudget : m ≤ run.budget := by
    by_cases hone : m = 1
    . have := run.settings.one_le_maxAttempts
      unfold budget
      omega
    . have := (hretries (m - 1) (by omega) (by omega)).2
      omega
  have hnot : (run.call m).outcome.isRetry = false := by
    rw [← Bool.not_eq_true, isRetry_call]
    intro h
    exact hlast h.1
  have hfits : ∀ i, 1 ≤ i → i < m → fitsRetry (run.wait i) = true := by
    intro i hi hlt
    apply hfit i hi (hretries i hi hlt).2
    intro j hj hji
    exact (hretries j hj (by omega)).1
  have hretry : ∀ i, 1 ≤ i → i < m → (run.call i).outcome.isRetry = true := by
    intro i hi hlt
    rw [isRetry_call]
    exact ⟨hretries i hi hlt, hfits i hi hlt⟩
  refine ⟨m, hm, hbudget, ?_, ?_, runJob_of_last hm hle hnot hretry, ?_, ?_,
    endsBy_of_not_retries hlast⟩
  . intro i hi hlt
    exact (hretries i hi hlt).1
  . by_cases hanswer : run.answer m = .retryable
    . left
      have := not_and.mp hlast hanswer
      omega
    . apply Or.inr
      assumption
  . intro i _ _
    exact run.sent_call i
  . intro i hi hlt
    exact jobs_retried (hretries i hi hlt) (hfits i hi hlt)

/-- A job with a delay that fits no `Retry` ends with it, and all it has counted are retries. -/
theorem runJob_of_not_delaysFit {run : JobRun} (hroom : run.HasRoom) (h : ¬run.DelaysFit)
    : ∃ m, 1 ≤ m ∧ runJob run.call = ((List.range' 1 m).map run.call, .ended (run.call m).outcome)
        ∧ ∀ i, 1 ≤ i → i ≤ m → ∀ outcome ∈ (run.call i).jobs, outcome = JOB_RETRIED := by
  simp only [DelaysFit, not_forall, Bool.not_eq_true] at h
  rcases h with ⟨i, hi, hlt, hanswers, hfit⟩
  have hretries : ∀ j, 1 ≤ j → j ≤ i → run.Retries j := by
    intro j hj hji
    exact ⟨hanswers j hj hji, by omega⟩
  have hex : ∃ m, 1 ≤ m ∧ (run.call m).outcome.isRetry = false := by
    refine ⟨i, hi, ?_⟩
    rw [(call_retried (hretries i hi (le_refl i))).1, Outcome.isRetry_ofDelay, hfit]
  have hle : Nat.find hex ≤ i := by
    apply Nat.find_min' hex
    refine ⟨hi, ?_⟩
    rw [(call_retried (hretries i hi (le_refl i))).1, Outcome.isRetry_ofDelay, hfit]
  have hbefore : ∀ j, 1 ≤ j → j < Nat.find hex → (run.call j).outcome.isRetry = true := by
    intro j hj hji
    have hmin := Nat.find_min hex hji
    rw [not_and, Bool.not_eq_false] at hmin
    exact hmin hj
  have hmax : Nat.find hex ≤ WorkerSettings.maxTries := by
    apply hroom.le_maxTries
    intro j hj hji
    exact hretries j hj (by omega)
  refine ⟨Nat.find hex, (Nat.find_spec hex).1,
    runJob_of_last (Nat.find_spec hex).1 hmax (Nat.find_spec hex).2 hbefore, ?_⟩
  intro j hj hji
  exact eq_of_mem_jobs_retried (hretries j hj (by omega))

theorem jobs_of_endsBy {run : JobRun} {m : Nat} (h : run.EndsBy m)
    : (run.call m).jobs = [JOB_COMPLETED] ∨ (run.call m).jobs = [JOB_FAILED] := by
  unfold EndsBy at h
  split at h
  . exact Or.inl h.2
  . exact Or.inr h.2

/--
A job keeps its budget exactly when the framework's bound leaves it room for that, and when each of
its retries can be raised.
-/
theorem keepsBudget_iff (run : JobRun) : run.KeepsBudget ↔ run.HasRoom ∧ run.DelaysFit := by
  constructor
  . rintro ⟨m, hm, -, -, hend, hjob, -, -, hends⟩
    have hlength := length_runTries_le run.call WorkerSettings.maxTries 1
    rw [← runJob, hjob, List.length_map, List.length_range'] at hlength
    have hroom : run.HasRoom := by
      cases hend with
      | inl hbudget =>
        left
        omega
      | inr hanswer => exact Or.inr ⟨m, hm, hlength, hanswer⟩
    refine ⟨hroom, ?_⟩
    by_contra hfit
    rcases runJob_of_not_delaysFit hroom hfit with ⟨m', hm', hjob', hretried⟩
    rw [hjob'] at hjob
    have hsame := congrArg (fun ending => ending.1.length) hjob
    simp only [List.length_map, List.length_range'] at hsame
    rw [hsame] at hm' hretried
    -- its last call is one of those that count a retry or nothing
    have hcounted := hretried m hm' (le_refl m)
    rcases jobs_of_endsBy hends with hjobs | hjobs
    . rw [hjobs] at hcounted
      exact absurd (hcounted JOB_COMPLETED List.mem_cons_self) (by decide)
    . rw [hjobs] at hcounted
      exact absurd (hcounted JOB_FAILED List.mem_cons_self) (by decide)
  . rintro ⟨hroom, hfit⟩
    exact keepsBudget_of_room hroom hfit

end JobRun

def unconfigured : Settings :=
  { Settings.defaults with notificationMaxAttempts := 30, one_le_maxAttempts := by decide }

/-- An interpreter as far as the examples need it. -/
def interpreter : Interpreter where
  str value :=
    match value with
    | .int n => Json.intText n
    | _ => value.typeName
  frames := 900

def unconfiguredMessage : NotificationMessage :=
  NotificationDispatcher.greeting .telegram

def unconfiguredJob : NotificationJob :=
  ⟨ofString "telegram", ofString "42", ofString "Hello", ofString "event", [], by decide,
    unconfiguredMessage.recipient.address_ne, unconfiguredMessage.text_ne,
    unconfiguredMessage.category_ne⟩

theorem reconstruct_unconfiguredJob
    : reconstruct unconfiguredJob.toPayload = .ok (unconfiguredJob, unconfiguredMessage) := rfl

def unconfiguredDelays : unconfigured.retryPolicy.Finite :=
  ⟨5, 300, rfl, rfl⟩

def unconfiguredRun : JobRun where
  settings := unconfigured
  payload := unconfiguredJob.toPayload
  job := unconfiguredJob
  message := unconfiguredMessage
  reconstructs := reconstruct_unconfiguredJob
  context i := {
    dispatcher := buildNotificationDispatcher interpreter unconfigured .timeout
    policy := unconfigured.retryPolicy
    jobId := []
    jobTry := i
    started := 0
    finished := 0
  }
  policy _ := rfl
  jobTry _ := rfl
  result _ :=
    NotificationDispatcher.deliver
      ((telegram none (ofString "10.0")).provider interpreter .timeout) unconfiguredMessage
  answers _ := rfl

/-- The framework ends the job after twenty-five of its thirty attempts, as no call of it does. -/
theorem unconfiguredRun_cut_short :
    (runJob unconfiguredRun.call).1.length = 25
      ∧ (runJob unconfiguredRun.call).2 = .maxTries
      ∧ unconfiguredRun.budget = 30
      ∧ ¬unconfiguredRun.KeepsBudget := by
  have hanswer : ∀ i, unconfiguredRun.answer i = .retryable := fun _ => rfl
  have hhint : retryAfterHint (unconfiguredRun.result 0).errorMessage = none := by decide +kernel
  have hretry : ∀ i, 1 ≤ i → i < 1 + WorkerSettings.maxTries →
      (unconfiguredRun.call i).outcome.isRetry = true := by
    intro i _ hlt
    rw [JobRun.isRetry_call]
    have hbudget : unconfiguredRun.budget = 30 := rfl
    simp only [WorkerSettings.maxTries] at hlt
    refine ⟨⟨hanswer i, by omega⟩, ?_⟩
    have hle := unconfiguredDelays.deferral_le i 0
    have hwait : unconfiguredRun.wait i = .ok (.finite (unconfiguredDelays.deferral i 0)) := by
      rw [JobRun.wait, show retryAfterHint (unconfiguredRun.result i).errorMessage = none from hhint]
      have hdelay := unconfiguredDelays.delayFor_succ (show (1 : Int) ≤ i by omega) none
      rwa [if_pos (by omega)] at hdelay
    rw [hwait]
    apply unconfiguredDelays.isDelta_deferral.mpr
    exact lt_of_le_of_lt hle (by decide +kernel)
  have hjob := runTries_add 0 hretry
  rw [Nat.add_zero, ← runJob] at hjob
  refine ⟨?_, ?_, rfl, ?_⟩
  . rw [hjob]
    simp [runTries, WorkerSettings.maxTries]
  . rw [hjob, runTries]
  . rintro ⟨m, -, -, -, -, hends, -⟩
    rw [hjob, runTries] at hends
    injection hends with _ hends
    injection hends

end Api
