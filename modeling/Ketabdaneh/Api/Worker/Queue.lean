import Ketabdaneh.Api.Worker.Worker
import Ketabdaneh.Library.Parties

/-!
This module contains a worker process that has several jobs at work: each waits for its provider
while others go on, and all of them count on the same metrics.
-/

namespace Api

open Python Text Transition

/-- A job of the queue, and what each of its tries meets. -/
structure QueuedJob where
  jobId : Str
  payload : Value
  exchange : Nat → Exchange
  started : Nat → Rat
  finished : Nat → Rat

/-- The process, with the dispatcher and the policy that its startup puts in the context. -/
structure WorkerProcess where
  python : Interpreter
  settings : Settings

/-- Where a job stands: the calls that have ended, and whether another one is under way. -/
structure Running where
  job : QueuedJob
  deliveries : List Delivery := []
  inFlight : Bool := false
  ending : Option JobEnd := none

/-- The framework calls again after a `Retry`, and after nothing else. -/
def endingOf : Outcome → Option JobEnd
  | .retry _ => none
  | outcome => some (.ended outcome)

inductive TryStep where
  | begin
  | finish

namespace WorkerProcess

variable (worker : WorkerProcess)

def context (job : QueuedJob) (i : Nat) : Context where
  dispatcher := buildNotificationDispatcher worker.python worker.settings (job.exchange i)
  policy := worker.settings.retryPolicy
  jobId := job.jobId
  jobTry := i
  started := job.started i
  finished := job.finished i

def call (job : QueuedJob) (i : Nat) : Delivery :=
  deliverNotification (worker.context job i) job.payload

/-- A call counts after its one wait, for the provider, and at once. -/
def act (running : Running) : TryStep → Option (Running × List Observation)
  | .begin =>
    if running.inFlight ∨ running.ending.isSome then
      none
    else if running.deliveries.length < WorkerSettings.maxTries then
      some ({ running with inFlight := true }, [])
    else
      some ({ running with ending := some .maxTries }, [])
  | .finish =>
    if running.inFlight then
      let delivery := worker.call running.job (running.deliveries.length + 1)
      some ({
        running with
        deliveries := running.deliveries ++ [delivery]
        inFlight := false
        ending := endingOf delivery.outcome
      }, delivery.observations)
    else
      none

abbrev Queue :=
  Parties Running Observation

def step : Queue → Move QueuedJob TryStep → Option Queue :=
  Parties.step (fun job => { job }) worker.act

end WorkerProcess

def WorkerProcess.Queue.metrics (queue : WorkerProcess.Queue) : Metrics :=
  queue.log.foldl Observation.record {}

end Api
