import Ketabdaneh.Api.Worker.Service
import Ketabdaneh.Library.Transition

/-!
This module contains the pool of the notification service, as calls that run at the same time share
it: each goes on from one `await` to the next, and between two of them no other does.
-/

namespace Api

/-- The pool that the service is constructed with, or the one it has created as this many-th. -/
inductive Pool where
  | injected
  | created (n : Nat)
  deriving DecidableEq

/-- What a call waits for. -/
inductive Await where
  | createPool
  | enqueueJob (pool : Pool)
  | aclose (pool : Pool)
  deriving DecidableEq

structure ServicePool where
  /-- `self._pool` -/
  pool : Option Pool := none
  /-- How many pools the service has created. -/
  created : Nat := 0
  /-- The pools that were closed, with or without an exception. -/
  closed : List Pool := []
  calls : List Await := []
  /-- Whether the last that happened was the return of a `close`. -/
  closes : Bool := false

inductive ServiceAction where
  /-- A call of `enqueue_notification`, with a notification that makes a job or not. -/
  | enqueueNotification (valid : Bool)
  | poolCreated (index : Nat) (connects : Bool)
  | jobEnqueued (index : Nat) (queued : Bool)
  | close
  | poolClosed (index : Nat)

namespace ServicePool

def init (injected : Bool) : ServicePool where
  pool := if injected then some .injected else none

variable (service : ServicePool)

def wait (await : Await) : ServicePool :=
  { service with calls := service.calls ++ [await], closes := false }

def leave (index : Nat) : ServicePool :=
  { service with calls := service.calls.eraseIdx index, closes := false }

/-- `_get_pool`, up to its `await`, if it comes to it. -/
def getPool : Await :=
  match service.pool with
  | none => .createPool
  | some pool => .enqueueJob pool

def enqueueNotification (valid : Bool) : ServicePool :=
  if valid then service.wait service.getPool else { service with closes := false }

def poolCreated (index : Nat) (connects : Bool) : ServicePool :=
  if connects then
    let pool := Pool.created service.created
    {
      service with
      pool := some pool
      created := service.created + 1
      calls := service.calls.set index (.enqueueJob pool)
      closes := false
    }
  else
    service.leave index

def jobEnqueued (index : Nat) (queued : Bool) : ServicePool :=
  if queued then service.leave index else { service.leave index with pool := none }

def close : ServicePool :=
  match service.pool with
  | none => { service with closes := true }
  | some pool => service.wait (.aclose pool)

def poolClosed (index : Nat) (pool : Pool) : ServicePool where
  pool := none
  created := service.created
  closed := pool :: service.closed
  calls := service.calls.eraseIdx index
  closes := true

def step : ServiceAction → Option ServicePool
  | .enqueueNotification valid => some (service.enqueueNotification valid)
  | .poolCreated index connects =>
    match service.calls[index]? with
    | some .createPool => some (service.poolCreated index connects)
    | _ => none
  | .jobEnqueued index queued =>
    match service.calls[index]? with
    | some (.enqueueJob _) => some (service.jobEnqueued index queued)
    | _ => none
  | .close => some service.close
  | .poolClosed index =>
    match service.calls[index]? with
    | some (.aclose pool) => some (service.poolClosed index pool)
    | _ => none

end ServicePool

end Api
