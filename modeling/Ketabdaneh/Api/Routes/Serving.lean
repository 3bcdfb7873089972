import Ketabdaneh.Api.Routes.Requests
import Ketabdaneh.Library.Transaction.Concurrent

/-!
This module contains requests that are served beside one another, and the same requests served one
after the other.
-/

namespace Api

open Transaction

variable {ι : Type}

/-- Any number of requests, their statements in any order and among other writes for the users. -/
def serve [Fintype ι] [DecidableEq ι] (deployment : Deployment) (requests : ι → ProtectedRequest)
    (data : Data) (schedule : List (Action ι AccountWrite))
    : Option (System ι Data NewRow Empty Raised Response) :=
  Transition.run ((dataSchema .unhandled).act Data.write)
    (System.start data fun i => (requests i).statements deployment) schedule

/-- One whole request, or a write for the users. -/
def Data.after (deployment : Deployment) (requests : ι → ProtectedRequest) (data : Data)
    : Action ι AccountWrite → Data
  | .statement i => ((requests i).handle deployment data).2
  | .change write => data.write write

def Data.afterAll (deployment : Deployment) (requests : ι → ProtectedRequest) (data : Data)
    (actions : List (Action ι AccountWrite)) : Data :=
  actions.foldl (Data.after deployment requests) data

end Api
