import Ketabdaneh.Library.Text.Basic
import Ketabdaneh.Library.Transition

/-!
This module contains the client-side session: the token in the browser's storage, the user of
`AuthProvider`, and the API requests in flight with the tokens they were sent with.
-/

namespace Web

open Text

def saveAccessToken (token : Str) : Option Str :=
  if token ≠ [] then some token else none

def readAccessToken (item : Option Str) : Option Str :=
  item.filter fun token => token ≠ []

def clearAccessToken : Option Str :=
  none

structure LoginResponse where
  accessToken : Str
  tokenType : Str
  expiresIn : Int

structure AuthenticatedUser where
  id : Str
  username : Str
  active : Bool
  deriving DecidableEq

/-- The user of the provider, with the token its `/me` request carried. -/
structure SessionUser where
  me : AuthenticatedUser
  sentWith : Option Str
  deriving DecidableEq

/-- What the code that sent a request goes on to do with its answer. -/
inductive Flow where
  | restoration
  | login
  | loginMe
  | refreshUser
  | other
  deriving DecidableEq

structure InFlight where
  flow : Flow
  /-- The token read when the request was sent. -/
  token : Option Str
  /-- The error status that has arrived, while its body has not. -/
  rejected : Option Nat := none
  deriving DecidableEq

structure Session where
  storage : Option Str
  user : Option SessionUser := none
  isLoading : Bool := true
  pending : List InFlight := []
  deriving DecidableEq

namespace Session

def isAuthenticated (s : Session) : Bool :=
  s.user.isSome

def send (s : Session) (flow : Flow) : Session :=
  { s with pending := s.pending ++ [{ flow, token := readAccessToken s.storage }] }

def settle (s : Session) (i : Nat) : Session :=
  { s with pending := s.pending.eraseIdx i }

def mount (item : Option Str) : Session :=
  match readAccessToken item with
  | none => { storage := item, isLoading := false }
  | some _ => send { storage := item } .restoration

def logout (s : Session) : Session :=
  { s with storage := saveAccessToken [], user := none }

def handleUnauthorized (s : Session) : Session :=
  -- the only listener is the provider's, which resets the user
  { s with storage := clearAccessToken, user := none }

def reject (s : Session) (i : Nat) (request : InFlight) (status : Nat) : Session :=
  let s := if status = 401 ∧ request.token.isSome then s.handleUnauthorized else s
  { s with pending := s.pending.set i { request with rejected := some status } }

/-- The request ends with an `ApiError`, which only the restoration catches in the provider. -/
def caught (s : Session) : Flow → Session
  | .restoration => { s with user := none, isLoading := false }
  | _ => s

def setUser (s : Session) (request : InFlight) (me : AuthenticatedUser) : Session :=
  { s with user := some ⟨me, request.token⟩ }

end Session

inductive Body where
  | me (user : AuthenticatedUser)
  | login (response : LoginResponse)
  | other

namespace Session

def answered (s : Session) (request : InFlight) : Body → Option Session
  | .me user =>
    match request.flow with
    | .restoration => some { s.setUser request user with isLoading := false }
    | .loginMe => some (s.setUser request user)
    | .refreshUser => some (s.setUser request user)
    | _ => none
  | .login response =>
    match request.flow with
    | .login => some (send { s with storage := saveAccessToken response.accessToken } .loginMe)
    | _ => none
  | .other =>
    match request.flow with
    | .other => some s
    | _ => none

inductive Action where
  | login
  | logout
  | refreshUser
  | request
  | reject (i : Nat) (status : Nat)
  | errorBody (i : Nat)
  | fail (i : Nat)
  | answer (i : Nat) (body : Body)

def awaited (s : Session) (i : Nat) : Option InFlight :=
  s.pending[i]?.filter fun request => request.rejected.isNone

def erroring (s : Session) (i : Nat) : Option InFlight :=
  s.pending[i]?.filter fun request => request.rejected.isSome

def step (s : Session) : Action → Option Session
  | .login => some (s.send .login)
  | .logout => some s.logout
  | .refreshUser => some (s.send .refreshUser)
  | .request => some (s.send .other)
  | .reject i status =>
    -- the client takes the statuses outside 200..299 for errors
    if 200 ≤ status ∧ status ≤ 299 then none
    else (s.awaited i).map fun request => s.reject i request status
  | .errorBody i => (s.erroring i).map fun request => (s.settle i).caught request.flow
  | .fail i => (s.awaited i).map fun request => (s.settle i).caught request.flow
  | .answer i body => (s.awaited i).bind fun request => (s.settle i).answered request body

@[simp]
theorem send_storage (s : Session) (flow : Flow) : (s.send flow).storage = s.storage := rfl

@[simp]
theorem send_user (s : Session) (flow : Flow) : (s.send flow).user = s.user := rfl

@[simp]
theorem settle_storage (s : Session) (i : Nat) : (s.settle i).storage = s.storage := rfl

@[simp]
theorem settle_user (s : Session) (i : Nat) : (s.settle i).user = s.user := rfl

@[simp]
theorem caught_storage (s : Session) (flow : Flow) : (s.caught flow).storage = s.storage := by
  cases flow with
  | restoration => rfl
  | _ => rfl

theorem caught_user (s : Session) (flow : Flow)
    : (s.caught flow).user = if flow = .restoration then none else s.user := by
  cases flow with
  | restoration => rfl
  | _ => rfl

theorem mount_user (item : Option Str) : (mount item).user = none := by
  unfold mount
  split
  . rfl
  . rfl

theorem reject_unauthorized (s : Session) (i : Nat) {request : InFlight}
    (h : request.token.isSome)
    : (s.reject i request 401).storage = none ∧ (s.reject i request 401).user = none := by
  simp [reject, h, handleUnauthorized, clearAccessToken]

theorem reject_of_not {s : Session} {i status : Nat} {request : InFlight}
    (h : ¬(status = 401 ∧ request.token.isSome))
    : (s.reject i request status).storage = s.storage
        ∧ (s.reject i request status).user = s.user := by
  simp [reject, h]

end Session

end Web
