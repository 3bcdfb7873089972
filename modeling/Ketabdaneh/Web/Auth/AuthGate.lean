import Ketabdaneh.Library.React
import Ketabdaneh.Library.Text.Basic

/-!
This module contains the boundary of the protected application.
-/

namespace Web

open Text

/-- What the gate reads on a render. -/
structure GateProps where
  isLoading : Bool
  isAuthenticated : Bool
  pathname : Str
  locale : Str
  deriving DecidableEq

inductive GateView where
  | loading
  | nothing
  | children
  deriving DecidableEq

/-- `router.replace({ pathname, query: { returnTo } }, { locale })` -/
structure Redirect where
  pathname : Str
  returnTo : Str
  locale : Str
  deriving DecidableEq

structure AuthGate where
  redirecting : Bool := false
  effect : React.Effect GateProps := {}

namespace AuthGate

def view (props : GateProps) : GateView :=
  if props.isLoading then
    .loading
  else if !props.isAuthenticated then
    .nothing
  else
    .children

def toLogin (props : GateProps) : Redirect where
  pathname := ofString "/login"
  returnTo := props.pathname
  locale := props.locale

def redirect (gate : AuthGate) (props : GateProps) : AuthGate × Option Redirect :=
  if props.isLoading || props.isAuthenticated then
    (gate, none)
  else if gate.redirecting then
    (gate, none)
  else
    ({ gate with redirecting := true }, some (toLogin props))

/-- A commit and its effect, which runs before the next one. -/
def commit (gate : AuthGate) (props : GateProps) : AuthGate × Option Redirect :=
  let effect := gate.effect.commit props
  match effect.due with
  | none => ({ gate with effect := effect }, none)
  | some props => redirect { gate with effect := effect.ran } props

def after (gate : AuthGate) (commits : List GateProps) : AuthGate :=
  commits.foldl (fun gate props => (gate.commit props).1) gate

/-- What the effects of the commits redirect to. -/
def redirects (gate : AuthGate) : List GateProps → List Redirect
  | [] => []
  | props :: commits => (gate.commit props).2.toList ++ redirects (gate.commit props).1 commits

end AuthGate

end Web
