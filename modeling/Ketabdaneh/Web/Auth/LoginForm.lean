import Ketabdaneh.Library.React
import Ketabdaneh.Web.Auth.ReturnTo

/-!
This module contains the login form: the navigations it issues and the state they depend on.
-/

namespace Web

open Text

/-- The dependencies of the bounce. -/
structure BounceDeps where
  isLoading : Bool
  isAuthenticated : Bool
  submitting : Bool
  deriving DecidableEq

/-- What the form does that can be seen outside. -/
inductive LoginEvent where
  | login (username password : Str)
  | loggedIn
  | loginFailed
  /-- `router.replace("/dashboard")` of the effect -/
  | bounce
  /-- `router.replace` of a submit -/
  | navigate (path : Str)
  deriving DecidableEq

structure LoginForm where
  isLoading : Bool
  isAuthenticated : Bool
  submitting : Bool := false
  bounced : Bool := false
  effect : React.Effect BounceDeps := {}
  /-- How many submits wait for `login`. -/
  waiting : Nat := 0
  trace : List LoginEvent := []

namespace LoginForm

/-- Where a login leads, with the `returnTo` parameter of the page. -/
def destination (returnTo : Option Str) : Str :=
  match sanitizeReturnTo returnTo with
  | some target => target.path
  | none => ofString "/dashboard"

def deps (form : LoginForm) : BounceDeps :=
  ⟨form.isLoading, form.isAuthenticated, form.submitting⟩

def emit (form : LoginForm) (events : List LoginEvent) : LoginForm :=
  { form with trace := form.trace ++ events }

def bounce (form : LoginForm) (deps : BounceDeps) : LoginForm :=
  if deps.isLoading || !deps.isAuthenticated || deps.submitting || form.bounced then
    form
  else
    { form with bounced := true }.emit [.bounce]

/-- The effect of the last commit runs, unless it has. -/
def runEffects (form : LoginForm) : LoginForm :=
  match form.effect.due with
  | none => form
  | some deps => { form with effect := form.effect.ran }.bounce deps

def commit (form : LoginForm) : LoginForm :=
  { form with effect := form.effect.commit form.deps }

def mount (isLoading isAuthenticated : Bool) : LoginForm :=
  commit { isLoading, isAuthenticated }

inductive Action where
  /-- React renders another state of the provider. -/
  | provider (isLoading isAuthenticated : Bool)
  /-- React runs the effect of the last commit. -/
  | effects
  | submit (username password : Str)
  | loggedIn
  | loginFailed

/-- The form submits `username` and `password`, with white space around the name removed. -/
def handleSubmit (form : LoginForm) (username password : Str) : LoginForm :=
  if form.submitting then
    form
  else if trim username = [] ∨ password = [] then
    -- the messages that are shown then are no dependencies of the effect
    form
  else
    let form := form.emit [.login (trim username) password]
    -- the effect of the last commit has the values of that commit
    { form.runEffects with submitting := true, waiting := form.waiting + 1 }.commit

def step (returnTo : Option Str) (form : LoginForm) : Action → Option LoginForm
  | .provider isLoading isAuthenticated =>
    some { form.runEffects with isLoading, isAuthenticated }.commit
  | .effects => some form.runEffects
  | .submit username password => some (form.handleSubmit username password)
  | .loggedIn =>
    if form.waiting = 0 then none
    else
      some ({ form with waiting := form.waiting - 1 }.emit
        [.loggedIn, .navigate (destination returnTo)])
  | .loginFailed =>
    if form.waiting = 0 then none
    else
      let form := { form with waiting := form.waiting - 1 }.emit [.loginFailed]
      some { form.runEffects with submitting := false }.commit

end LoginForm

end Web
