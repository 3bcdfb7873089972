import Ketabdaneh.Library.Trace
import Ketabdaneh.Library.Transition
import Ketabdaneh.Web.Auth.LoginForm

/-!
This module contains which navigations the login form issues, over every interleaving of its events.
-/

namespace Web

open Text Trace Transition

namespace LoginEvent

def isLogin : LoginEvent → Bool
  | .login _ _ => true
  | _ => false

def isSettled : LoginEvent → Bool
  | .loggedIn => true
  | .loginFailed => true
  | _ => false

def isNavigate : LoginEvent → Bool
  | .navigate _ => true
  | _ => false

/-- How many of the logins have not ended. -/
def pending (trace : List LoginEvent) : Nat :=
  trace.countP isLogin - trace.countP isSettled

/-- What may follow the events before: `destination` is where a submit that succeeds goes to. -/
def Allowed (destination : Str) (before : List LoginEvent) : LoginEvent → Prop
  | .login _ _ => pending before = 0
  | .bounce => pending before = 0 ∧ loggedIn ∉ before ∧ bounce ∉ before
  | .navigate path => path = destination ∧ before.getLast? = some .loggedIn
  | _ => True

end LoginEvent

open LoginEvent

/-- What is promised of the navigations. -/
structure Navigates (destination : Str) (trace : List LoginEvent) : Prop where
  allowed : Each (Allowed destination) trace
  navigated : trace.countP isNavigate = trace.count .loggedIn

namespace LoginForm

variable {form form' : LoginForm} {destination : Str}

/-- The effect of the last commit, were it to run, would leave for the dashboard. -/
def bounces (form : LoginForm) : Bool :=
  match form.effect.due with
  | none => false
  | some deps => !(deps.isLoading || !deps.isAuthenticated || deps.submitting || form.bounced)

/-- A submit that calls `login` does not come between a commit and the effect that bounces. -/
def AfterEffects (form : LoginForm) : Action → Prop
  | .submit username password =>
    form.submitting = false → trim username ≠ [] → password ≠ [] → form.bounces = false
  | _ => True

structure Inv (form : LoginForm) : Prop where
  deps : form.effect.deps = some form.deps
  logins : form.trace.countP isLogin = form.waiting + form.trace.countP isSettled
  once : form.waiting + form.trace.count .loggedIn ≤ 1
  idle : form.submitting = false → form.waiting = 0 ∧ .loggedIn ∉ form.trace
  bounced : form.bounced = false → .bounce ∉ form.trace

def Sound (destination : Str) (form : LoginForm) : Prop :=
  form.Inv ∧ Navigates destination form.trace

theorem navigates_nil (destination : Str) : Navigates destination [] where
  allowed := each_nil
  navigated := rfl

theorem navigates_concat {destination : Str} {trace : List LoginEvent} {event : LoginEvent}
    (h : Navigates destination trace) (hevent : event.isNavigate = false) (hne : event ≠ .loggedIn)
    : Navigates destination (trace ++ [event]) ↔ Allowed destination trace event := by
  constructor
  . intro h'
    exact (each_concat.mp h'.allowed).2
  . intro hallowed
    constructor
    case allowed => exact each_concat.mpr ⟨h.allowed, hallowed⟩
    case navigated =>
      have hcount : [event].count .loggedIn = 0 := by
        rw [List.count_eq_zero, List.mem_singleton]
        exact hne.symm
      rw [List.countP_append, List.count_append, h.navigated, List.countP_singleton, hevent, hcount]
      rfl

theorem pending_concat_login {trace : List LoginEvent} {username password : Str}
    (h : trace.countP isSettled ≤ trace.countP isLogin)
    : LoginEvent.pending (trace ++ [.login username password]) = LoginEvent.pending trace + 1 := by
  unfold LoginEvent.pending
  simp [isLogin, isSettled]
  omega

/-- A success and the navigation that follows it. -/
theorem navigates_loggedIn {destination : Str} {trace : List LoginEvent}
    (h : Navigates destination trace)
    : Navigates destination (trace ++ [.loggedIn, .navigate destination]) := by
  rw [List.append_cons]
  constructor
  case allowed =>
    rw [each_concat, each_concat]
    refine ⟨⟨h.allowed, trivial⟩, rfl, ?_⟩
    rw [List.getLast?_concat]
  case navigated =>
    simp only [List.countP_append, List.count_append, h.navigated]
    rfl

namespace Inv

variable (h : form.Inv)

include h

theorem pending : LoginEvent.pending form.trace = form.waiting := by
  unfold LoginEvent.pending
  rw [h.logins]
  omega

/-- The effect that waits has the values that are shown. -/
theorem of_bounces (hbounces : form.bounces = true)
    : form.submitting = false ∧ form.bounced = false := by
  unfold bounces at hbounces
  cases hdue : form.effect.due with
  | none =>
    rw [hdue] at hbounces
    contradiction
  | some deps =>
    have hdeps := React.Effect.due_eq_some hdue
    rw [h.deps, Option.some.injEq] at hdeps
    rw [hdue, ← hdeps] at hbounces
    unfold LoginForm.deps at hbounces
    simp only [Bool.not_eq_true', Bool.or_eq_false_iff] at hbounces
    exact ⟨hbounces.1.2, hbounces.2⟩

theorem not_bounces_of_waiting (hwaiting : form.waiting ≠ 0) : form.bounces = false := by
  cases hbounces : form.bounces with
  | false => rfl
  | true => exact absurd (h.idle (h.of_bounces hbounces).1).1 hwaiting

end Inv

theorem bounce_eq (form : LoginForm) (deps : BounceDeps)
    : form.bounce deps
        =
      if deps.isLoading || !deps.isAuthenticated || deps.submitting || form.bounced then form
      else { form with bounced := true, trace := form.trace ++ [.bounce] } := by
  rfl

theorem runEffects_of_bounces (h : form.bounces = true)
    : form.runEffects
        =
      { form with
        effect := form.effect.ran
        bounced := true
        trace := form.trace ++ [.bounce] } := by
  unfold bounces at h
  unfold runEffects
  cases hdue : form.effect.due with
  | none =>
    rw [hdue] at h
    contradiction
  | some deps =>
    rw [hdue] at h
    dsimp only at h ⊢
    rw [Bool.not_eq_true'] at h
    rw [bounce_eq, if_neg]
    rw [h]
    decide

theorem runEffects_of_not_bounces (h : form.bounces = false)
    : ∃ effect : React.Effect BounceDeps, effect.deps = form.effect.deps
        ∧ form.runEffects = { form with effect } := by
  unfold bounces at h
  unfold runEffects
  cases hdue : form.effect.due with
  | none => exact ⟨form.effect, rfl, rfl⟩
  | some deps =>
    rw [hdue] at h
    dsimp only at h ⊢
    rw [Bool.not_eq_false'] at h
    rw [bounce_eq, if_pos h]
    exact ⟨form.effect.ran, rfl, rfl⟩

theorem sound_runEffects (h : form.Sound destination) : form.runEffects.Sound destination := by
  obtain ⟨hinv, hnavigates⟩ := h
  cases hbounces : form.bounces with
  | false =>
    obtain ⟨effect, hdeps, heq⟩ := runEffects_of_not_bounces hbounces
    rw [heq]
    refine ⟨⟨?_, hinv.logins, hinv.once, hinv.idle, hinv.bounced⟩, hnavigates⟩
    rw [hdeps, hinv.deps]
    rfl
  | true =>
    obtain ⟨hsubmitting, hbounced⟩ := hinv.of_bounces hbounces
    obtain ⟨hwaiting, hsucceeded⟩ := hinv.idle hsubmitting
    rw [runEffects_of_bounces hbounces]
    constructor
    . constructor
      case deps =>
        rw [React.Effect.deps_ran, hinv.deps]
        rfl
      case logins =>
        rw [List.countP_append, List.countP_append, hinv.logins]
        rfl
      case once =>
        have := hinv.once
        rw [List.count_append]
        exact this
      case idle =>
        intro _
        simp [hwaiting, hsucceeded]
      case bounced => simp
    . apply (navigates_concat hnavigates rfl (by simp)).mpr
      exact ⟨hinv.pending.trans hwaiting, hsucceeded, hinv.bounced hbounced⟩

theorem sound_provider (h : form.Sound destination) (isLoading isAuthenticated : Bool)
    : ({ form with isLoading, isAuthenticated }.commit).Sound destination := by
  obtain ⟨hinv, hnavigates⟩ := h
  refine ⟨⟨?_, hinv.logins, hinv.once, hinv.idle, hinv.bounced⟩, hnavigates⟩
  apply React.Effect.deps_commit

/-- A submit that calls `login` with no bounce under way. -/
theorem sound_submit (h : form.Sound destination) (hidle : form.submitting = false)
    (effect : React.Effect BounceDeps) (username password : Str)
    : ({ form with
          effect
          submitting := true
          waiting := form.waiting + 1
          trace := form.trace ++ [LoginEvent.login username password] }.commit).Sound destination := by
  obtain ⟨hinv, hnavigates⟩ := h
  obtain ⟨hwaiting, hsucceeded⟩ := hinv.idle hidle
  have hcount := List.count_eq_zero.mpr hsucceeded
  constructor
  . constructor
    case deps => apply React.Effect.deps_commit
    case logins =>
      simp only [commit, List.countP_append, hinv.logins]
      simp [isLogin, isSettled]
      omega
    case once =>
      simp [commit, List.count_append, hcount, hwaiting]
    case idle =>
      intro hfalse
      contradiction
    case bounced =>
      intro hbounced
      simp [commit, hinv.bounced hbounced]
  . apply (navigates_concat hnavigates rfl (by simp)).mpr
    exact hinv.pending.trans hwaiting

theorem sound_handleSubmit (h : form.Sound destination) {username password : Str}
    (hafter : form.AfterEffects (.submit username password))
    : (form.handleSubmit username password).Sound destination := by
  unfold handleSubmit
  cases hidle : form.submitting with
  | true => exact h
  | false =>
    rw [if_neg (by decide)]
    split
    . exact h
    . next hpresent =>
      rw [not_or] at hpresent
      have hbounces : (form.emit [.login (trim username) password]).bounces = false :=
        hafter hidle hpresent.1 hpresent.2
      obtain ⟨effect, _, heq⟩ := runEffects_of_not_bounces hbounces
      dsimp only
      rw [heq]
      exact sound_submit h hidle effect (trim username) password

/-- The effect of the commit before the submit runs once `login` is called. -/
theorem afterEffects_of_navigates (h : form.Sound destination) {username password : Str}
    (hnavigates : Navigates destination (form.handleSubmit username password).trace)
    : form.AfterEffects (.submit username password) := by
  intro hidle husername hpassword
  cases hcase : form.bounces with
  | false => rfl
  | true =>
    have hbounces : (form.emit [.login (trim username) password]).bounces = true := hcase
    unfold handleSubmit at hnavigates
    rw [if_neg (by simp [hidle]), if_neg (not_or_intro husername hpassword)] at hnavigates
    dsimp only at hnavigates
    rw [runEffects_of_bounces hbounces] at hnavigates
    have hallowed : LoginEvent.pending (form.trace ++ [.login (trim username) password]) = 0 :=
      (each_concat.mp hnavigates.allowed).2.1
    rw [pending_concat_login (by rw [h.1.logins]; omega)] at hallowed
    contradiction

theorem sound_loggedIn (h : form.Sound destination) (hwaiting : form.waiting ≠ 0)
    : ({ form with waiting := form.waiting - 1 }.emit
        [.loggedIn, .navigate destination]).Sound destination := by
  obtain ⟨hinv, hnavigates⟩ := h
  have honce := hinv.once
  constructor
  . constructor
    case deps => exact hinv.deps
    case logins =>
      have hlogins : [.loggedIn, .navigate destination].countP isLogin = 0 := rfl
      have hsettled : [.loggedIn, .navigate destination].countP isSettled = 1 := rfl
      simp only [emit, List.countP_append, hinv.logins, hlogins, hsettled]
      omega
    case once =>
      simp only [emit, List.count_append]
      simp
      omega
    case idle =>
      intro hidle
      exact absurd (hinv.idle hidle).1 hwaiting
    case bounced =>
      intro hbounced
      simp [emit, hinv.bounced hbounced]
  . exact navigates_loggedIn hnavigates

theorem sound_loginFailed (h : form.Sound destination) (hwaiting : form.waiting ≠ 0)
    : ({ ({ form with waiting := form.waiting - 1 }.emit [.loginFailed]).runEffects with
          submitting := false }.commit).Sound destination := by
  obtain ⟨hinv, hnavigates⟩ := h
  have honce := hinv.once
  have hbounces : ({ form with waiting := form.waiting - 1 }.emit [.loginFailed]).bounces = false :=
    hinv.not_bounces_of_waiting hwaiting
  obtain ⟨effect, _, heq⟩ := runEffects_of_not_bounces hbounces
  have hcount : form.trace.count .loggedIn = 0 := by
    omega
  rw [heq]
  constructor
  . constructor
    case deps => apply React.Effect.deps_commit
    case logins =>
      simp only [emit, commit, List.countP_append, hinv.logins]
      simp [isLogin, isSettled]
      omega
    case once =>
      simp only [emit, commit, List.count_append, hcount]
      simp
      omega
    case idle =>
      intro _
      constructor
      . simp only [emit, commit]
        omega
      . simp [emit, commit, List.count_eq_zero.mp hcount]
    case bounced =>
      intro hbounced
      simp [emit, commit, hinv.bounced hbounced]
  . exact (navigates_concat hnavigates rfl (by simp)).mpr trivial

variable {returnTo : Option Str}

theorem sound_step {action : Action} (h : form.Sound (LoginForm.destination returnTo))
    (hafter : form.AfterEffects action) (hstep : step returnTo form action = some form')
    : form'.Sound (LoginForm.destination returnTo) := by
  cases action with
  | provider isLoading isAuthenticated =>
    rw [← Option.some.inj hstep]
    exact sound_provider (sound_runEffects h) isLoading isAuthenticated
  | effects =>
    rw [← Option.some.inj hstep]
    exact sound_runEffects h
  | submit username password =>
    rw [← Option.some.inj hstep]
    exact sound_handleSubmit h hafter
  | loggedIn =>
    unfold step at hstep
    dsimp only at hstep
    split at hstep
    . contradiction
    . next hwaiting =>
      rw [← Option.some.inj hstep]
      exact sound_loggedIn h hwaiting
  | loginFailed =>
    unfold step at hstep
    dsimp only at hstep
    split at hstep
    . contradiction
    . next hwaiting =>
      rw [← Option.some.inj hstep]
      exact sound_loginFailed h hwaiting

theorem afterEffects_of_step {action : Action} (h : form.Sound (LoginForm.destination returnTo))
    (hstep : step returnTo form action = some form')
    (hnavigates : Navigates (LoginForm.destination returnTo) form'.trace)
    : form.AfterEffects action := by
  cases action with
  | submit username password =>
    rw [← Option.some.inj hstep] at hnavigates
    exact afterEffects_of_navigates h hnavigates
  | _ => trivial

theorem sound_mount (destination : Str) (isLoading isAuthenticated : Bool)
    : (mount isLoading isAuthenticated).Sound destination := by
  constructor
  . constructor
    case deps => apply React.Effect.deps_commit
    case logins => rfl
    case once => simp [mount, commit]
    case idle => simp [mount, commit]
    case bounced => simp [mount, commit]
  . apply navigates_nil

/--
The form navigates as it should in exactly the runs in which no login is submitted while the effect
that bounces is still to run.
-/
theorem navigates_iff (returnTo : Option Str) (isLoading isAuthenticated : Bool)
    (actions : List Action)
    : Always (step returnTo) (fun form => Navigates (LoginForm.destination returnTo) form.trace)
          (mount isLoading isAuthenticated) actions
        ↔
      Along (step returnTo) AfterEffects (mount isLoading isAuthenticated) actions := by
  have hmount := sound_mount (LoginForm.destination returnTo) isLoading isAuthenticated
  have hkeeps : ∀ form action form', form.Sound (LoginForm.destination returnTo) →
      form.AfterEffects action → step returnTo form action = some form' →
        form'.Sound (LoginForm.destination returnTo) := by
    intro form action form' h hafter hstep
    exact sound_step h hafter hstep
  constructor
  . intro halways
    apply along_of_always hkeeps _ hmount halways
    intro form action form' h hstep hnavigates
    exact afterEffects_of_step h hstep hnavigates
  . intro halong
    have hsound := always_of_along hkeeps hmount halong
    exact hsound.mono fun form h => h.2

theorem bounces_runEffects (form : LoginForm) : form.runEffects.bounces = false := by
  unfold runEffects
  cases hdue : form.effect.due with
  | none =>
    unfold bounces
    rw [hdue]
  | some deps =>
    dsimp only
    rw [bounce_eq]
    split
    . rfl
    . rfl

/-- Where the effects run before the next event the condition is met. -/
theorem along_afterEffects (returnTo : Option Str) (actions : List Action)
    (h : form.bounces = false)
    : Along (step returnTo) AfterEffects form
        (actions.flatMap fun action => [action, .effects]) := by
  induction actions generalizing form with
  | nil => exact along_nil
  | cons action actions ih =>
    rw [List.flatMap_cons, List.cons_append, along_cons]
    intro form' _
    constructor
    . cases action with
      | submit username password =>
        intro _ _ _
        exact h
      | _ => trivial
    . rw [List.cons_append, along_cons]
      intro form'' hstep
      rw [← Option.some.inj hstep]
      exact ⟨trivial, ih (bounces_runEffects form')⟩

/-- A visitor whose session is restored submits before the effect of that commit has run. -/
def earlySubmit : List Action :=
  [.effects, .provider false true, .submit (ofString "member") (ofString "secret")]

theorem earlySubmit_bounces
    : (run (step none) (mount true false) earlySubmit).map LoginForm.trace
          =
        some [.login (ofString "member") (ofString "secret"), .bounce]
        ∧ ¬Always (step none) (fun form => Navigates (LoginForm.destination none) form.trace)
            (mount true false) earlySubmit := by
  have htrace : (run (step none) (mount true false) earlySubmit).map LoginForm.trace
      = some [.login (ofString "member") (ofString "secret"), .bounce] := by
    decide
  refine ⟨htrace, ?_⟩
  intro halways
  rw [Option.map_eq_some_iff] at htrace
  obtain ⟨form, hrun, htrace⟩ := htrace
  have hnavigates := halways earlySubmit form List.prefix_rfl hrun
  dsimp only at hnavigates
  rw [htrace] at hnavigates
  have hallowed := hnavigates.allowed [.login (ofString "member") (ofString "secret")] .bounce [] rfl
  exact absurd hallowed.1 (by decide)

end LoginForm

end Web
