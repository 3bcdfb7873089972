import Ketabdaneh.Library.Transition
import Ketabdaneh.Web.Auth.AuthGate
import Ketabdaneh.Web.Auth.Session

/-!
This module contains how often the gate redirects, over the commits of one mount.
-/

namespace Web

open Text

/-- The session is gone, and that is no matter of its restoration. -/
def GateProps.fallen (props : GateProps) : Bool :=
  !props.isLoading && !props.isAuthenticated

/-- The commits of one fall: those before and after it show no fall. -/
structure MaximalPeriod (before period after : List GateProps) : Prop where
  nonempty : period ≠ []
  fallen : ∀ props ∈ period, props.fallen = true
  starts : ∀ props, before.getLast? = some props → props.fallen = false
  ends : ∀ props, after.head? = some props → props.fallen = false

namespace AuthGate

variable {gate : AuthGate} {props : GateProps} {commits : List GateProps}

/-- Before the first redirect the effect has seen no fall. -/
structure Ready (gate : AuthGate) : Prop where
  redirecting : gate.redirecting = false
  deps : ∀ props, gate.effect.deps = some props → props.fallen = false

theorem redirect_of_not_fallen (gate : AuthGate) (h : props.fallen = false)
    : gate.redirect props = (gate, none) := by
  unfold redirect
  rw [if_pos]
  unfold GateProps.fallen at h
  revert h
  cases props.isLoading with
  | false => simp
  | true => simp

theorem redirect_of_redirecting (gate : AuthGate) (props : GateProps) (h : gate.redirecting = true)
    : gate.redirect props = (gate, none) := by
  unfold redirect
  rw [if_pos h, ite_self]

theorem redirect_of_fallen (gate : AuthGate) (h : gate.redirecting = false)
    (hfallen : props.fallen = true)
    : gate.redirect props = ({ gate with redirecting := true }, some (toLogin props)) := by
  unfold GateProps.fallen at hfallen
  rw [Bool.and_eq_true, Bool.not_eq_true', Bool.not_eq_true'] at hfallen
  unfold redirect
  rw [hfallen.1, hfallen.2, h]
  rfl

theorem commit_eq (gate : AuthGate) (props : GateProps)
    : gate.commit props = ({ gate with effect := gate.effect.commit props }, none)
        ∨ gate.commit props = redirect { gate with effect := (gate.effect.commit props).ran } props := by
  unfold commit
  dsimp only
  cases hdue : (gate.effect.commit props).due with
  | none => exact Or.inl rfl
  | some due =>
    have hdeps := React.Effect.due_eq_some hdue
    rw [React.Effect.deps_commit, Option.some.injEq] at hdeps
    rw [hdeps]
    exact Or.inr rfl

/-- The ref is never reset: after one redirect there is no other. -/
theorem commit_of_redirecting (props : GateProps) (h : gate.redirecting = true)
    : (gate.commit props).1.redirecting = true ∧ (gate.commit props).2 = none := by
  cases commit_eq gate props with
  | inl hcommit =>
    rw [hcommit]
    exact ⟨h, rfl⟩
  | inr hcommit =>
    rw [hcommit, redirect_of_redirecting ⟨gate.redirecting, (gate.effect.commit props).ran⟩ props h]
    exact ⟨h, rfl⟩

theorem snd_commit_of_not_fallen (gate : AuthGate) (hfallen : props.fallen = false)
    : (gate.commit props).2 = none := by
  cases commit_eq gate props with
  | inl hcommit => rw [hcommit]
  | inr hcommit => rw [hcommit, redirect_of_not_fallen _ hfallen]

theorem commit_of_not_fallen (h : gate.Ready) (hfallen : props.fallen = false)
    : (gate.commit props).1.Ready := by
  have hdeps : ∀ props', some props = some props' → props'.fallen = false := by
    intro props' hprops
    rw [← Option.some.inj hprops]
    exact hfallen
  cases commit_eq gate props with
  | inl hcommit =>
    rw [hcommit]
    constructor
    case redirecting => exact h.redirecting
    case deps => rwa [React.Effect.deps_commit]
  | inr hcommit =>
    rw [hcommit, redirect_of_not_fallen _ hfallen]
    constructor
    case redirecting => exact h.redirecting
    case deps => rwa [React.Effect.deps_ran, React.Effect.deps_commit]

theorem commit_of_fallen (h : gate.Ready) (hfallen : props.fallen = true)
    : (gate.commit props).1.redirecting = true ∧ (gate.commit props).2 = some (toLogin props) := by
  have hne : gate.effect.deps ≠ some props := by
    intro hdeps
    have := h.deps props hdeps
    rw [hfallen] at this
    contradiction
  unfold commit
  dsimp only
  rw [React.Effect.due_commit_of_ne hne]
  dsimp only
  rw [redirect_of_fallen ⟨gate.redirecting, (gate.effect.commit props).ran⟩ h.redirecting hfallen]
  exact ⟨rfl, rfl⟩

theorem ready_mount : Ready {} where
  redirecting := rfl
  deps := by
    intro props h
    contradiction

theorem after_cons (gate : AuthGate) (props : GateProps) (commits : List GateProps)
    : gate.after (props :: commits) = (gate.commit props).1.after commits := by
  rfl

theorem ready_after (h : gate.Ready) (hfallen : ∀ props ∈ commits, props.fallen = false)
    : (gate.after commits).Ready := by
  induction commits generalizing gate with
  | nil => exact h
  | cons props commits ih =>
    rw [List.forall_mem_cons] at hfallen
    rw [after_cons]
    exact ih (commit_of_not_fallen h hfallen.1) hfallen.2

theorem redirecting_after (h : gate.redirecting = true) (commits : List GateProps)
    : (gate.after commits).redirecting = true := by
  induction commits generalizing gate with
  | nil => exact h
  | cons props commits ih =>
    rw [after_cons]
    exact ih (commit_of_redirecting props h).1

theorem redirecting_after_of_mem (h : gate.Ready) (hmem : props ∈ commits)
    (hfallen : props.fallen = true) : (gate.after commits).redirecting = true := by
  induction commits generalizing gate with
  | nil => contradiction
  | cons first commits ih =>
    rw [after_cons]
    cases hfirst : first.fallen with
    | true => exact redirecting_after (commit_of_fallen h hfirst).1 commits
    | false =>
      rw [List.mem_cons] at hmem
      cases hmem with
      | inl heq =>
        rw [heq, hfirst] at hfallen
        contradiction
      | inr hmem => exact ih (commit_of_not_fallen h hfirst) hmem

theorem redirects_of_redirecting (h : gate.redirecting = true) (commits : List GateProps)
    : gate.redirects commits = [] := by
  induction commits generalizing gate with
  | nil => rfl
  | cons props commits ih =>
    obtain ⟨hredirecting, hnone⟩ := commit_of_redirecting props h
    rw [redirects, hnone, ih hredirecting]
    rfl

/-- A first fall is redirected from at its first commit. -/
theorem redirects_of_fallen (h : gate.Ready) (hfallen : props.fallen = true)
    (commits : List GateProps) : gate.redirects (props :: commits) = [toLogin props] := by
  obtain ⟨hredirecting, hsome⟩ := commit_of_fallen h hfallen
  rw [redirects, hsome, redirects_of_redirecting hredirecting]
  rfl

structure Guards (commits : List GateProps) : Prop where
  children : ∀ props ∈ commits, view props = .children →
    props.isLoading = false ∧ props.isAuthenticated = true
  once : ∀ before period after, commits = before ++ (period ++ after) →
    MaximalPeriod before period after →
      ∃ props ∈ period, (AuthGate.after {} before).redirects period = [toLogin props]
  quiet : ∀ before props after, commits = before ++ props :: after → props.fallen = false →
    ((AuthGate.after {} before).commit props).2 = none

/-- After the session came back it does not fall again. -/
def FallsOnce (commits : List GateProps) : Prop :=
  ∀ before props after, commits = before ++ props :: after → props.fallen = false →
    (∃ fall ∈ before, fall.fallen = true) → ∀ fall ∈ after, fall.fallen = false

theorem view_eq_children
    : view props = .children ↔ props.isLoading = false ∧ props.isAuthenticated = true := by
  unfold view
  cases props.isLoading with
  | true => simp
  | false => simp

theorem not_fallen_before {before period after : List GateProps}
    (h : MaximalPeriod before period after) (honce : FallsOnce (before ++ (period ++ after)))
    : ∀ props ∈ before, props.fallen = false := by
  intro props hprops
  cases hfallen : props.fallen with
  | false => rfl
  | true =>
    obtain ⟨last, hlast⟩ := Option.isSome_iff_exists.mp
      (List.getLast?_isSome.mpr (List.ne_nil_of_mem hprops))
    have hstarts := h.starts last hlast
    obtain ⟨earlier, hearlier⟩ := List.getLast?_eq_some_iff.mp hlast
    rw [hearlier, List.mem_append, List.mem_singleton] at hprops
    cases hprops with
    | inr heq =>
      rw [heq, hstarts] at hfallen
      contradiction
    | inl hmem =>
      obtain ⟨fall, hfall⟩ := List.exists_mem_of_ne_nil period h.nonempty
      have hnone := honce earlier last (period ++ after) (by rw [hearlier, List.append_assoc]; rfl)
        hstarts ⟨props, hmem, hfallen⟩ fall (List.mem_append_left _ hfall)
      rw [h.fallen fall hfall] at hnone
      contradiction

/-- A list with a fall has a first one, and a first commit after it that shows none. -/
theorem exists_period {commits : List GateProps} (h : ∃ fall ∈ commits, fall.fallen = true)
    : ∃ before props period after, commits = before ++ (props :: period ++ after)
        ∧ (∀ props ∈ before, props.fallen = false)
        ∧ (∀ fall ∈ props :: period, fall.fallen = true)
        ∧ ∀ props, after.head? = some props → props.fallen = false := by
  induction commits with
  | nil => simp at h
  | cons first commits ih =>
    cases hfirst : first.fallen with
    | true =>
      refine ⟨[], first, commits.takeWhile GateProps.fallen, commits.dropWhile GateProps.fallen,
        ?_, ?_, ?_, ?_⟩
      . rw [List.nil_append, List.cons_append, List.takeWhile_append_dropWhile]
      . simp
      . rw [List.forall_mem_cons]
        exact ⟨hfirst, fun fall hfall => List.mem_takeWhile_imp hfall⟩
      . intro props hprops
        have := List.head?_dropWhile_not GateProps.fallen commits
        rw [hprops] at this
        simpa using this
    | false =>
      obtain ⟨fall, hmem, hfall⟩ := h
      rw [List.mem_cons] at hmem
      have hrest : ∃ fall ∈ commits, fall.fallen = true := by
        cases hmem with
        | inl heq =>
          rw [heq, hfirst] at hfall
          contradiction
        | inr hmem => exact ⟨fall, hmem, hfall⟩
      obtain ⟨before, props, period, after, hsplit, hbefore, hperiod, hafter⟩ := ih hrest
      refine ⟨first :: before, props, period, after, ?_, ?_, hperiod, hafter⟩
      . rw [hsplit]
        rfl
      . rw [List.forall_mem_cons]
        exact ⟨hfirst, hbefore⟩

/-- The gate keeps its promise exactly over the mounts with one fall at most. -/
theorem guards_iff (commits : List GateProps) : Guards commits ↔ FallsOnce commits := by
  constructor
  . intro h before props after hsplit hprops hfall again hagain
    rw [← Bool.not_eq_true]
    intro hfallen
    obtain ⟨between, first, period, rest, hafter, hbetween, hperiod, hrest⟩ :=
      exists_period ⟨again, hagain, hfallen⟩
    have hperiodOf : MaximalPeriod (before ++ props :: between) (first :: period) rest := by
      constructor
      case nonempty => simp
      case fallen => exact hperiod
      case ends => exact hrest
      case starts =>
        intro last hlast
        rw [List.getLast?_append_cons] at hlast
        have hmem := List.mem_of_getLast? hlast
        rw [List.mem_cons] at hmem
        cases hmem with
        | inl heq =>
          rw [heq]
          exact hprops
        | inr hmem => exact hbetween last hmem
    obtain ⟨_, _, honce⟩ := h.once (before ++ props :: between) (first :: period) rest
      (by rw [hsplit, hafter, List.append_assoc]; rfl) hperiodOf
    obtain ⟨fall, hmem, hfallen⟩ := hfall
    have hredirecting : (AuthGate.after {} (before ++ props :: between)).redirecting = true :=
      redirecting_after_of_mem ready_mount (List.mem_append_left _ hmem) hfallen
    rw [redirects_of_redirecting hredirecting] at honce
    contradiction
  . intro h
    constructor
    case children =>
      intro props _ hview
      exact view_eq_children.mp hview
    case once =>
      intro before period after hsplit hperiod
      rw [hsplit] at h
      have hready : (AuthGate.after {} before).Ready :=
        ready_after ready_mount (not_fallen_before hperiod h)
      cases period with
      | nil => exact absurd rfl hperiod.nonempty
      | cons props period =>
        refine ⟨props, List.mem_cons_self, ?_⟩
        exact redirects_of_fallen hready (hperiod.fallen props List.mem_cons_self) period
    case quiet =>
      intro before props after _ hprops
      exact snd_commit_of_not_fallen _ hprops

def dashboard (s : Session) : GateProps where
  isLoading := s.isLoading
  isAuthenticated := s.isAuthenticated
  pathname := ofString "/fa/dashboard"
  locale := ofString "fa"

def member : AuthenticatedUser where
  id := ofString "0b0e7f0c-3f5e-4c39-9d0a-2f6f3a1f6f55"
  username := ofString "member"
  active := true

/-- A refreshed identity arrives between two rejections of requests that were sent before them. -/
def rejectedTwice : List Session.Action :=
  [.answer 0 (.me member), .refreshUser, .request, .request, .reject 1 401, .answer 0 (.me member),
    .reject 1 401]

/-- The session is gone, comes back, and goes again. -/
def secondFall : List GateProps :=
  [⟨false, true, ofString "/fa/dashboard", ofString "fa"⟩,
    ⟨false, false, ofString "/fa/dashboard", ofString "fa"⟩,
    ⟨false, true, ofString "/fa/dashboard", ofString "fa"⟩,
    ⟨false, false, ofString "/fa/dashboard", ofString "fa"⟩]

theorem secondFall_not_guarded
    : [1, 5, 6, 7].map (fun n =>
          (Transition.run Session.step (Session.mount (some (ofString "token")))
            (rejectedTwice.take n)).map dashboard)
          =
        secondFall.map some
        ∧ (AuthGate.after {} (secondFall.take 3)).redirects (secondFall.drop 3) = []
        ∧ ¬Guards secondFall := by
  have hnone : (AuthGate.after {} (secondFall.take 3)).redirects (secondFall.drop 3) = [] := by
    decide
  refine ⟨by decide, hnone, ?_⟩
  intro h
  have hperiod : MaximalPeriod (secondFall.take 3) (secondFall.drop 3) [] := by
    constructor
    case nonempty => decide
    case fallen => decide
    case starts =>
      intro props hprops
      rw [← Option.some.inj hprops]
      rfl
    case ends => simp
  obtain ⟨props, _, honce⟩ := h.once (secondFall.take 3) (secondFall.drop 3) [] rfl hperiod
  rw [hnone] at honce
  contradiction

end AuthGate

end Web
