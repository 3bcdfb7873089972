import Ketabdaneh.Web.Auth.Session

namespace Web

open Text Transition

namespace Session

def unauthorized (s : Session) : Action → Option InFlight
  | .reject i status => if status = 401 then s.awaited i else none
  | .errorBody i => (s.erroring i).filter fun request => request.rejected = some 401
  | _ => none

/-- From `s` to `t` a stored token is removed, and the user reset, only if the stored token is it. -/
def ClearsOnly (token : Str) (s t : Session) : Prop :=
  ((readAccessToken s.storage).isSome ∧ readAccessToken t.storage = none →
    readAccessToken s.storage = some token)
  ∧ (s.user.isSome ∧ t.user = none → readAccessToken s.storage = some token)

def Isolated (s : Session) (a : Action) : Prop :=
  ∀ t request token, s.step a = some t → s.unauthorized a = some request →
    request.token = some token → ClearsOnly token s t

def NothingToLose (s : Session) (request : InFlight) : Action → Prop
  | .errorBody _ => request.flow = .restoration → s.user = none
  | _ => readAccessToken s.storage = none ∧ s.user = none

/-- The condition on a 401: the stored token is its own, or there is nothing it could clear. -/
def RejectsCurrent (s : Session) (a : Action) : Prop :=
  ∀ request token, s.unauthorized a = some request → request.token = some token →
    readAccessToken s.storage = some token ∨ s.NothingToLose request a

theorem readAccessToken_none : readAccessToken none = none := rfl

theorem isolated_reject {s t : Session} {i : Nat} {request : InFlight} {token : Str}
    (h : request.token = some token) (ht : t = s.reject i request 401)
    : ClearsOnly token s t
        ↔
      readAccessToken s.storage = some token
        ∨ (readAccessToken s.storage = none ∧ s.user = none) := by
  have hsome : request.token.isSome := by rw [h, Option.isSome_some]
  rcases reject_unauthorized s i hsome with ⟨hstorage, huser⟩
  rw [ht, ClearsOnly, hstorage, huser, readAccessToken_none]
  cases readAccessToken s.storage with
  | none =>
    cases s.user with
    | none => simp
    | some user => simp
  | some stored =>
    cases s.user with
    | none => simp
    | some user => simp

theorem isolated_caught {s t : Session} {i : Nat} {request : InFlight} {token : Str}
    (ht : t = (s.settle i).caught request.flow)
    : ClearsOnly token s t
        ↔
      readAccessToken s.storage = some token
        ∨ (request.flow = .restoration → s.user = none) := by
  rw [ht, ClearsOnly, caught_storage, caught_user, settle_storage, settle_user]
  by_cases hflow : request.flow = .restoration
  . rw [if_pos hflow]
    cases readAccessToken s.storage with
    | none =>
      cases s.user with
      | none => simp
      | some user => simp [hflow]
    | some stored =>
      cases s.user with
      | none => simp
      | some user => simp [hflow]
  . rw [if_neg hflow]
    cases readAccessToken s.storage with
    | none =>
      cases s.user with
      | none => simp [hflow]
      | some user => simp [hflow]
    | some stored =>
      cases s.user with
      | none => simp [hflow]
      | some user => simp [hflow]

theorem step_reject_eq_some {s t : Session} {i : Nat} {request : InFlight}
    (hstep : s.step (.reject i 401) = some t) (hawaited : s.awaited i = some request)
    : t = s.reject i request 401 := by
  simp only [step, Nat.reduceLeDiff, and_false, ↓reduceIte, hawaited, Option.map_some,
    Option.some.injEq] at hstep
  exact hstep.symm

theorem step_errorBody_eq_some {s t : Session} {i : Nat} {request : InFlight}
    (hstep : s.step (.errorBody i) = some t) (herroring : s.erroring i = some request)
    : t = (s.settle i).caught request.flow := by
  simp only [step, herroring, Option.map_some, Option.some.injEq] at hstep
  exact hstep.symm

theorem isolated_iff {s t : Session} {a : Action} (hstep : s.step a = some t)
    : s.Isolated a ↔ s.RejectsCurrent a := by
  -- a step has one outcome, and at most one request it answers
  have hone : s.Isolated a ↔ ∀ request token, s.unauthorized a = some request →
      request.token = some token → ClearsOnly token s t := by
    constructor
    . intro h request token
      exact h t request token hstep
    . intro h u request token hu
      rw [hstep, Option.some.injEq] at hu
      rw [← hu]
      exact h request token
  rw [hone, RejectsCurrent]
  apply forall_congr'
  intro request
  apply forall_congr'
  intro token
  apply imp_congr_right
  intro hanswer
  apply imp_congr_right
  intro htoken
  cases a with
  | reject i status =>
    simp only [unauthorized] at hanswer
    split at hanswer
    . next h401 =>
      rw [h401] at hstep
      exact isolated_reject htoken (step_reject_eq_some hstep hanswer)
    . injection hanswer
  | errorBody i =>
    simp only [unauthorized, Option.filter_eq_some_iff] at hanswer
    exact isolated_caught (step_errorBody_eq_some hstep hanswer.1)
  | _ => injection hanswer

/-- The 401s of a run are all isolated exactly when each meets the condition. -/
theorem isolated_iff_rejectsCurrent (item : Option Str) (actions : List Action)
    : Along step Isolated (mount item) actions
        ↔
      Along step RejectsCurrent (mount item) actions := by
  apply along_congr
  intro s a t hstep
  apply isolated_iff
  assumption

def bob : AuthenticatedUser :=
  ⟨ofString "2", ofString "bob", true⟩

def lateReject : List Action :=
  [.answer 0 (.me bob), .request, .login, .answer 1 (.login ⟨ofString "t1", ofString "bearer", 3600⟩),
    .answer 1 (.me bob), .reject 0 401]

def lateErrorBody : List Action :=
  [.reject 0 401, .login, .answer 1 (.login ⟨ofString "t1", ofString "bearer", 3600⟩),
    .answer 1 (.me bob), .errorBody 0]

theorem late_reject_signs_out :
    ((run step (mount (some (ofString "t0"))) lateReject.dropLast).map
        fun s => (s.user, s.storage)) = some (some ⟨bob, ofString "t1"⟩, some (ofString "t1"))
      ∧ ((run step (mount (some (ofString "t0"))) lateReject).map
        fun s => (s.user, s.storage)) = some (none, none)
      ∧ ((run step (mount (some (ofString "t0"))) lateErrorBody).map
        fun s => (s.user, s.storage)) = some (none, some (ofString "t1"))
      ∧ ¬Along step Isolated (mount (some (ofString "t0"))) lateReject := by
  refine ⟨rfl, rfl, rfl, ?_⟩
  intro h
  have hlast := h lateReject.dropLast (.reject 0 401) _ List.prefix_rfl rfl rfl
  have hsame := (hlast _ _ (ofString "t0") rfl rfl rfl).1 ⟨rfl, rfl⟩
  injection hsame with hsame
  revert hsame
  decide

end Session

end Web
