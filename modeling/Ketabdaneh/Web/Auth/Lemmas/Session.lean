import Ketabdaneh.Web.Auth.Session

namespace Web

open Text Transition

namespace Session

def Sound (s : Session) : Prop :=
  s.isAuthenticated →
    ∃ user token, s.user = some user
      ∧ readAccessToken s.storage = some token ∧ user.sentWith = some token

/--
The condition on an answer: a `/me` answer finds the token it was sent with in the storage, and a
login is answered with no user set, or with the token of the user that is.
-/
def AnswersCurrent (s : Session) : Action → Prop
  | .answer i (.me _) => ∀ request, s.awaited i = some request →
      request.token.isSome ∧ readAccessToken s.storage = request.token
  | .answer i (.login response) => ∀ request, s.awaited i = some request →
      ∀ user, s.user = some user →
        response.accessToken ≠ [] ∧ user.sentWith = some response.accessToken
  | _ => True

theorem readAccessToken_saveAccessToken (token : Str)
    : readAccessToken (saveAccessToken token) = if token ≠ [] then some token else none := by
  unfold readAccessToken saveAccessToken
  split
  . next h => simp [h]
  . rfl

theorem sound_of_user_none {s : Session} (h : s.user = none) : s.Sound := by
  intro hauth
  simp [isAuthenticated, h] at hauth

theorem sound_iff_of_user {s : Session} {user : SessionUser} (h : s.user = some user)
    : s.Sound ↔ ∃ token, readAccessToken s.storage = some token ∧ user.sentWith = some token := by
  simp [Sound, isAuthenticated, h]

theorem sound_congr {s t : Session} (hstorage : t.storage = s.storage) (huser : t.user = s.user)
    : t.Sound ↔ s.Sound := by
  unfold Sound isAuthenticated
  rw [hstorage, huser]

theorem sound_caught {s : Session} (h : s.Sound) (flow : Flow) : (s.caught flow).Sound := by
  cases flow with
  | restoration =>
    apply sound_of_user_none
    rw [caught_user, if_pos rfl]
  | _ => exact h

theorem sound_reject {s : Session} (h : s.Sound) (i : Nat) (request : InFlight) (status : Nat)
    : (s.reject i request status).Sound := by
  by_cases hcase : status = 401 ∧ request.token.isSome
  . rw [hcase.1]
    apply sound_of_user_none
    exact (reject_unauthorized s i hcase.2).2
  . rcases reject_of_not (s := s) (i := i) hcase with ⟨hstorage, huser⟩
    rwa [sound_congr hstorage huser]

theorem sound_setUser {s t : Session} {request : InFlight} {me : AuthenticatedUser}
    (hstorage : t.storage = s.storage) (huser : t.user = some ⟨me, request.token⟩)
    : t.Sound
        ↔
      request.token.isSome ∧ readAccessToken s.storage = request.token := by
  rw [sound_iff_of_user huser, hstorage]
  cases request.token with
  | none => simp
  | some token => simp [eq_comm]

theorem answered_me_eq_some {s t : Session} {request : InFlight} {me : AuthenticatedUser}
    (h : s.answered request (.me me) = some t)
    : t.storage = s.storage ∧ t.user = some ⟨me, request.token⟩ := by
  unfold answered at h
  dsimp only at h
  split at h
  . injection h with h
    rw [← h]
    exact ⟨rfl, rfl⟩
  . injection h with h
    rw [← h]
    exact ⟨rfl, rfl⟩
  . injection h with h
    rw [← h]
    exact ⟨rfl, rfl⟩
  . injection h

theorem answered_login_eq_some {s t : Session} {request : InFlight} {response : LoginResponse}
    (h : s.answered request (.login response) = some t)
    : t.storage = saveAccessToken response.accessToken ∧ t.user = s.user := by
  unfold answered at h
  dsimp only at h
  split at h
  . injection h with h
    rw [← h]
    exact ⟨rfl, rfl⟩
  . injection h

theorem answered_other_eq_some {s t : Session} {request : InFlight}
    (h : s.answered request .other = some t) : t = s := by
  unfold answered at h
  dsimp only at h
  split at h
  . injection h with h
    exact h.symm
  . injection h

theorem sound_login {s t : Session} {response : LoginResponse}
    (hstorage : t.storage = saveAccessToken response.accessToken) (huser : t.user = s.user)
    : t.Sound
        ↔
      ∀ user, s.user = some user →
        response.accessToken ≠ [] ∧ user.sentWith = some response.accessToken := by
  cases hcase : s.user with
  | none =>
    rw [hcase] at huser
    simp [sound_of_user_none huser]
  | some user =>
    rw [hcase] at huser
    rw [sound_iff_of_user huser, hstorage, readAccessToken_saveAccessToken]
    split
    . next hne => simp [hne]
    . next he =>
      simp only [ne_eq, Decidable.not_not] at he
      simp [he]

theorem sound_step {s t : Session} {a : Action} (h : s.Sound) (hstep : s.step a = some t)
    : t.Sound ↔ s.AnswersCurrent a := by
  cases a with
  | login =>
    injection hstep with hstep
    rw [← hstep]
    exact iff_of_true h trivial
  | logout =>
    injection hstep with hstep
    rw [← hstep]
    exact iff_of_true (sound_of_user_none rfl) trivial
  | refreshUser =>
    injection hstep with hstep
    rw [← hstep]
    exact iff_of_true h trivial
  | request =>
    injection hstep with hstep
    rw [← hstep]
    exact iff_of_true h trivial
  | reject i status =>
    simp only [step] at hstep
    split at hstep
    . injection hstep
    . rw [Option.map_eq_some_iff] at hstep
      rcases hstep with ⟨request, -, hstep⟩
      rw [← hstep]
      exact iff_of_true (sound_reject h i request status) trivial
  | errorBody i =>
    simp only [step, Option.map_eq_some_iff] at hstep
    rcases hstep with ⟨request, -, hstep⟩
    rw [← hstep]
    have hsettle : (s.settle i).Sound := h
    exact iff_of_true (sound_caught hsettle request.flow) trivial
  | fail i =>
    simp only [step, Option.map_eq_some_iff] at hstep
    rcases hstep with ⟨request, -, hstep⟩
    rw [← hstep]
    have hsettle : (s.settle i).Sound := h
    exact iff_of_true (sound_caught hsettle request.flow) trivial
  | answer i body =>
    simp only [step, Option.bind_eq_some_iff] at hstep
    rcases hstep with ⟨request, hawaited, hstep⟩
    cases body with
    | me me =>
      rcases answered_me_eq_some hstep with ⟨hstorage, huser⟩
      rw [sound_setUser hstorage huser]
      simp [AnswersCurrent, hawaited]
    | login response =>
      rcases answered_login_eq_some hstep with ⟨hstorage, huser⟩
      rw [sound_login hstorage huser]
      simp [AnswersCurrent, hawaited]
    | other =>
      rw [answered_other_eq_some hstep]
      exact iff_of_true h trivial

/--
Every state of a run is sound exactly when every `/me` answer and every login of the run meets the
condition.
-/
theorem sound_iff_answersCurrent (item : Option Str) (actions : List Action)
    : Always step Sound (mount item) actions
        ↔
      Along step AnswersCurrent (mount item) actions := by
  apply always_iff_along
  . intro s a t h hstep
    apply sound_step
    all_goals assumption
  . apply sound_of_user_none
    exact mount_user item

def alice : AuthenticatedUser :=
  ⟨ofString "1", ofString "alice", true⟩

def lateRefresh : List Action :=
  [.answer 0 (.me alice), .refreshUser, .logout, .answer 0 (.me alice)]

def lateRestoration : List Action :=
  [.request, .reject 1 401, .answer 0 (.me alice)]

theorem late_me_signs_in :
    ((run step (mount (some (ofString "t0"))) lateRefresh).map
        fun s => (s.isAuthenticated, s.storage)) = some (true, none)
      ∧ ((run step (mount (some (ofString "t0"))) lateRestoration).map
        fun s => (s.isAuthenticated, s.storage)) = some (true, none)
      ∧ ¬Always step Sound (mount (some (ofString "t0"))) lateRefresh := by
  refine ⟨rfl, rfl, ?_⟩
  intro h
  rcases h lateRefresh _ List.prefix_rfl rfl rfl with ⟨_, token, -, hstored, -⟩
  injection hstored

end Session

end Web
