import Ketabdaneh.Api.Core.Config

/-!
This module contains what is known of settings that were admitted.
-/

namespace Api
namespace Config

open Python Text

variable {readers : Readers} {environ : Environment} {settings : Settings}

/-- What the fields of admitted settings and the checks across them ask for. -/
structure Admitted (readers : Readers) (settings : Settings) : Prop where
  maxAttempts : 1 ≤ settings.notificationMaxAttempts
  baseDelay : settings.notificationRetryBaseDelaySeconds.le (.finite 0) = false
  delays : settings.notificationRetryMaxDelaySeconds.lt
    settings.notificationRetryBaseDelaySeconds = false
  redisUrl : ∃ parts, urlsplit readers.checkNetloc settings.redisUrl = .ok parts
    ∧ parts.scheme ∈ REDIS_SCHEMES
  secret : settings.appEnv = .production → settings.authSecretKey ≠ AUTH_SECRET_PLACEHOLDER

theorem field_of_read {α : Type} {name : String} {default : α} {read : Str → Except Str α} {a : α}
    {P : α → Prop} (hdefault : P default) (hread : ∀ text a, read text = .ok a → P a)
    (h : field environ name default read = .ok a) : P a := by
  unfold field at h
  split at h
  . injection h with h
    rw [← h]
    exact hdefault
  . split at h
    . next value hvalue =>
      injection h with h
      rw [← h]
      exact hread _ value hvalue
    . injection h

theorem readPositive_eq_ok {float : Str → Except Str PyFloat} {text : Str} {value : PyFloat}
    (h : readPositive float text = .ok value) : value.le (.finite 0) = false := by
  unfold readPositive at h
  rw [Except.bind_eq_ok] at h
  rcases h with ⟨read, _, h⟩
  split at h
  . injection h
  . next hpositive =>
    injection h with h
    rw [← h]
    simpa using hpositive

theorem readAtLeast_eq_ok {int : Str → Except Str Int} {bound : Nat} {text : Str} {value : Int}
    (h : readAtLeast int bound text = .ok value) : bound ≤ value := by
  unfold readAtLeast at h
  rw [Except.bind_eq_ok] at h
  rcases h with ⟨read, _, h⟩
  split at h
  . injection h
  . next hbound =>
    injection h with h
    rw [← h]
    exact not_lt.mp hbound

theorem readFields_eq_ok
    : ∀ settings, readFields readers environ = .ok settings →
      1 ≤ settings.notificationMaxAttempts
        ∧ settings.notificationRetryBaseDelaySeconds.le (.finite 0) = false := by
  unfold readFields
  simp only [Except.forall_collect_eq_ok, Except.ok.injEq]
  rintro _ rfl
  intros
  constructor
  . refine field_of_read (P := fun n => 1 ≤ n) ?_ ?_ (by assumption)
    . decide
    . intro text a
      apply readAtLeast_eq_ok
  . refine field_of_read (P := fun x : PyFloat => x.le (.finite 0) = false) ?_ ?_ (by assumption)
    . decide
    . intro text a
      apply readPositive_eq_ok

theorem splitUrl_eq_ok {url : Str} {parts : SplitResult}
    : splitUrl readers url = .ok parts ↔ urlsplit readers.checkNetloc url = .ok parts := by
  unfold splitUrl
  cases urlsplit readers.checkNetloc url with
  | error message => simp [Except.mapError]
  | ok found => simp [Except.mapError]

theorem not_configurationError {message : String} {u : Unit}
    : configurationError message ≠ .ok u := by
  simp [configurationError]

theorem redisUrl_of_wellFormed (h : redisUrlWellFormed readers settings = .ok ())
    : ∃ parts, urlsplit readers.checkNetloc settings.redisUrl = .ok parts
        ∧ parts.scheme ∈ REDIS_SCHEMES := by
  unfold redisUrlWellFormed at h
  rw [Except.bind_eq_ok] at h
  rcases h with ⟨parts, hparts, h⟩
  rw [splitUrl_eq_ok] at hparts
  split at h
  . exact absurd h not_configurationError
  . next hshape =>
    rw [not_or, not_not] at hshape
    exact ⟨parts, hparts, hshape.1⟩

theorem delays_of_makeSense (h : retryDelaysMakeSense settings = .ok ())
    : settings.notificationRetryMaxDelaySeconds.lt settings.notificationRetryBaseDelaySeconds
        = false := by
  unfold retryDelaysMakeSense at h
  split at h
  . exact absurd h not_configurationError
  . next hdelays => simpa using hdelays

theorem secret_of_requirements (h : productionRequirements settings = .ok ())
    (hproduction : settings.appEnv = .production) : settings.authSecretKey ≠ AUTH_SECRET_PLACEHOLDER := by
  intro hsecret
  unfold productionRequirements at h
  rw [if_neg (not_not_intro hproduction), if_pos hsecret] at h
  split at h
  . exact not_configurationError h
  . exact not_configurationError h

theorem admitted_of_load (h : load readers environ = .ok settings) : Admitted readers settings := by
  unfold load at h
  rw [Except.bind_eq_ok] at h
  rcases h with ⟨fields, hfields, h⟩
  simp only [Except.bind_eq_ok] at h
  rcases h with ⟨_, hurls, _, hdelays, _, hproduction, h⟩
  injection h with h
  rw [h] at hfields hurls hdelays hproduction
  simp only [urlsAndOriginsWellFormed, Except.bind_eq_ok] at hurls
  rcases hurls with ⟨_, _, _, hredis, _⟩
  have hread : readFields readers environ = .ok settings := by
    cases hread : readFields readers environ with
    | error es => simp [hread, Except.mapError] at hfields
    | ok found => simpa [hread, Except.mapError] using hfields
  rcases readFields_eq_ok settings hread with ⟨hmax, hbase⟩
  exact ⟨hmax, hbase, delays_of_makeSense hdelays, redisUrl_of_wellFormed hredis,
    secret_of_requirements hproduction⟩

end Config
end Api
