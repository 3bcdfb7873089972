import Ketabdaneh.Api.Core.Lemmas.Config
import Ketabdaneh.Api.Services.Auth
import Ketabdaneh.Api.Worker.Startup

/-!
This module contains which admitted settings the worker, its queue and authentication accept.
-/

namespace Api

open Python Text

/-- Where arq looks for the number of the database: in the query, or in the path. -/
def dsnDatabase (parts : SplitResult) : Option Int :=
  match queryValue parts.query (ofString "db") with
  | some db => int db
  | none =>
    if parts.scheme = ofString "unix" ∨ parts.path = [] then
      some 0
    else
      int (parts.path.dropWhile (· = cp '/'))

structure RedisUrlReadable (parts : SplitResult) : Prop where
  port : ∃ port, parts.port = .ok port
  database : ∃ database, dsnDatabase parts = some database

/-- What arq promises of the URLs it accepts. -/
def FromDsn.Documented (fromDsn : FromDsn) (checkNetloc : Str → Except Str Unit) : Prop :=
  ∀ dsn, (∃ redisSettings, fromDsn dsn = some redisSettings)
    ↔ ∃ parts, urlsplit checkNetloc dsn = .ok parts ∧ parts.scheme ∈ Config.REDIS_SCHEMES
      ∧ RedisUrlReadable parts

section

variable {readers : Config.Readers} {environ : Config.Environment} {settings : Config.Settings}
variable {fromDsn : FromDsn}

theorem retryPolicyFromSettings_eq_ok (h : Config.Admitted readers settings)
    : retryPolicyFromSettings settings = .ok () := by
  unfold retryPolicyFromSettings RetryPolicy.postInit
  rw [if_neg (not_lt.mpr h.maxAttempts), h.baseDelay, h.delays]
  rfl

theorem ensureSecureAuthSecret_eq_ok (h : Config.Admitted readers settings)
    (hproduction : settings.appEnv = .production)
    : ensureSecureAuthSecret settings.auth = .ok () := by
  unfold ensureSecureAuthSecret
  rw [if_neg]
  rintro ⟨hplaceholder, _⟩
  exact h.secret hproduction hplaceholder

theorem fromDsn_iff (h : Config.Admitted readers settings)
    (hdsn : fromDsn.Documented readers.checkNetloc)
    : (∃ redisSettings, fromDsn settings.redisUrl = some redisSettings)
        ↔
      ∃ parts, urlsplit readers.checkNetloc settings.redisUrl = .ok parts
        ∧ RedisUrlReadable parts := by
  rw [hdsn]
  constructor
  . rintro ⟨parts, hparts, _, hreadable⟩
    exact ⟨parts, hparts, hreadable⟩
  . rintro ⟨parts, hparts, hreadable⟩
    rcases h.redisUrl with ⟨parts', hparts', hscheme⟩
    rw [hparts] at hparts'
    injection hparts' with hsame
    rw [← hsame] at hscheme
    exact ⟨parts, hparts, hscheme, hreadable⟩

/-- All that reads admitted settings accepts them, if the port and the database of Redis can be read. -/
theorem admitted_accepted_iff (hdsn : fromDsn.Documented readers.checkNetloc)
    (hload : Config.load readers environ = .ok settings)
    : (retryPolicyFromSettings settings = .ok ()
          ∧ (∃ redisSettings, workerRedisSettings fromDsn settings = some redisSettings)
          ∧ (∃ redisSettings, serviceRedisSettings fromDsn settings = some redisSettings)
          ∧ (settings.appEnv = .production → ensureSecureAuthSecret settings.auth = .ok ()))
        ↔
      ∃ parts, urlsplit readers.checkNetloc settings.redisUrl = .ok parts
        ∧ RedisUrlReadable parts := by
  have hadmitted := Config.admitted_of_load hload
  rw [← fromDsn_iff hadmitted hdsn]
  constructor
  . rintro ⟨_, hworker, _, _⟩
    exact hworker
  . rintro ⟨redisSettings, hredis⟩
    refine ⟨retryPolicyFromSettings_eq_ok hadmitted, ⟨_, hredis⟩, ?_,
      ensureSecureAuthSecret_eq_ok hadmitted⟩
    rw [serviceRedisSettings, hredis]
    exact ⟨_, rfl⟩

end

section

/-- The network locations that need no check: without brackets, and in ASCII. -/
def plainNetloc (netloc : Str) : Except Str Unit :=
  if netloc.all fun c => c.val < 0x80 && c ≠ cp '[' then .ok () else .error (ofString "Invalid URL")

def plainReaders : Config.Readers where
  int text := (int text).elim (.error (ofString "Input should be a valid integer")) .ok
  float text := (int text).elim (.error (ofString "Input should be a valid number")) fun n =>
    .ok (.finite n)
  bool text := .ok (text = ofString "true")
  makeUrl _ := true
  checkNetloc := plainNetloc
  repr text := text

def plainFromDsn : FromDsn := fun dsn =>
  match urlsplit plainNetloc dsn with
  | .error _ => none
  | .ok parts =>
    if parts.scheme ∈ Config.REDIS_SCHEMES then
      match parts.port, dsnDatabase parts with
      | .ok port, some database => some { host := parts.netloc, port := port.getD 6379, database }
      | _, _ => none
    else
      none

theorem plainFromDsn_documented : plainFromDsn.Documented plainNetloc := by
  intro dsn
  unfold plainFromDsn
  cases urlsplit plainNetloc dsn with
  | error message => simp
  | ok parts =>
    dsimp only
    split
    . next hscheme =>
      split
      . next port database hport hdatabase =>
        constructor
        . intro _
          exact ⟨parts, rfl, hscheme, ⟨port, hport⟩, database, hdatabase⟩
        . intro _
          exact ⟨_, rfl⟩
      . next hnone =>
        simp only [reduceCtorEq, exists_false, Except.ok.injEq, false_iff]
        rintro ⟨_, rfl, _, ⟨port, hport⟩, database, hdatabase⟩
        exact hnone port database hport hdatabase
    . next hscheme => simp [hscheme]

def environmentOf (values : List (Str × Str)) : Config.Environment := fun name =>
  (values.find? fun value => value.1 = name).map Prod.snd

def defaults : Config.Settings where
  modelFieldsSet name := (environmentOf [] name).isSome

theorem load_defaults : Config.load plainReaders (environmentOf []) = .ok defaults := rfl

theorem defaults_accepted
    : retryPolicyFromSettings defaults = .ok ()
        ∧ (∃ redisSettings, workerRedisSettings plainFromDsn defaults = some redisSettings)
        ∧ (∃ redisSettings, serviceRedisSettings plainFromDsn defaults = some redisSettings)
        ∧ (defaults.appEnv = .production → ensureSecureAuthSecret defaults.auth = .ok ()) := by
  rw [admitted_accepted_iff plainFromDsn_documented load_defaults]
  exact ⟨_, rfl, ⟨_, rfl⟩, _, rfl⟩

/-- A slash at the end of the URL is admitted, and is no number of a database. -/
theorem trailing_slash_admitted
    : ∃ settings, Config.load plainReaders
          (environmentOf [(ofString "redis_url", ofString "redis://localhost:6390/")]) = .ok settings
        ∧ workerRedisSettings plainFromDsn settings = none
        ∧ serviceRedisSettings plainFromDsn settings = none :=
  ⟨_, rfl, rfl, rfl⟩

end

end Api
