import Ketabdaneh.Api.Core.Lemmas.Config

/-!
This module contains at which check settings are turned down, and what the error tells of the
settings that are secret.
-/

namespace Api
namespace Config

open Python Text

/-- The names of the settings of type `SecretStr`. -/
def SECRETS : List Str :=
  [ofString "auth_secret_key", ofString "telegram_bot_token", ofString "bale_bot_token",
    ofString "database_url", ofString "redis_url"]

def AgreeOffSecrets (environ environ' : Environment) : Prop :=
  ∀ name, name ∉ SECRETS → environ name = environ' name

/-- The checks that can turn settings down, in their order. -/
inductive Check where
  | fields
  | databaseUrl
  | redisUrlSplit
  | redisUrlShape
  | origins
  | retryDelays
  | insecureDevSecret
  | placeholderSecret
  | secretLength
  | databaseRequired
  | redisRequired
  | wildcardOrigin
  deriving DecidableEq

def Settings.failedRequirement (settings : Settings) : Option Check :=
  if settings.appEnv ≠ .production then none
  else if settings.authAllowInsecureDevSecret then some .insecureDevSecret
  else if settings.authSecretKey = AUTH_SECRET_PLACEHOLDER then some .placeholderSecret
  else if settings.authSecretKey.length < AUTH_SECRET_MIN_LENGTH then some .secretLength
  else if settings.databaseUrl = none then some .databaseRequired
  else if !settings.modelFieldsSet (ofString "redis_url") then some .redisRequired
  else if ofString "*" ∈ settings.corsOriginsList then some .wildcardOrigin
  else none

variable (readers : Readers)

def Settings.failedCheck (settings : Settings) : Option Check :=
  if !(databaseUrlWellFormed readers settings).isOk then some .databaseUrl
  else if !(splitUrl readers settings.redisUrl).isOk then some .redisUrlSplit
  else if !(redisUrlWellFormed readers settings).isOk then some .redisUrlShape
  else if !(settings.corsOriginsList.forM (originWellFormed readers)).isOk then some .origins
  else if !(retryDelaysMakeSense settings).isOk then some .retryDelays
  else settings.failedRequirement

/-- The check at which `Settings()` fails. -/
def failedCheck (environ : Environment) : Option Check :=
  match readFields readers environ with
  | .error _ => some .fields
  | .ok settings => settings.failedCheck readers

def Check.outcome (settings : Settings) : Check → Except SettingsError Unit
  | .fields => .ok ()
  | .databaseUrl => databaseUrlWellFormed readers settings
  | .redisUrlSplit => (splitUrl readers settings.redisUrl).map fun _ => ()
  | .redisUrlShape => redisUrlWellFormed readers settings
  | .origins => settings.corsOriginsList.forM (originWellFormed readers)
  | .retryDelays => retryDelaysMakeSense settings
  | _ => productionRequirements settings

/-- `str(error)`, by how pydantic renders a `ValidationError`. -/
def SettingsError.text (render : List FieldError → Str) : SettingsError → Str
  | .validation errors => render errors
  | .configuration message => message

/-- The text of a `ValueError` from a check of the whole settings is rendered. -/
def RendersText (render : List FieldError → Str) : Prop :=
  ∀ text text', render [⟨[], valueError text⟩] = render [⟨[], valueError text'⟩] → text = text'

/-- Where `urlsplit` raises on the `REDIS_URL` of both, it raises with one text. -/
def RaisesAlike (environ environ' : Environment) : Prop :=
  ∀ settings settings' text text',
    readFields readers environ = .ok settings → readFields readers environ' = .ok settings' →
    databaseUrlWellFormed readers settings = .ok () →
    databaseUrlWellFormed readers settings' = .ok () →
    urlsplit readers.checkNetloc settings.redisUrl = .error text →
    urlsplit readers.checkNetloc settings'.redisUrl = .error text' → text = text'

section Fields

variable {readers : Readers} {environ environ' : Environment} {settings settings' : Settings}

theorem field_congr {α : Type} {name : String} {default : α} {read : Str → Except Str α}
    (h : environ (ofString name) = environ' (ofString name))
    : field environ name default read = field environ' name default read := by
  unfold field
  rw [h]

theorem error?_field_total {α : Type} {name : String} {default : α} {read : Str → Except Str α}
    (hread : ∀ text, ∃ a, read text = .ok a)
    : (field environ name default read).error? = none := by
  unfold field
  split
  . rfl
  . next text _ =>
    rcases hread text with ⟨a, ha⟩
    rw [ha]
    rfl

theorem error?_field_of_agree {α : Type} {name : String} {default : α} {read : Str → Except Str α}
    (hsame : AgreeOffSecrets environ environ') (hname : ofString name ∉ SECRETS)
    : (field environ name default read).error? = (field environ' name default read).error? := by
  rw [field_congr (hsame _ hname)]

theorem error?_field_secret {α : Type} {name : String} {default : α} {read : Str → Except Str α}
    (hread : ∀ text, ∃ a, read text = .ok a)
    : (field environ name default read).error? = (field environ' name default read).error? := by
  rw [error?_field_total hread, error?_field_total hread]

theorem error?_readFields (hsame : AgreeOffSecrets environ environ')
    : (readFields readers environ).error? = (readFields readers environ').error? := by
  unfold readFields
  dsimp only
  repeat apply Except.error?_collect_congr
  all_goals first
    | rfl
    | exact error?_field_of_agree hsame (by decide)
    | exact error?_field_secret fun text => ⟨_, rfl⟩

/-- The settings that the checks read and that are no secret. -/
structure PublicEq (settings settings' : Settings) : Prop where
  appEnv : settings.appEnv = settings'.appEnv
  corsAllowOrigins : settings.corsAllowOrigins = settings'.corsAllowOrigins
  authAllowInsecureDevSecret :
    settings.authAllowInsecureDevSecret = settings'.authAllowInsecureDevSecret
  retryBaseDelay :
    settings.notificationRetryBaseDelaySeconds = settings'.notificationRetryBaseDelaySeconds
  retryMaxDelay :
    settings.notificationRetryMaxDelaySeconds = settings'.notificationRetryMaxDelaySeconds

/-- The public settings as they were read one by one. -/
structure ReadFrom (readers : Readers) (environ : Environment) (settings : Settings) : Prop where
  appEnv : field environ "app_env" ({} : Settings).appEnv readAppEnv = .ok settings.appEnv
  corsAllowOrigins :
    field environ "cors_allow_origins" ({} : Settings).corsAllowOrigins .ok
      = .ok settings.corsAllowOrigins
  authAllowInsecureDevSecret :
    field environ "auth_allow_insecure_dev_secret" ({} : Settings).authAllowInsecureDevSecret
      readers.bool = .ok settings.authAllowInsecureDevSecret
  retryBaseDelay :
    field environ "notification_retry_base_delay_seconds"
      ({} : Settings).notificationRetryBaseDelaySeconds (readPositive readers.float)
      = .ok settings.notificationRetryBaseDelaySeconds
  retryMaxDelay :
    field environ "notification_retry_max_delay_seconds"
      ({} : Settings).notificationRetryMaxDelaySeconds (readPositive readers.float)
      = .ok settings.notificationRetryMaxDelaySeconds

theorem readFrom_of_readFields
    : ∀ settings, readFields readers environ = .ok settings → ReadFrom readers environ settings := by
  unfold readFields
  simp only [Except.forall_collect_eq_ok, Except.ok.injEq]
  rintro _ rfl
  intro _ hAppEnv _ _ _ _ _ _ _ hOrigins _ _ _ _ _ _ _ hInsecure _ _ _ _ _ _ _ _ _ _ _ _
    _ hBase _ hMax _ _ _ _
  exact ⟨hAppEnv, hOrigins, hInsecure, hBase, hMax⟩

theorem publicEq_of_readFields (hsame : AgreeOffSecrets environ environ')
    (h : readFields readers environ = .ok settings)
    (h' : readFields readers environ' = .ok settings')
    : PublicEq settings settings' := by
  have hread := readFrom_of_readFields settings h
  have hread' := readFrom_of_readFields settings' h'
  have heq : ∀ {α : Type} {name : String} {default : α} {read : Str → Except Str α} {a a' : α},
      field environ name default read = .ok a → field environ' name default read = .ok a' →
      ofString name ∉ SECRETS → a = a' := by
    intro α name default read a a' ha ha' hname
    rw [field_congr (hsame _ hname), ha'] at ha
    injection ha with ha
    exact ha.symm
  constructor
  . exact heq hread.appEnv hread'.appEnv (by decide)
  . exact heq hread.corsAllowOrigins hread'.corsAllowOrigins (by decide)
  . exact heq hread.authAllowInsecureDevSecret hread'.authAllowInsecureDevSecret (by decide)
  . exact heq hread.retryBaseDelay hread'.retryBaseDelay (by decide)
  . exact heq hread.retryMaxDelay hread'.retryMaxDelay (by decide)

end Fields

section Checks

/-- The checks before the one that fails, if one does, let the settings pass. -/
inductive StopsAt (readers : Readers) (settings : Settings) : Option Check → Prop where
  | databaseUrl (h : (databaseUrlWellFormed readers settings).isOk = false)
    : StopsAt readers settings (some .databaseUrl)
  | redisUrlSplit (hdatabase : databaseUrlWellFormed readers settings = .ok ())
      (h : (splitUrl readers settings.redisUrl).isOk = false)
    : StopsAt readers settings (some .redisUrlSplit)
  | redisUrlShape (hdatabase : databaseUrlWellFormed readers settings = .ok ())
      (hsplit : (splitUrl readers settings.redisUrl).isOk)
      (h : (redisUrlWellFormed readers settings).isOk = false)
    : StopsAt readers settings (some .redisUrlShape)
  | origins (hdatabase : databaseUrlWellFormed readers settings = .ok ())
      (hredis : redisUrlWellFormed readers settings = .ok ())
      (h : (settings.corsOriginsList.forM (originWellFormed readers)).isOk = false)
    : StopsAt readers settings (some .origins)
  | retryDelays (hurls : urlsAndOriginsWellFormed readers settings = .ok ())
      (h : (retryDelaysMakeSense settings).isOk = false)
    : StopsAt readers settings (some .retryDelays)
  | requirement {found : Option Check} (hurls : urlsAndOriginsWellFormed readers settings = .ok ())
      (hdelays : retryDelaysMakeSense settings = .ok ())
      (h : settings.failedRequirement = found)
    : StopsAt readers settings found

variable {readers : Readers} {settings settings' : Settings} {check : Check}

theorem eq_ok_of_isOk {x : Except SettingsError Unit} (h : ¬ (!x.isOk) = true)
    : x = .ok () := by
  rw [Bool.not_eq_true', Bool.not_eq_false, Except.isOk_iff] at h
  rcases h with ⟨_, h⟩
  exact h

theorem stopsAt_failedCheck : StopsAt readers settings (settings.failedCheck readers) := by
  unfold Settings.failedCheck
  split
  . next hdatabase =>
    apply StopsAt.databaseUrl
    simpa using hdatabase
  . next hdatabase =>
    have hdatabase := eq_ok_of_isOk hdatabase
    split
    . next hsplit =>
      apply StopsAt.redisUrlSplit hdatabase
      simpa using hsplit
    . next hsplit =>
      split
      . next hredis =>
        apply StopsAt.redisUrlShape hdatabase
        . simpa using hsplit
        . simpa using hredis
      . next hredis =>
        have hredis := eq_ok_of_isOk hredis
        split
        . next horigins =>
          apply StopsAt.origins hdatabase hredis
          simpa using horigins
        . next horigins =>
          have horigins := eq_ok_of_isOk horigins
          have hurls : urlsAndOriginsWellFormed readers settings = .ok () := by
            unfold urlsAndOriginsWellFormed
            rw [hdatabase, hredis]
            exact horigins
          split
          . next hdelays =>
            apply StopsAt.retryDelays hurls
            simpa using hdelays
          . next hdelays =>
            apply StopsAt.requirement hurls (eq_ok_of_isOk hdelays) rfl

theorem ite_failedRequirement {α : Type} (settings : Settings) (ok e₁ e₂ e₃ e₄ e₅ e₆ : α)
    : (if settings.appEnv ≠ .production then ok
        else if settings.authAllowInsecureDevSecret then e₁
        else if settings.authSecretKey = AUTH_SECRET_PLACEHOLDER then e₂
        else if settings.authSecretKey.length < AUTH_SECRET_MIN_LENGTH then e₃
        else if settings.databaseUrl = none then e₄
        else if !settings.modelFieldsSet (ofString "redis_url") then e₅
        else if ofString "*" ∈ settings.corsOriginsList then e₆
        else ok)
        =
      settings.failedRequirement.elim ok fun
        | .insecureDevSecret => e₁
        | .placeholderSecret => e₂
        | .secretLength => e₃
        | .databaseRequired => e₄
        | .redisRequired => e₅
        | _ => e₆ := by
  unfold Settings.failedRequirement
  split_ifs <;> rfl

theorem exists_requirementError
    : ∃ error : Check → Except SettingsError Unit, ∀ settings,
        productionRequirements settings = settings.failedRequirement.elim (.ok ()) error := by
  apply Exists.intro
  intro settings
  unfold productionRequirements
  apply ite_failedRequirement

theorem productionRequirements_alike
    (h : settings.failedRequirement = settings'.failedRequirement)
    : productionRequirements settings = productionRequirements settings' := by
  rcases exists_requirementError with ⟨error, heq⟩
  rw [heq, heq, h]

theorem mem_of_failedRequirement (h : settings.failedRequirement = some check)
    : check ∈ [.insecureDevSecret, .placeholderSecret, .secretLength, .databaseRequired,
        .redisRequired, .wildcardOrigin] := by
  unfold Settings.failedRequirement at h
  split_ifs at h <;> injection h with h <;> rw [← h] <;> decide

theorem outcome_of_failedRequirement (h : settings.failedRequirement = some check)
    : check.outcome readers settings = productionRequirements settings := by
  unfold Settings.failedRequirement at h
  split_ifs at h <;> injection h with h <;> rw [← h] <;> rfl

theorem error_of_failedRequirement (h : settings.failedRequirement = some check)
    : ∃ error, productionRequirements settings = .error error := by
  unfold Settings.failedRequirement at h
  unfold productionRequirements
  split_ifs at h ⊢ <;> exact ⟨_, rfl⟩

theorem outcome_error (h : StopsAt readers settings (some check))
    : ∃ error, check.outcome readers settings = .error error := by
  cases h with
  | databaseUrl h | redisUrlShape _ _ h | origins _ _ h | retryDelays _ h =>
    exact Except.isOk_eq_false.mp h
  | redisUrlSplit _ h =>
    rcases Except.isOk_eq_false.mp h with ⟨e, he⟩
    unfold Check.outcome
    rw [he]
    exact ⟨e, rfl⟩
  | requirement _ _ h =>
    rw [outcome_of_failedRequirement h]
    exact error_of_failedRequirement h

theorem databaseUrl_alike
    : ∃ error, ∀ settings, databaseUrlWellFormed readers settings = .ok ()
        ∨ databaseUrlWellFormed readers settings = error := by
  apply Exists.intro
  intro settings
  unfold databaseUrlWellFormed
  split
  . exact .inl rfl
  . split
    . exact .inl rfl
    . exact .inr rfl

theorem redisUrlShape_alike
    : ∃ error, ∀ settings, (splitUrl readers settings.redisUrl).isOk →
        redisUrlWellFormed readers settings = .ok ()
          ∨ redisUrlWellFormed readers settings = error := by
  apply Exists.intro
  intro settings hsplit
  rcases Except.isOk_iff.mp hsplit with ⟨parts, hparts⟩
  unfold redisUrlWellFormed
  rw [hparts]
  dsimp only [Bind.bind, Except.bind]
  split
  . exact .inr rfl
  . exact .inl rfl

theorem failedRequirement_of_stopsAt (h : StopsAt readers settings (some check))
    (hcheck : check ∉ [.databaseUrl, .redisUrlSplit, .redisUrlShape, .origins, .retryDelays])
    : settings.failedRequirement = some check := by
  cases h with
  | requirement _ _ h => exact h
  | databaseUrl | redisUrlSplit | redisUrlShape | origins | retryDelays => simp at hcheck

theorem isOk_of_redisUrlShape (h : StopsAt readers settings (some .redisUrlShape))
    : (splitUrl readers settings.redisUrl).isOk := by
  cases h with
  | redisUrlShape _ hsplit _ => exact hsplit
  | requirement _ _ h => exact absurd (mem_of_failedRequirement h) (by decide)

/-- A check says the same of settings that differ in secret ones, unless it repeats a text. -/
theorem outcome_alike (hpublic : PublicEq settings settings') (h : StopsAt readers settings (some check))
    (h' : StopsAt readers settings' (some check)) (hcheck : check ≠ .redisUrlSplit)
    : check.outcome readers settings = check.outcome readers settings' := by
  rcases outcome_error h with ⟨e, he⟩
  rcases outcome_error h' with ⟨e', he'⟩
  cases check with
  | fields => rfl
  | databaseUrl =>
    rcases @databaseUrl_alike readers with ⟨error, halike⟩
    unfold Check.outcome at he he' ⊢
    have heq := (halike settings).resolve_left (by simp [he])
    have heq' := (halike settings').resolve_left (by simp [he'])
    rw [heq, heq']
  | redisUrlSplit => exact absurd rfl hcheck
  | redisUrlShape =>
    rcases @redisUrlShape_alike readers with ⟨error, halike⟩
    unfold Check.outcome at he he' ⊢
    have heq := (halike settings (isOk_of_redisUrlShape h)).resolve_left (by simp [he])
    have heq' := (halike settings' (isOk_of_redisUrlShape h')).resolve_left (by simp [he'])
    rw [heq, heq']
  | origins =>
    unfold Check.outcome Settings.corsOriginsList
    rw [hpublic.corsAllowOrigins]
  | retryDelays =>
    unfold Check.outcome retryDelaysMakeSense
    rw [hpublic.retryBaseDelay, hpublic.retryMaxDelay]
  | insecureDevSecret | placeholderSecret | secretLength | databaseRequired | redisRequired
  | wildcardOrigin =>
    apply productionRequirements_alike
    rw [failedRequirement_of_stopsAt h (by decide), failedRequirement_of_stopsAt h' (by decide)]

end Checks

section Load

variable {readers : Readers} {environ environ' : Environment} {settings settings' : Settings}
variable {check : Check} {error error' : SettingsError}

theorem load_of_readFields (hread : readFields readers environ = .ok settings)
    : load readers environ = do
        urlsAndOriginsWellFormed readers settings
        retryDelaysMakeSense settings
        productionRequirements settings
        return settings := by
  unfold load
  rw [hread]
  rfl

theorem load_of_stopsAt (hread : readFields readers environ = .ok settings)
    (h : StopsAt readers settings (some check))
    (houtcome : check.outcome readers settings = .error error)
    : load readers environ = .error error := by
  rw [load_of_readFields hread]
  cases h with
  | databaseUrl _ =>
    change databaseUrlWellFormed readers settings = _ at houtcome
    unfold urlsAndOriginsWellFormed
    rw [houtcome]
    rfl
  | redisUrlSplit hdatabase _ =>
    change (splitUrl readers settings.redisUrl).map _ = _ at houtcome
    rw [Except.map_eq_error] at houtcome
    unfold urlsAndOriginsWellFormed redisUrlWellFormed
    rw [hdatabase, houtcome]
    rfl
  | redisUrlShape hdatabase _ _ =>
    change redisUrlWellFormed readers settings = _ at houtcome
    unfold urlsAndOriginsWellFormed
    rw [hdatabase, houtcome]
    rfl
  | origins hdatabase hredis _ =>
    change settings.corsOriginsList.forM (originWellFormed readers) = _ at houtcome
    unfold urlsAndOriginsWellFormed
    rw [hdatabase, hredis]
    dsimp only [Bind.bind, Except.bind]
    rw [houtcome]
  | retryDelays hurls _ =>
    change retryDelaysMakeSense settings = _ at houtcome
    rw [hurls, houtcome]
    rfl
  | requirement hurls hdelays h =>
    rw [outcome_of_failedRequirement h] at houtcome
    rw [hurls, hdelays, houtcome]
    rfl

theorem load_of_passed (hread : readFields readers environ = .ok settings)
    (h : StopsAt readers settings none) : load readers environ = .ok settings := by
  rw [load_of_readFields hread]
  cases h with
  | requirement hurls hdelays h =>
    rcases exists_requirementError with ⟨error, heq⟩
    rw [hurls, hdelays, heq, h]
    rfl

theorem failedCheck_eq_none
    : failedCheck readers environ = none ↔ ∃ settings, load readers environ = .ok settings := by
  unfold failedCheck
  cases hread : readFields readers environ with
  | error es => simp [load, hread, Except.mapError, bind, Except.bind]
  | ok settings =>
    have hstops := @stopsAt_failedCheck readers settings
    cases hcheck : settings.failedCheck readers with
    | none =>
      rw [hcheck] at hstops
      simp [hcheck, load_of_passed hread hstops]
    | some check =>
      rw [hcheck] at hstops
      rcases outcome_error hstops with ⟨e, he⟩
      simp [hcheck, load_of_stopsAt hread hstops he]

theorem load_of_fieldErrors {es : List FieldError} (hread : readFields readers environ = .error es)
    : load readers environ = .error (.validation es) := by
  unfold load
  rw [hread]
  rfl

theorem load_of_raises {text : Str} (hread : readFields readers environ = .ok settings)
    (hdatabase : databaseUrlWellFormed readers settings = .ok ())
    (hsplit : urlsplit readers.checkNetloc settings.redisUrl = .error text)
    : load readers environ = .error (.validation [⟨[], valueError text⟩]) := by
  rw [load_of_readFields hread]
  unfold urlsAndOriginsWellFormed redisUrlWellFormed splitUrl
  rw [hdatabase, hsplit]
  rfl

theorem failedCheck_of_raises {text : Str} (hread : readFields readers environ = .ok settings)
    (hdatabase : databaseUrlWellFormed readers settings = .ok ())
    (hsplit : urlsplit readers.checkNetloc settings.redisUrl = .error text)
    : failedCheck readers environ = some .redisUrlSplit := by
  unfold failedCheck Settings.failedCheck splitUrl
  rw [hread]
  dsimp only
  rw [hdatabase, hsplit]
  rfl

theorem raises_of_stopsAt (h : StopsAt readers settings (some .redisUrlSplit))
    : databaseUrlWellFormed readers settings = .ok ()
      ∧ ∃ text, urlsplit readers.checkNetloc settings.redisUrl = .error text := by
  cases h with
  | requirement _ _ h => exact absurd (mem_of_failedRequirement h) (by decide)
  | redisUrlSplit hdatabase h =>
    constructor
    . exact hdatabase
    . rcases Except.isOk_eq_false.mp h with ⟨error, herror⟩
      unfold splitUrl at herror
      rw [Except.mapError_eq_error] at herror
      rcases herror with ⟨text, htext, _⟩
      exact ⟨text, htext⟩

theorem stopsAt_of_failedCheck (hread : readFields readers environ = .ok settings)
    : StopsAt readers settings (failedCheck readers environ) := by
  have hstops := @stopsAt_failedCheck readers settings
  unfold failedCheck
  rw [hread]
  exact hstops

theorem exists_failedCheck (h : load readers environ = .error error)
    : ∃ check, failedCheck readers environ = some check := by
  cases hcheck : failedCheck readers environ with
  | none =>
    rcases failedCheck_eq_none.mp hcheck with ⟨settings, hload⟩
    rw [hload] at h
    injection h
  | some check => exact ⟨check, rfl⟩

theorem error_alike_of_read (hpublic : PublicEq settings settings')
    (hread : readFields readers environ = .ok settings)
    (hread' : readFields readers environ' = .ok settings')
    (h : load readers environ = .error error) (h' : load readers environ' = .error error')
    (hstops : StopsAt readers settings (some check))
    (hstops' : StopsAt readers settings' (some check))
    (halike : RaisesAlike readers environ environ')
    : error = error' := by
  by_cases hsplit : check = .redisUrlSplit
  . rw [hsplit] at hstops hstops'
    rcases raises_of_stopsAt hstops with ⟨hdatabase, text, htext⟩
    rcases raises_of_stopsAt hstops' with ⟨hdatabase', text', htext'⟩
    have heq := halike _ _ _ _ hread hread' hdatabase hdatabase' htext htext'
    rw [load_of_raises hread hdatabase htext] at h
    rw [load_of_raises hread' hdatabase' htext'] at h'
    injection h with h
    injection h' with h'
    rw [← h, ← h', heq]
  . rcases outcome_error hstops with ⟨e, he⟩
    have he' := he
    rw [outcome_alike hpublic hstops hstops' hsplit] at he'
    rw [load_of_stopsAt hread hstops he] at h
    rw [load_of_stopsAt hread' hstops' he'] at h'
    injection h with h
    injection h' with h'
    rw [← h, ← h']

/-- Both fail at one check whose error does not show what differs, or both show one text. -/
theorem error_alike (hsame : AgreeOffSecrets environ environ') (h : load readers environ = .error error)
    (h' : load readers environ' = .error error')
    (hcheck : failedCheck readers environ = failedCheck readers environ')
    (halike : RaisesAlike readers environ environ')
    : error = error' := by
  have herrors := @error?_readFields readers _ _ hsame
  cases hread : readFields readers environ with
  | error es =>
    have hread' : readFields readers environ' = .error es := by
      rw [← Except.error?_eq_some, ← herrors, hread]
      rfl
    rw [load_of_fieldErrors hread] at h
    rw [load_of_fieldErrors hread'] at h'
    injection h with h
    injection h' with h'
    rw [← h, ← h']
  | ok settings =>
    cases hread' : readFields readers environ' with
    | error es' =>
      rw [hread, hread'] at herrors
      exact absurd herrors (by simp [Except.error?])
    | ok settings' =>
      rcases exists_failedCheck h with ⟨check, hfound⟩
      have hstops := stopsAt_of_failedCheck hread
      have hstops' := stopsAt_of_failedCheck hread'
      rw [hfound] at hstops
      rw [← hcheck, hfound] at hstops'
      have hpublic := publicEq_of_readFields hsame hread hread'
      exact error_alike_of_read hpublic hread hread' h h' hstops hstops' halike

/--
The text that leaves `Settings()` is one for all values of the secrets exactly where `urlsplit`
does not tell the values of `REDIS_URL` apart.
-/
theorem secretsHidden_iff {render : List FieldError → Str} (hrender : RendersText render)
    (hsame : AgreeOffSecrets environ environ') (h : load readers environ = .error error)
    (h' : load readers environ' = .error error')
    (hcheck : failedCheck readers environ = failedCheck readers environ')
    : error.text render = error'.text render ↔ RaisesAlike readers environ environ' := by
  constructor
  . intro heq settings settings' text text' hread hread' hdatabase hdatabase' htext htext'
    rw [load_of_raises hread hdatabase htext] at h
    rw [load_of_raises hread' hdatabase' htext'] at h'
    injection h with h
    injection h' with h'
    rw [← h, ← h'] at heq
    exact hrender _ _ heq
  . intro halike
    rw [error_alike hsame h h' hcheck halike]

/-- `℀` becomes `a/c` in normal form, and `/` may not stand in a network location. -/
def expandingNetloc (netloc : Str) : Except Str Unit :=
  if (0x2100 : CodePoint) ∈ netloc then
    .error (ofString "netloc '" ++ netloc
      ++ ofString "' contains invalid characters under NFKC normalization")
  else
    .ok ()

def expandingReaders : Readers where
  int _ := .error (ofString "Input should be a valid integer")
  float _ := .error (ofString "Input should be a valid number")
  bool _ := .error (ofString "Input should be a valid boolean")
  makeUrl _ := true
  checkNetloc := expandingNetloc
  repr text := text

def redisEnvironment (url : String) : Environment := fun name =>
  if name = ofString "redis_url" then some (ofString url) else none

def renderErrors (errors : List FieldError) : Str :=
  decimal errors.length ++ ofString " validation error for Settings"
    ++ errors.flatMap fun error =>
      cp '\n' :: error.loc ++ ofString "  " ++ error.message ++ ofString " [type=value_error]"

theorem renderErrors_rendersText : RendersText renderErrors := by
  intro text text' h
  simpa [renderErrors, valueError] using h

theorem redisEnvironment_agree (url url' : String)
    : AgreeOffSecrets (redisEnvironment url) (redisEnvironment url') := by
  intro name hname
  have hredis : name ≠ ofString "redis_url" := by
    rintro rfl
    exact hname (by decide)
  rw [redisEnvironment, redisEnvironment, if_neg hredis, if_neg hredis]

def redisSettings (url : String) : Settings where
  redisUrl := ofString url
  modelFieldsSet name := (redisEnvironment url name).isSome

theorem readFields_redisEnvironment (url : String)
    : readFields expandingReaders (redisEnvironment url) = .ok (redisSettings url) := by
  apply Eq.refl

theorem load_redisEnvironment {url : String} {text : Str}
    (hraises : urlsplit expandingNetloc (ofString url) = .error text)
    : load expandingReaders (redisEnvironment url)
        = .error (.validation [⟨[], valueError text⟩]) := by
  apply load_of_raises (readFields_redisEnvironment url)
  . rfl
  . exact hraises

theorem failedCheck_redisEnvironment {url : String} {text : Str}
    (hraises : urlsplit expandingNetloc (ofString url) = .error text)
    : failedCheck expandingReaders (redisEnvironment url) = some .redisUrlSplit := by
  apply failedCheck_of_raises (readFields_redisEnvironment url)
  . rfl
  . exact hraises

theorem raisesAlike_redisEnvironment {url url' : String} {text : Str}
    (hraises : urlsplit expandingNetloc (ofString url) = .error text)
    (hraises' : urlsplit expandingNetloc (ofString url') = .error text)
    : RaisesAlike expandingReaders (redisEnvironment url) (redisEnvironment url') := by
  intro settings settings' found found' hread hread' _ _ hfound hfound'
  rw [readFields_redisEnvironment] at hread hread'
  rw [← Except.ok.inj hread] at hfound
  rw [← Except.ok.inj hread'] at hfound'
  have heq := hraises.symm.trans hfound
  have heq' := hraises'.symm.trans hfound'
  injection heq with heq
  injection heq' with heq'
  rw [← heq, ← heq']

/-- A bracket that is not closed is told of in one text. -/
theorem bracket_hidden
    : ∃ error error',
        load expandingReaders (redisEnvironment "redis://:alpha[@host") = .error error
          ∧ load expandingReaders (redisEnvironment "redis://:beta[@host") = .error error'
          ∧ error.text renderErrors = error'.text renderErrors := by
  have hraises : urlsplit expandingNetloc (ofString "redis://:alpha[@host")
      = .error (ofString "Invalid IPv6 URL") := rfl
  have hraises' : urlsplit expandingNetloc (ofString "redis://:beta[@host")
      = .error (ofString "Invalid IPv6 URL") := rfl
  refine ⟨_, _, load_redisEnvironment hraises, load_redisEnvironment hraises', ?_⟩
  apply (secretsHidden_iff renderErrors_rendersText (redisEnvironment_agree _ _)
    (load_redisEnvironment hraises) (load_redisEnvironment hraises') ?_).mpr
  . exact raisesAlike_redisEnvironment hraises hraises'
  . rw [failedCheck_redisEnvironment hraises, failedCheck_redisEnvironment hraises']

/-- A password that changes in normal form is part of the error. -/
theorem password_shown
    : AgreeOffSecrets (redisEnvironment "redis://:alpha\u2100@host")
          (redisEnvironment "redis://:beta\u2100@host")
        ∧ failedCheck expandingReaders (redisEnvironment "redis://:alpha\u2100@host")
          = failedCheck expandingReaders (redisEnvironment "redis://:beta\u2100@host")
        ∧ ∃ error error',
            load expandingReaders (redisEnvironment "redis://:alpha\u2100@host") = .error error
              ∧ load expandingReaders (redisEnvironment "redis://:beta\u2100@host") = .error error'
              ∧ error.text renderErrors ≠ error'.text renderErrors := by
  have hraises := Except.error?_eq_some.mp (show
    (urlsplit expandingNetloc (ofString "redis://:alpha\u2100@host")).error? = some (ofString
      "netloc ':alpha\u2100@host' contains invalid characters under NFKC normalization") by
    decide +kernel)
  have hraises' := Except.error?_eq_some.mp (show
    (urlsplit expandingNetloc (ofString "redis://:beta\u2100@host")).error? = some (ofString
      "netloc ':beta\u2100@host' contains invalid characters under NFKC normalization") by
    decide +kernel)
  have hload := load_redisEnvironment hraises
  have hload' := load_redisEnvironment hraises'
  refine ⟨redisEnvironment_agree _ _, ?_, _, _, hload, hload', ?_⟩
  . rw [failedCheck_redisEnvironment hraises, failedCheck_redisEnvironment hraises']
  . intro heq
    have htexts := renderErrors_rendersText _ _ heq
    exact absurd htexts (by decide)

end Load

end Config
end Api
