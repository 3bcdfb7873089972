import Ketabdaneh.Library.Except
import Ketabdaneh.Library.Python.Float
import Ketabdaneh.Library.Python.Url

namespace Api

open Python Text

def AUTH_SECRET_PLACEHOLDER : Str :=
  ofString "change-me-insecure-dev-placeholder"

namespace Config

def AUTH_SECRET_MIN_LENGTH : Nat :=
  32

inductive AppEnv where
  | development
  | test
  | production
  deriving DecidableEq

structure Settings where
  appEnv : AppEnv := .development
  databaseUrl : Option Str := none
  apiHost : Str := ofString "0.0.0.0"
  apiPort : Int := 8000
  corsAllowOrigins : Str := ofString "http://localhost:3000,http://127.0.0.1:3000"
  authSecretKey : Str := AUTH_SECRET_PLACEHOLDER
  authAlgorithm : Str := ofString "HS256"
  accessTokenExpireMinutes : Int := 60
  authAllowInsecureDevSecret : Bool := true
  logLevel : Str := ofString "INFO"
  telegramBotToken : Option Str := none
  baleBotToken : Option Str := none
  notificationTimeoutSeconds : PyFloat := .finite 10
  redisUrl : Str := ofString "redis://localhost:6390/0"
  notificationMaxAttempts : Int := 5
  notificationRetryBaseDelaySeconds : PyFloat := .finite 5
  notificationRetryMaxDelaySeconds : PyFloat := .finite 300
  workerMetricsPort : Int := 0
  /-- The names that the environment has a value for. -/
  modelFieldsSet : Str → Bool := fun _ => false

/-- What reads the settings: pydantic and SQLAlchemy, and of Python what is not written out. -/
structure Readers where
  int : Str → Except Str Int
  float : Str → Except Str PyFloat
  bool : Str → Except Str Bool
  makeUrl : Str → Bool
  checkNetloc : Str → Except Str Unit
  repr : Str → Str

/-- The values of the environment and the file, by the names of the settings. -/
abbrev Environment :=
  Str → Option Str

structure FieldError where
  loc : Str
  message : Str

/-- A `ValidationError` of pydantic, or a `ConfigurationError` of a check. -/
inductive SettingsError where
  | validation (errors : List FieldError)
  | configuration (message : Str)

def valueError (message : Str) : Str :=
  ofString "Value error, " ++ message

section Fields

def readAppEnv (text : Str) : Except Str AppEnv :=
  -- no letter outside ASCII becomes one of these names
  let value := asciiLower (strip text)
  if value = ofString "development" then .ok .development
  else if value = ofString "test" then .ok .test
  else if value = ofString "production" then .ok .production
  else .error (ofString "Input should be 'development', 'test' or 'production'")

/-- The capital of a letter, where that is one of ASCII. -/
def upperLetter (c : CodePoint) : CodePoint :=
  if h : 0x61 ≤ c.val ∧ c.val ≤ 0x7A then ⟨c.val - 0x20, by omega⟩
  else if c.val = 0x131 then cp 'I'
  else if c.val = 0x17F then cp 'S'
  else c

def LOG_LEVELS : List Str :=
  [ofString "DEBUG", ofString "INFO", ofString "WARNING", ofString "ERROR", ofString "CRITICAL"]

def logLevelIsStandard (repr : Str → Str) (value : Str) : Except Str Str :=
  let normalized := (strip value).map upperLetter
  if normalized ∈ LOG_LEVELS then
    .ok normalized
  else
    .error (valueError (ofString "log_level must be one of "
      ++ (ofString ", ").intercalate LOG_LEVELS ++ ofString " (case-insensitive), got " ++ repr value))

def readPositive (float : Str → Except Str PyFloat) (text : Str) : Except Str PyFloat := do
  let value ← float text
  if value.le (.finite 0) then
    throw (ofString "Input should be greater than 0")
  return value

def readAtLeast (int : Str → Except Str Int) (bound : Nat) (text : Str) : Except Str Int := do
  let value ← int text
  if value < bound then
    throw (ofString "Input should be greater than or equal to " ++ decimal bound)
  return value

def readPort (int : Str → Except Str Int) (text : Str) : Except Str Int := do
  let value ← int text
  if 65535 < value then
    throw (ofString "Input should be less than or equal to 65535")
  readAtLeast int 0 text

def field {α : Type} (environ : Environment) (name : String) (default : α)
    (read : Str → Except Str α) : Except (List FieldError) α :=
  match environ (ofString name) with
  | none => .ok default
  | some text =>
    match read text with
    | .ok value => .ok value
    | .error message => .error [⟨ofString name, message⟩]

variable (readers : Readers) (environ : Environment)

/-- The fields, each checked for itself; all that fail are reported. -/
def readFields : Except (List FieldError) Settings :=
  let base : Settings := {}
  Except.ok Settings.mk
    |>.collect (field environ "app_env" base.appEnv readAppEnv)
    |>.collect (field environ "database_url" base.databaseUrl (.ok ∘ some))
    |>.collect (field environ "api_host" base.apiHost .ok)
    |>.collect (field environ "api_port" base.apiPort readers.int)
    |>.collect (field environ "cors_allow_origins" base.corsAllowOrigins .ok)
    |>.collect (field environ "auth_secret_key" base.authSecretKey .ok)
    |>.collect (field environ "auth_algorithm" base.authAlgorithm .ok)
    |>.collect (field environ "access_token_expire_minutes" base.accessTokenExpireMinutes readers.int)
    |>.collect (field environ "auth_allow_insecure_dev_secret" base.authAllowInsecureDevSecret
      readers.bool)
    |>.collect (field environ "log_level" base.logLevel (logLevelIsStandard readers.repr))
    |>.collect (field environ "telegram_bot_token" base.telegramBotToken (.ok ∘ some))
    |>.collect (field environ "bale_bot_token" base.baleBotToken (.ok ∘ some))
    |>.collect (field environ "notification_timeout_seconds" base.notificationTimeoutSeconds
      (readPositive readers.float))
    |>.collect (field environ "redis_url" base.redisUrl .ok)
    |>.collect (field environ "notification_max_attempts" base.notificationMaxAttempts
      (readAtLeast readers.int 1))
    |>.collect (field environ "notification_retry_base_delay_seconds"
      base.notificationRetryBaseDelaySeconds (readPositive readers.float))
    |>.collect (field environ "notification_retry_max_delay_seconds"
      base.notificationRetryMaxDelaySeconds (readPositive readers.float))
    |>.collect (field environ "worker_metrics_port" base.workerMetricsPort (readPort readers.int))
    |>.collect (.ok fun name => (environ name).isSome)

end Fields

section Checks

def Settings.corsOriginsList (settings : Settings) : List Str :=
  ((settings.corsAllowOrigins.splitOn (cp ',')).map strip).filter (· ≠ [])

def REDIS_SCHEMES : List Str :=
  [ofString "redis", ofString "rediss", ofString "unix"]

def HTTP_SCHEMES : List Str :=
  [ofString "http", ofString "https"]

def configurationError (message : String) : Except SettingsError Unit :=
  .error (.configuration (ofString message))

variable (readers : Readers)

/-- `urlsplit` in a check of the whole settings. -/
def splitUrl (url : Str) : Except SettingsError SplitResult :=
  (urlsplit readers.checkNetloc url).mapError fun message => .validation [⟨[], valueError message⟩]

def databaseUrlWellFormed (settings : Settings) : Except SettingsError Unit :=
  match settings.databaseUrl with
  | none => .ok ()
  | some url =>
    if readers.makeUrl url then
      .ok ()
    else
      configurationError
        ("DATABASE_URL is invalid (expected a SQLAlchemy URL such as postgresql+psycopg://"
          ++ "user:password@host:port/database); the value is not repeated here")

def redisUrlWellFormed (settings : Settings) : Except SettingsError Unit := do
  let redisParts ← splitUrl readers settings.redisUrl
  if redisParts.scheme ∉ REDIS_SCHEMES ∨ redisParts.netloc = [] ∧ redisParts.path = [] then
    configurationError
      ("REDIS_URL is invalid (expected redis://host:port/db, rediss://… or unix:///path); "
        ++ "the value is not repeated here")
  else
    return ()

def originWellFormed (origin : Str) : Except SettingsError Unit :=
  if origin = ofString "*" then
    .ok ()
  else do
    let parts ← splitUrl readers origin
    if parts.scheme ∉ HTTP_SCHEMES ∨ parts.netloc = [] then
      configurationError
        ("CORS_ALLOW_ORIGINS entries must be http(s) URLs such as http://localhost:3000; "
          ++ "got an entry that is not (the value is not repeated here)")
    else
      return ()

def urlsAndOriginsWellFormed (settings : Settings) : Except SettingsError Unit := do
  databaseUrlWellFormed readers settings
  redisUrlWellFormed readers settings
  settings.corsOriginsList.forM (originWellFormed readers)

def retryDelaysMakeSense (settings : Settings) : Except SettingsError Unit :=
  if settings.notificationRetryMaxDelaySeconds.lt settings.notificationRetryBaseDelaySeconds then
    configurationError
      ("notification_retry_max_delay_seconds must be greater than or equal to "
        ++ "notification_retry_base_delay_seconds")
  else
    .ok ()

def productionRequirements (settings : Settings) : Except SettingsError Unit :=
  if settings.appEnv ≠ .production then
    .ok ()
  else if settings.authAllowInsecureDevSecret then
    configurationError
      ("AUTH_ALLOW_INSECURE_DEV_SECRET must not be enabled in production (it permits signing "
        ++ "tokens with the public development placeholder secret)")
  else if settings.authSecretKey = AUTH_SECRET_PLACEHOLDER then
    configurationError
      ("AUTH_SECRET_KEY is the development placeholder; production requires a real secret "
        ++ "(see apps/api/.env.example)")
  else if settings.authSecretKey.length < AUTH_SECRET_MIN_LENGTH then
    configurationError
      (s!"AUTH_SECRET_KEY must be at least {AUTH_SECRET_MIN_LENGTH} characters in production "
        ++ "(generate one with secrets.token_urlsafe(48) in a Python REPL)")
  else if settings.databaseUrl = none then
    configurationError
      "DATABASE_URL is required in production (it is optional only in development/test)"
  else if !settings.modelFieldsSet (ofString "redis_url") then
    configurationError
      ("REDIS_URL must be set explicitly in production (the localhost default is a development "
        ++ "convenience only)")
  else if ofString "*" ∈ settings.corsOriginsList then
    configurationError
      ("CORS_ALLOW_ORIGINS must not contain \"*\" in production — list the real frontend "
        ++ "origin(s) explicitly")
  else
    .ok ()

/-- `Settings()`. -/
def load (environ : Environment) : Except SettingsError Settings := do
  let settings ← (readFields readers environ).mapError .validation
  urlsAndOriginsWellFormed readers settings
  retryDelaysMakeSense settings
  productionRequirements settings
  return settings

end Checks

end Config

end Api
