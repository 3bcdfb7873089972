import Ketabdaneh.Api.Core.Config
import Ketabdaneh.Api.Worker.Retry

/-!
This module contains what the worker and the service that feeds its queue make of the settings, when
they start. How arq reads the URL of Redis is a parameter.
-/

namespace Api

open Python Text

structure RedisSettings where
  host : Str
  port : Nat
  database : Int
  connTimeout : Nat := 1
  connRetries : Nat := 5
  connRetryDelay : Nat := 1

/-- `RedisSettings.from_dsn`; `none` is an exception. -/
abbrev FromDsn :=
  Str → Option RedisSettings

def POOL_CONN_TIMEOUT_SECONDS : Nat :=
  2

def POOL_CONN_RETRIES : Nat :=
  1

def POOL_CONN_RETRY_DELAY_SECONDS : Nat :=
  1

def retryPolicyFromSettings (settings : Config.Settings) : Except String Unit :=
  RetryPolicy.postInit settings.notificationMaxAttempts settings.notificationRetryBaseDelaySeconds
    settings.notificationRetryMaxDelaySeconds

/-- Of the body of the class of the worker, which is run by its import. -/
def workerRedisSettings (fromDsn : FromDsn) (settings : Config.Settings) : Option RedisSettings :=
  fromDsn settings.redisUrl

/-- Of the service, which asks for it with its first notification. -/
def serviceRedisSettings (fromDsn : FromDsn) (settings : Config.Settings) : Option RedisSettings := do
  let redisSettings ← fromDsn settings.redisUrl
  return { redisSettings with
    connTimeout := POOL_CONN_TIMEOUT_SECONDS
    connRetries := POOL_CONN_RETRIES
    connRetryDelay := POOL_CONN_RETRY_DELAY_SECONDS
  }

end Api
