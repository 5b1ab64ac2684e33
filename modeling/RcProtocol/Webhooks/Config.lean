import RcProtocol.Library.Numerals
import RcProtocol.Webhooks.Worker

/-!
The configuration of go-webhook (config/config.go) and the worker it starts with it.
-/

namespace RcProtocol.Webhooks
open Library

structure Config where
  databaseURL : String
  workerCount : Int
  retryConfig : RetryConfig

/-- A variable that is missing reads as the empty text. -/
def getEnvInt (getenv : String → String) (key : String) (defaultValue : Int) : Int :=
  if getenv key = "" then defaultValue else (readInt64 (getenv key)).getD defaultValue

def load (getenv : String → String) : Except String Config :=
  if getenv "WEBHOOK_DATABASE_URL" = "" then .error "WEBHOOK_DATABASE_URL is required"
  else
    .ok
      { databaseURL := getenv "WEBHOOK_DATABASE_URL"
        workerCount := getEnvInt getenv "WEBHOOK_WORKER_COUNT" 5
        retryConfig :=
          { maxRetries := getEnvInt getenv "WEBHOOK_MAX_RETRIES" 3
            backoffSeconds := [60, 300, 900]
            timeoutSeconds := getEnvInt getenv "WEBHOOK_TIMEOUT_SECONDS" 30 } }

/-- The number of retries is read from the environment, the table of delays is not. -/
theorem load_backoffSeconds {getenv : String → String} {config : Config}
    (h : load getenv = .ok config) : config.retryConfig.backoffSeconds = [60, 300, 900] := by
  rw [load] at h
  split at h
  · cases h
  · rw [← Except.ok.inj h]

def newWorker (primitives : Primitives) (unmarshal : String → Option (List String))
    (config : Config) : Worker :=
  ⟨primitives, config.retryConfig, unmarshal⟩

end RcProtocol.Webhooks
