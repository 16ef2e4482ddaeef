import Courier.Settings.Value
import Courier.Subscriber.Options

/-!
# Settings of retries and of subscribers

Numbers of milliseconds and of attempts, and the backoffs and options that they stand for.
-/

namespace Courier.Settings

/-! ## §1 Retries -/

inductive RetryKind where
  | constant
  | exponential
deriving DecidableEq, Repr

def RetryKind.name : RetryKind → String
  | .constant => "constant"
  | .exponential => "exponential"

/-- How reconnecting is paced. -/
structure Retry where
  kind : RetryKind
  baseIntervalMs : Nat
  multiplier : Nat
  maxIntervalMs : Nat
deriving DecidableEq, Repr

namespace Retry

/-- Waits that grow by two seconds up to a minute. -/
def standard : Retry where
  kind := .exponential
  baseIntervalMs := 1000
  multiplier := 2
  maxIntervalMs := 60000

def ofVariables (environment : List (String × String)) : Except BrokerError Retry :=
  let values := load "retry" [] environment
  let fields : Except Refusal Retry := do
    let kind ← variantField values "kind" "RetryKind"
      [("constant", RetryKind.constant), ("exponential", RetryKind.exponential)] standard.kind
    let base ← unsignedField values "base_interval_ms" 64 standard.baseIntervalMs
    let multiplier ← unsignedField values "multiplier" 32 standard.multiplier
    let ceiling ← unsignedField values "max_interval_ms" 64 standard.maxIntervalMs
    return ⟨kind, base, multiplier, ceiling⟩
  fields.mapError Refusal.toBrokerError

/-- The backoff that the settings stand for; zeros make none. -/
def backoff (s : Retry) : Except BackoffError Backoff :=
  match s.kind with
  | .constant => Backoff.ofInterval (Duration.ofMillis s.baseIntervalMs)
  | .exponential => Backoff.ofGrowth (Duration.ofMillis s.baseIntervalMs) s.multiplier
      (Duration.ofMillis s.maxIntervalMs)

end Retry

/-! ## §2 Subscribers -/

/-- How deliveries are consumed. -/
structure Subscriber where
  prefetchCount : Nat
  maxTryNum : Int
  backoffMs : Nat
  staleTimeoutMs : Nat
  restartIntervalMs : Nat
deriving DecidableEq, Repr

namespace Subscriber

/-- Ten deliveries in flight, three attempts a second apart, sessions of at most five minutes of
silence and five seconds between them. -/
def standard : Settings.Subscriber where
  prefetchCount := 10
  maxTryNum := 3
  backoffMs := 1000
  staleTimeoutMs := 300000
  restartIntervalMs := 5000

def ofVariables (environment : List (String × String)) : Except BrokerError Settings.Subscriber :=
  let values := load "subscriber" [] environment
  let fields : Except Refusal Settings.Subscriber := do
    let prefetch ← unsignedField values "prefetch_count" 16 standard.prefetchCount
    let tries ← signedField values "max_try_num" standard.maxTryNum
    let backoff ← unsignedField values "backoff_ms" 64 standard.backoffMs
    let stale ← unsignedField values "stale_timeout_ms" 64 standard.staleTimeoutMs
    let restart ← unsignedField values "restart_interval_ms" 64 standard.restartIntervalMs
    return ⟨prefetch, tries, backoff, stale, restart⟩
  fields.mapError Refusal.toBrokerError

/-- The options that the settings stand for. The backoff is looked at before the attempts. -/
def options (s : Settings.Subscriber) : Except BrokerError Subscriber.Options :=
  match Backoff.ofInterval (Duration.ofMillis s.backoffMs) with
  | .error _ => .error (.settings "backoff must be non-zero")
  | .ok backoff =>
    match Subscriber.AttemptLimit.ofSetting s.maxTryNum with
    | .error e => .error e
    | .ok limit => .ok {
        prefetch := s.prefetchCount
        limit := limit
        backoff := backoff.policy
        staleTimeout := Duration.ofMillis s.staleTimeoutMs
        restartInterval := Duration.ofMillis s.restartIntervalMs }

end Subscriber

end Courier.Settings
