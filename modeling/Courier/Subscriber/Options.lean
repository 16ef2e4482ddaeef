import Courier.Error
import Courier.Retry
import Courier.Text.Numeral

/-!
# Options of a subscriber

How many deliveries are in flight, how often a delivery is tried and how tries are paced, after how
much silence a session is given up, and how long to wait before the next one.
-/

namespace Courier.Subscriber

/-! ## §1 Limits on attempts -/

/-- How often a delivery is handed to the handler. -/
inductive AttemptLimit where
  | limited (most : Nat)
  | unlimited
deriving DecidableEq, Repr

namespace AttemptLimit

/-- The setting that stands for no limit. -/
def unlimitedSetting : Int := -1

/-- The limit that a setting stands for: a positive number that fits 32 bits, or no limit. -/
def ofSetting (n : Int) : Except BrokerError AttemptLimit :=
  if n = unlimitedSetting then .ok .unlimited
  else if 0 < n then
    if n < 1 <<< 32 then .ok (.limited n.toNat)
    else .error (.settings ("max attempts `" ++ Numeral.ofInt n ++ "` too large"))
  else
    .error (.settings ("max attempts must be positive or " ++ Numeral.ofInt unlimitedSetting
      ++ ", got `" ++ Numeral.ofInt n ++ "`"))

/-- Whether no attempt is left after the given number of them. -/
def isExhausted : AttemptLimit → (made : Nat) → Bool
  | .limited most, made => decide (most ≤ made)
  | .unlimited, _ => false

end AttemptLimit

/-! ## §2 Options -/

structure Options where
  prefetch : Nat
  limit : AttemptLimit
  backoff : Policy
  staleTimeout : Duration
  restartInterval : Duration

/-- Ten deliveries in flight, three attempts a second apart, sessions of at most five minutes of
silence and five seconds between them. -/
def Options.standard : Options where
  prefetch := 10
  limit := .limited 3
  backoff := fun _ => ⟨Duration.ofSeconds 1, false⟩
  staleTimeout := Duration.ofSeconds 300
  restartInterval := Duration.ofSeconds 5

end Courier.Subscriber
