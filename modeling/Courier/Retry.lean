import Courier.Duration

/-!
# Pacing repeated attempts

A policy maps the number of an attempt, counted from zero, to how long to wait before the next one
and whether to give up. A `Backoff` is a policy given by numbers: a constant wait, or a wait that
grows with the attempt up to a ceiling. Backoffs made of zeros are refused when they are built.
-/

namespace Courier

/-! ## §1 Policies -/

/-- What a policy says about an attempt. -/
structure Verdict where
  wait : Duration
  stop : Bool
deriving DecidableEq, Repr

/-- What to do after the attempt of a given number, counted from zero. -/
abbrev Policy := Nat → Verdict

/-- The greatest number of attempts that is counted. -/
def maxAttempts : Nat := (1 <<< 32) - 1

/-- The number of attempts after one more; it stays at the greatest that is counted. -/
def oneMoreAttempt (made : Nat) : Nat := min (made + 1) maxAttempts

/-! ## §2 Backoffs -/

/-- A policy given by numbers, none of which is zero. -/
inductive Backoff where
  | constant (interval : Duration) (interval_ne : interval.isZero = false)
  | exponential (base : Duration) (multiplier : Nat) (ceiling : Duration)
      (base_ne : base.isZero = false) (multiplier_ne : multiplier ≠ 0)
      (ceiling_ne : ceiling.isZero = false)

inductive BackoffError where
  | zeroInterval
  | zeroBase
  | zeroMultiplier
  | zeroCeiling
deriving DecidableEq, Repr

def BackoffError.message : BackoffError → String
  | .zeroInterval => "constant retry interval must be non-zero"
  | .zeroBase => "exponential retry base interval must be non-zero"
  | .zeroMultiplier => "exponential retry multiplier must be non-zero"
  | .zeroCeiling => "exponential retry max interval must be non-zero"

namespace Backoff

/-- The same wait after every attempt, for ever. -/
def ofInterval (interval : Duration) : Except BackoffError Backoff :=
  if h : interval.isZero = false then .ok (.constant interval h) else .error .zeroInterval

/-- A wait of `base` times the number of the attempt times `multiplier`, until it is above the
ceiling. -/
def ofGrowth (base : Duration) (multiplier : Nat) (ceiling : Duration) :
    Except BackoffError Backoff :=
  if hb : base.isZero = false then
    if hm : multiplier ≠ 0 then
      if hc : ceiling.isZero = false then .ok (.exponential base multiplier ceiling hb hm hc)
      else .error .zeroCeiling
    else .error .zeroMultiplier
  else .error .zeroBase

def policy : Backoff → Policy
  | .constant interval _, _ => ⟨interval, false⟩
  | .exponential base multiplier ceiling _ _ _, attempt =>
    let wait := (base.saturatingMul attempt).saturatingMul multiplier
    ⟨wait, decide (ceiling < wait)⟩

end Backoff

end Courier
