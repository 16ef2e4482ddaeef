import Courier.Duration

/-!
# Instants

A point in time is the number of nanoseconds since the clock began. A clock counts fewer than
`2 ^ 63` seconds, so that not every duration can be added to an instant.
-/

namespace Courier

/-- A point in time, in nanoseconds since the clock began. -/
abbrev Instant := Nat

namespace Instant

/-- No clock comes to this instant. -/
def limit : Instant := (1 <<< 63) * Duration.nanosPerSecond

/-- The instant after a duration, if a clock can count it. -/
def add? (i : Instant) (d : Duration) : Option Instant :=
  if i + d.totalNanos < limit then some (i + d.totalNanos) else none

def after (i : Instant) (d : Duration) : Instant :=
  i + d.totalNanos

/-- The time from one instant to a later one. -/
def since (later earlier : Instant) : Duration :=
  Duration.ofNanos (later - earlier)

theorem eq_after_of_add? {i j : Instant} {d : Duration} (h : i.add? d = some j) :
    j = i.after d := by
  unfold add? at h
  split at h
  · exact (Option.some.inj h).symm
  · cases h

/-- What cannot be added to an instant cannot be added to a later one. -/
theorem add?_eq_none_of_le {i j : Instant} {d : Duration} (h : i.add? d = none) (hle : i ≤ j) :
    j.add? d = none := by
  have hover : ¬i + d.totalNanos < limit := by
    intro hlt
    rw [add?, if_pos hlt] at h
    cases h
  exact if_neg fun hlt => hover (Nat.lt_of_le_of_lt (Nat.add_le_add_right hle _) hlt)

end Instant

end Courier
