/-!
# Durations

A span of time is a normalised pair of whole seconds and nanoseconds, and never longer than the
greatest such pair with fewer than `2 ^ 64` seconds. Multiplication works on the pair with a carry
and saturates. `totalNanos` is the view in which all of it is plain arithmetic:
`totalNanos_saturatingMul` says that the product is the exact one, capped.
-/

namespace Courier

/-- A span of time: whole seconds and the nanoseconds beyond them. -/
structure Duration where
  seconds : Nat
  nanos : Nat
  seconds_lt : seconds < 1 <<< 64 := by decide
  nanos_lt : nanos < 1000000000 := by decide
deriving DecidableEq, Repr

namespace Duration

/-! ## §1 Construction and views -/

abbrev nanosPerSecond : Nat := 1000000000

abbrev nanosPerMilli : Nat := 1000000

def zero : Duration where
  seconds := 0
  nanos := 0

/-- The longest span. -/
def max : Duration where
  seconds := (1 <<< 64) - 1
  nanos := 999999999

instance : Inhabited Duration := ⟨zero⟩

def totalNanos (d : Duration) : Nat :=
  nanosPerSecond * d.seconds + d.nanos

def totalMillis (d : Duration) : Nat :=
  d.totalNanos / nanosPerMilli

/-- The first whole millisecond that is not before the end of the span. -/
def ceilMillis (d : Duration) : Nat :=
  (d.totalNanos + (nanosPerMilli - 1)) / nanosPerMilli

/-- The span of `n` nanoseconds, or the longest one if `n` is out of range. -/
def ofNanos (n : Nat) : Duration :=
  if h : n / nanosPerSecond < 1 <<< 64 then
    ⟨n / nanosPerSecond, n % nanosPerSecond, h, Nat.mod_lt _ (by decide)⟩
  else
    max

/-- The span of `n` milliseconds, or the longest one if `n` is out of range. -/
def ofMillis (n : Nat) : Duration :=
  ofNanos (n * nanosPerMilli)

/-- The span of `n` seconds, or the longest one if `n` is out of range. -/
def ofSeconds (n : Nat) : Duration :=
  ofNanos (n * nanosPerSecond)

/-- The pair `seconds`, `nanos`, if it is normalised and in range. -/
def ofParts? (seconds nanos : Nat) : Option Duration :=
  if h : seconds < 1 <<< 64 ∧ nanos < nanosPerSecond then some ⟨seconds, nanos, h.1, h.2⟩ else none

/-- The empty span is the one of no seconds and no nanoseconds. -/
def isZero (d : Duration) : Bool :=
  d.seconds == 0 && d.nanos == 0

instance : LT Duration := ⟨fun a b => a.totalNanos < b.totalNanos⟩

instance : LE Duration := ⟨fun a b => a.totalNanos ≤ b.totalNanos⟩

instance (a b : Duration) : Decidable (a < b) :=
  inferInstanceAs (Decidable (a.totalNanos < b.totalNanos))

instance (a b : Duration) : Decidable (a ≤ b) :=
  inferInstanceAs (Decidable (a.totalNanos ≤ b.totalNanos))

/-! ## §2 Multiplication -/

/-- `d` taken `n` times, or the longest span if that is out of range. The nanoseconds are multiplied
first and the seconds they carry are added to the product of the seconds. -/
def saturatingMul (d : Duration) (n : Nat) : Duration :=
  let carried := d.nanos * n / nanosPerSecond
  if h : d.seconds * n + carried < 1 <<< 64 then
    ⟨d.seconds * n + carried, d.nanos * n % nanosPerSecond, h, Nat.mod_lt _ (by decide)⟩
  else
    max

/-! ## §3 Laws of the nanosecond view -/

theorem totalNanos_le_max (d : Duration) : d.totalNanos ≤ max.totalNanos := by
  have hs := d.seconds_lt
  have hn := d.nanos_lt
  simp only [totalNanos, max, nanosPerSecond]
  omega

theorem eq_of_totalNanos_eq {a b : Duration} (h : a.totalNanos = b.totalNanos) : a = b := by
  obtain ⟨s, n, hs, hn⟩ := a
  obtain ⟨s', n', hs', hn'⟩ := b
  simp only [totalNanos, nanosPerSecond] at h
  have h₁ : s = s' := by omega
  have h₂ : n = n' := by omega
  subst h₁ h₂
  rfl

/-- In range, the nanoseconds of `ofNanos n` are `n`; out of range they are the greatest. -/
theorem totalNanos_ofNanos (n : Nat) : (ofNanos n).totalNanos = min n max.totalNanos := by
  simp only [ofNanos]
  split
  · rename_i h
    have h' : n / 1000000000 < 1 <<< 64 := h
    simp only [totalNanos, max, nanosPerSecond]
    omega
  · rename_i h
    have h' : ¬n / 1000000000 < 1 <<< 64 := h
    simp only [totalNanos, max, nanosPerSecond]
    omega

/-- Only no milliseconds make the empty span. -/
theorem totalNanos_ofMillis_eq_zero_iff {n : Nat} : (ofMillis n).totalNanos = 0 ↔ n = 0 := by
  have hmax : 0 < max.totalNanos := by decide
  rw [ofMillis, totalNanos_ofNanos]
  simp only [nanosPerMilli]
  omega

/-- The product is the exact one, capped at the longest span. -/
theorem totalNanos_saturatingMul (d : Duration) (n : Nat) :
    (d.saturatingMul n).totalNanos = min (d.totalNanos * n) max.totalNanos := by
  have hexact : d.totalNanos * n = d.seconds * n * nanosPerSecond + d.nanos * n := by
    rw [totalNanos, Nat.add_mul, Nat.mul_comm nanosPerSecond, Nat.mul_right_comm]
  rw [hexact]
  generalize hp : d.seconds * n = p
  generalize hq : d.nanos * n = q
  simp only [saturatingMul, hp, hq]
  split
  · rename_i h
    have h' : p + q / 1000000000 < 1 <<< 64 := h
    simp only [totalNanos, max, nanosPerSecond]
    omega
  · rename_i h
    have h' : ¬p + q / 1000000000 < 1 <<< 64 := h
    simp only [totalNanos, max, nanosPerSecond]
    omega

theorem isZero_iff (d : Duration) : d.isZero = true ↔ d.totalNanos = 0 := by
  simp only [isZero, totalNanos, nanosPerSecond, Bool.and_eq_true, beq_iff_eq]
  omega

theorem isZero_eq_false {d : Duration} (h : d ≠ zero) : d.isZero = false := by
  rw [← Bool.not_eq_true, isZero_iff]
  intro hzero
  exact h (eq_of_totalNanos_eq hzero)

/-- The pair is the quotient and the remainder of its nanoseconds. -/
theorem parts_eq (d : Duration) :
    d.seconds = d.totalNanos / nanosPerSecond ∧ d.nanos = d.totalNanos % nanosPerSecond := by
  have hnanos := d.nanos_lt
  simp only [totalNanos, nanosPerSecond]
  omega

end Duration

end Courier
