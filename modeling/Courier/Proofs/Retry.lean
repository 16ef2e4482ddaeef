import Courier.Retry

/-!
# Laws of policies

The number of an attempt is counted up to a greatest one. A wait that grows with the attempt is
above its ceiling exactly from the attempt on at which the ceiling is used up, although the wait
itself is capped at the longest span. `exponential_grows` says of every backoff that grows what it
answers to every attempt.
-/

namespace Courier

/-! ## §1 Counting attempts -/

/-- One try more leaves at least one. -/
theorem oneMoreAttempt_pos (made : Nat) : 0 < oneMoreAttempt made := by
  unfold oneMoreAttempt maxAttempts
  omega

/-- No more tries are counted than can be. -/
theorem oneMoreAttempt_le (made : Nat) : oneMoreAttempt made ≤ maxAttempts :=
  Nat.min_le_right _ _

/-- Below the greatest number that is counted, one try more is counted. -/
theorem oneMoreAttempt_of_lt {made : Nat} (h : oneMoreAttempt made < maxAttempts) :
    oneMoreAttempt made = made + 1 := by
  unfold oneMoreAttempt at h ⊢
  omega

/-- The attempts of a row are counted one by one, up to the greatest number. -/
theorem oneMoreAttempt_min (k : Nat) :
    oneMoreAttempt (min k maxAttempts) = min (k + 1) maxAttempts := by
  unfold oneMoreAttempt
  omega

/-! ## §2 Backoffs -/

theorem Duration.totalNanos_pos {d : Duration} (h : d.isZero = false) : 0 < d.totalNanos := by
  apply Nat.pos_of_ne_zero
  intro hzero
  rw [d.isZero_iff.mpr hzero] at h
  cases h

namespace Backoff

variable {base ceiling : Duration} {multiplier : Nat} {hb : base.isZero = false}
  {hm : multiplier ≠ 0} {hc : ceiling.isZero = false}

/-- The wait is the product of its three factors, capped once. -/
theorem totalNanos_wait_exponential (attempt : Nat) :
    ((exponential base multiplier ceiling hb hm hc).policy attempt).wait.totalNanos
      = min (base.totalNanos * attempt * multiplier) Duration.max.totalNanos := by
  simp only [policy, Duration.totalNanos_saturatingMul]
  generalize base.totalNanos * attempt = n
  generalize Duration.max.totalNanos = most
  rcases Nat.le_total n most with hle | hle
  · rw [Nat.min_eq_left hle]
  · -- what is capped before the second factor is capped after it
    have hmost : most ≤ most * multiplier := Nat.le_mul_of_pos_right _ (Nat.pos_of_ne_zero hm)
    have hn : most * multiplier ≤ n * multiplier := Nat.mul_le_mul_right _ hle
    rw [Nat.min_eq_right hle, Nat.min_eq_right hmost, Nat.min_eq_right (Nat.le_trans hmost hn)]

/-- A ceiling below the longest span stops exactly the attempts after the last one whose wait fits
under it. -/
theorem stop_exponential_iff (hceiling : ceiling < Duration.max) (attempt : Nat) :
    ((exponential base multiplier ceiling hb hm hc).policy attempt).stop = true ↔
      ceiling.totalNanos / (base.totalNanos * multiplier) < attempt := by
  have hlt : ceiling.totalNanos < Duration.max.totalNanos := hceiling
  have hunit : 0 < base.totalNanos * multiplier :=
    Nat.mul_pos (Duration.totalNanos_pos hb) (Nat.pos_of_ne_zero hm)
  have hwait := @totalNanos_wait_exponential base ceiling multiplier hb hm hc attempt
  have hstop : ((exponential base multiplier ceiling hb hm hc).policy attempt).stop = true ↔
      ceiling.totalNanos < ((exponential base multiplier ceiling hb hm hc).policy
        attempt).wait.totalNanos := decide_eq_true_iff
  rw [hstop, hwait, Nat.div_lt_iff_lt_mul hunit, Nat.mul_left_comm, ← Nat.mul_assoc, Nat.lt_min]
  exact and_iff_left hlt

/-- Without a wait is the first attempt, and no other one. -/
theorem wait_exponential_eq_zero_iff (attempt : Nat) :
    ((exponential base multiplier ceiling hb hm hc).policy attempt).wait = Duration.zero ↔
      attempt = 0 := by
  have hwait := @totalNanos_wait_exponential base ceiling multiplier hb hm hc attempt
  constructor
  · intro hzero
    have hproduct : base.totalNanos * attempt * multiplier = 0 := by
      rw [hzero] at hwait
      have hmax : 0 < Duration.max.totalNanos := by decide
      have hnone : Duration.zero.totalNanos = 0 := rfl
      omega
    -- the other two factors are not zero
    have hbase : base.totalNanos ≠ 0 := Nat.ne_of_gt (Duration.totalNanos_pos hb)
    rcases Nat.mul_eq_zero.mp hproduct with hfirst | hmultiplier
    · exact (Nat.mul_eq_zero.mp hfirst).resolve_left hbase
    · exact absurd hmultiplier hm
  · rintro rfl
    apply Duration.eq_of_totalNanos_eq
    rw [hwait, Nat.mul_zero, Nat.zero_mul]
    exact Nat.zero_min _

/-- Later attempts do not wait less. -/
theorem wait_exponential_le {earlier later : Nat} (h : earlier ≤ later) :
    ((exponential base multiplier ceiling hb hm hc).policy earlier).wait ≤
      ((exponential base multiplier ceiling hb hm hc).policy later).wait := by
  have hproduct : base.totalNanos * earlier * multiplier ≤ base.totalNanos * later * multiplier :=
    Nat.mul_le_mul_right _ (Nat.mul_le_mul_left _ h)
  show Duration.totalNanos _ ≤ Duration.totalNanos _
  rw [totalNanos_wait_exponential, totalNanos_wait_exponential]
  omega

theorem stop_exponential_iff_lt (attempt : Nat) :
    ((exponential base multiplier ceiling hb hm hc).policy attempt).stop = true ↔
      ceiling < ((exponential base multiplier ceiling hb hm hc).policy attempt).wait :=
  decide_eq_true_iff

/-- After a stop, every later attempt stops, too. -/
theorem stop_exponential_of_le {earlier later : Nat} (h : earlier ≤ later)
    (hstop : ((exponential base multiplier ceiling hb hm hc).policy earlier).stop = true) :
    ((exponential base multiplier ceiling hb hm hc).policy later).stop = true := by
  rw [stop_exponential_iff_lt] at hstop ⊢
  exact Nat.lt_of_lt_of_le hstop (wait_exponential_le h)

end Backoff

/-! ## §3 Waits that grow -/

/-- The nanoseconds of the exact product of base, attempt and multiplier, capped once. -/
def cappedNanos (base : Duration) (multiplier attempt : Nat) : Nat :=
  min (base.totalNanos * attempt * multiplier) Duration.max.totalNanos

/-- What a policy whose waits grow up to a ceiling answers to every attempt. -/
structure Grows (base : Duration) (multiplier : Nat) (ceiling : Duration) (p : Policy) : Prop where
  wait : ∀ attempt, (p attempt).wait.totalNanos = cappedNanos base multiplier attempt
  /-- The wait is a pair of whole seconds and of the nanoseconds that are left. -/
  parts : ∀ attempt,
    (p attempt).wait.seconds = cappedNanos base multiplier attempt / Duration.nanosPerSecond ∧
      (p attempt).wait.nanos = cappedNanos base multiplier attempt % Duration.nanosPerSecond
  stop : ∀ attempt, (p attempt).stop = true ↔ ceiling < (p attempt).wait
  /-- The first attempt does not wait, and every other one does. -/
  noWait : ∀ attempt, (p attempt).wait = Duration.zero ↔ attempt = 0
  rises : ∀ {earlier later}, earlier ≤ later → (p earlier).wait ≤ (p later).wait
  /-- Once it says stop, it says so for ever. -/
  stays : ∀ {earlier later}, earlier ≤ later → (p earlier).stop = true → (p later).stop = true
  /-- The first attempt that stops is the one after the last whose wait fits under the ceiling. -/
  first : ceiling < Duration.max → ∀ attempt, (p attempt).stop = true ↔
    ceiling.totalNanos / (base.totalNanos * multiplier) + 1 ≤ attempt
  /-- No wait is above the longest span. -/
  never : ceiling = Duration.max → ∀ attempt, (p attempt).stop = false

/-- A base, a multiplier and a ceiling that are not zero make a backoff. Its waits are the exact
products, capped at the longest span, and it stops exactly when they are above the ceiling. -/
theorem exponential_grows {base ceiling : Duration} {multiplier : Nat}
    (hbase : base ≠ Duration.zero) (hmultiplier : 1 ≤ multiplier)
    (hceiling : ceiling ≠ Duration.zero) :
    ∃ b, Backoff.ofGrowth base multiplier ceiling = .ok b ∧
      Grows base multiplier ceiling b.policy := by
  have hb := Duration.isZero_eq_false hbase
  have hm := Nat.ne_of_gt hmultiplier
  have hc := Duration.isZero_eq_false hceiling
  refine ⟨.exponential base multiplier ceiling hb hm hc, ?_, ?_⟩
  · rw [Backoff.ofGrowth, dif_pos hb, dif_pos hm, dif_pos hc]
  · constructor
    case wait => exact Backoff.totalNanos_wait_exponential
    case parts =>
      intro attempt
      rw [cappedNanos, ← @Backoff.totalNanos_wait_exponential base ceiling multiplier hb hm hc]
      exact Duration.parts_eq _
    case stop => exact Backoff.stop_exponential_iff_lt
    case noWait => exact Backoff.wait_exponential_eq_zero_iff
    case rises => exact Backoff.wait_exponential_le
    case stays => exact Backoff.stop_exponential_of_le
    case first => exact Backoff.stop_exponential_iff
    case never =>
      rintro rfl attempt
      rw [← Bool.not_eq_true, Backoff.stop_exponential_iff_lt]
      exact Nat.not_lt_of_le (Duration.totalNanos_le_max _)

/-- An eighth of what seconds can be counted. -/
def longBase : Duration := Duration.ofSeconds (1 <<< 61)

/-- A nanosecond less than the longest span. -/
def nearlyMax : Duration := Duration.ofNanos (Duration.max.totalNanos - 1)

/-- The fourth wait is out of range. It is capped at the longest span, which is above a ceiling that
is a nanosecond shorter. -/
theorem exponential_grows_to_max : ∃ b, Backoff.ofGrowth longBase 2 nearlyMax = .ok b ∧
    (b.policy 3).stop = false ∧ b.policy 4 = ⟨Duration.max, true⟩ := by
  obtain ⟨b, hb, hgrows⟩ := exponential_grows (by decide : longBase ≠ Duration.zero)
    (by decide : 1 ≤ 2) (by decide : nearlyMax ≠ Duration.zero)
  have hbelow : nearlyMax < Duration.max := by decide
  have hwait : (b.policy 4).wait = Duration.max := by
    apply Duration.eq_of_totalNanos_eq
    rw [hgrows.wait]
    decide
  have hstop : (b.policy 4).stop = true := (hgrows.first hbelow 4).mpr (by decide)
  have hgoesOn : (b.policy 3).stop = false := by
    rw [← Bool.not_eq_true, hgrows.first hbelow]
    decide
  refine ⟨b, hb, hgoesOn, ?_⟩
  rw [← hwait, ← hstop]

end Courier
