import Mathlib
import Courier.Amqp.Properties
import Courier.Proofs.Publisher.Envelope
import Courier.Proofs.Text.Numeral

/-!
# How long a published message lives

The broker is told the time to live in force in whole milliseconds, and what is beyond them is cut
off. A span that is not empty, but shorter than a millisecond, becomes none of them, and then the
broker drops a message that it cannot deliver at once. `expires_as_set_iff` says that these spans,
and no others, do not become what they were set to.
-/

namespace Courier.Amqp

open Publisher (CountsAsNone InForce)

/-- Whether a number of milliseconds is less than one of them away from a span. -/
def IsCloseTo (millis : Nat) (d : Duration) : Prop :=
  d.totalNanos < (millis + 1) * Duration.nanosPerMilli ∧
    millis * Duration.nanosPerMilli < d.totalNanos + Duration.nanosPerMilli

/-- Whether a message expires as its own and the standard time to live say. -/
structure ExpiresAsSet (own standard : Option Duration) (expiration : Option String) : Prop where
  /-- Only a message that has no time to live, or an empty one, lives for ever. -/
  none_iff : expiration = none ↔ CountsAsNone own ∧ CountsAsNone standard
  /-- Any other one lives for the time in force, and not for none. -/
  positive : ∀ text, expiration = some text → ∃ ttl millis, InForce own standard (some ttl) ∧
    IsCloseTo millis ttl ∧ 0 < millis ∧ text = Numeral.ofNat millis

theorem isCloseTo_totalMillis (d : Duration) : IsCloseTo d.totalMillis d := by
  simp only [IsCloseTo, Duration.totalMillis, Duration.nanosPerMilli]
  omega

theorem totalMillis_pos_iff {d : Duration} :
    0 < d.totalMillis ↔ Duration.nanosPerMilli ≤ d.totalNanos := by
  simp only [Duration.totalMillis, Duration.nanosPerMilli]
  omega

theorem ofNat_totalMillis_eq_zero_iff {d : Duration} :
    Numeral.ofNat d.totalMillis = "0" ↔ d.totalNanos < Duration.nanosPerMilli := by
  have hzero : Numeral.ofNat 0 = "0" := by decide
  rw [← hzero, ← Nat.not_le, ← totalMillis_pos_iff, Nat.not_lt, Nat.le_zero]
  exact ⟨Numeral.ofNat_injective, congrArg Numeral.ofNat⟩

section InForce

variable {own standard ttl : Option Duration}

/-- There is a time to live in force exactly if one of the two does not count as none. -/
theorem eq_none_iff_of_inForce (h : InForce own standard ttl) :
    ttl = none ↔ CountsAsNone own ∧ CountsAsNone standard := by
  cases h with
  | own hown hne => exact iff_of_false nofun fun hnone => hne (hnone.1 _ hown)
  | standard _ hstandard hne => exact iff_of_false nofun fun hnone => hne (hnone.2 _ hstandard)
  | none hown hstandard => exact iff_of_true rfl ⟨hown, hstandard⟩

/-- What is told of the time in force is as it was set if it is a millisecond at least. -/
theorem expiresAsSet_totalMillis_iff (h : InForce own standard ttl) :
    ExpiresAsSet own standard (ttl.map fun d => Numeral.ofNat d.totalMillis) ↔
      ∀ d, ttl = some d → Duration.nanosPerMilli ≤ d.totalNanos := by
  constructor
  · rintro hset d rfl
    obtain ⟨-, millis, -, -, hpos, htext⟩ := hset.positive _ rfl
    rw [← totalMillis_pos_iff, Numeral.ofNat_injective htext]
    exact hpos
  · intro hlong
    constructor
    case none_iff => rw [Option.map_eq_none_iff, eq_none_iff_of_inForce h]
    case positive =>
      intro text htext
      obtain ⟨d, rfl, rfl⟩ := Option.map_eq_some_iff.mp htext
      exact ⟨d, d.totalMillis, h, isCloseTo_totalMillis d, totalMillis_pos_iff.mpr (hlong d rfl),
        rfl⟩

end InForce

/-- A message whose body can be encoded makes an envelope, whose expiration is the time to live in
force in whole milliseconds, rounded down. It is as it was set exactly if this time is a millisecond
at least: a shorter one is announced as zero. -/
theorem expires_as_set_iff (s : Publisher.Setup) {m : Message} {body : Option (List UInt8)}
    (hbody : s.encodeBody m.body = .ok body) (context : Trace.Context) (number : Nat) :
    ∃ e ttl, s.envelope context number m = .ok e ∧ InForce m.ttl s.defaultTtl ttl ∧
      (Properties.ofEnvelope e).expiration = ttl.map (fun d => Numeral.ofNat d.totalMillis) ∧
      (ExpiresAsSet m.ttl s.defaultTtl (Properties.ofEnvelope e).expiration ↔
        ∀ d, ttl = some d → Duration.nanosPerMilli ≤ d.totalNanos) ∧
      ((Properties.ofEnvelope e).expiration = some "0" ↔
        ∃ d, ttl = some d ∧ d.totalNanos < Duration.nanosPerMilli) := by
  have hforce : InForce m.ttl s.defaultTtl (s.timeToLive m.ttl) :=
    Publisher.timeToLive_eq_iff.mp rfl
  rw [Publisher.Setup.envelope, hbody]
  refine ⟨_, _, rfl, hforce, rfl, expiresAsSet_totalMillis_iff hforce, ?_⟩
  show (s.timeToLive m.ttl).map (fun d => Numeral.ofNat d.totalMillis) = some "0" ↔ _
  rw [Option.map_eq_some_iff]
  exact exists_congr fun d => and_congr_right fun _ => ofNat_totalMillis_eq_zero_iff

/-- A nanosecond less than two milliseconds. -/
def nearlyTwoMillis : Duration := Duration.ofNanos 1999999

/-- A nanosecond less than one millisecond. -/
def nearlyOneMilli : Duration := Duration.ofNanos 999999

/-- JSON bodies, and a standard time to live. -/
def expiringSetup : Publisher.Setup where
  encoding := Encoding.json
  telemetry := Trace.Telemetry.off
  defaultTtl := some nearlyTwoMillis
  envelopeId := Numeral.ofNat

/-- A message whose own time to live is empty. -/
def emptyTtlMessage : Message :=
  { Message.new "orders" with ttl := some Duration.zero }

/-- A message whose own time to live is empty lives as long as the standard one says. -/
theorem expires_as_set_of_emptyTtl : ∃ e,
    expiringSetup.envelope Trace.Context.none 1 emptyTtlMessage = .ok e ∧
      ExpiresAsSet (some Duration.zero) (some nearlyTwoMillis) (Properties.ofEnvelope e).expiration ∧
      (Properties.ofEnvelope e).expiration = some "1" := by
  obtain ⟨e, ttl, he, hforce, hexpiration, hset, -⟩ := expires_as_set_iff expiringSetup
    (rfl : expiringSetup.encodeBody emptyTtlMessage.body = .ok none) Trace.Context.none 1
  obtain rfl := Publisher.timeToLive_eq_iff.mpr hforce
  refine ⟨e, he, hset.mpr ?_, hexpiration⟩
  rintro d hd
  obtain rfl := Option.some.inj hd
  decide

/-- A time to live of less than a millisecond does not become what it was set to. -/
theorem not_expires_as_set : ¬∀ (s : Publisher.Setup) (context : Trace.Context) (number : Nat)
    (m : Message) (e : Envelope), s.envelope context number m = .ok e →
      ExpiresAsSet m.ttl s.defaultTtl (Properties.ofEnvelope e).expiration := by
  intro h
  have hset := h expiringSetup Trace.Context.none 1
    { Message.new "orders" with ttl := some nearlyOneMilli } _ rfl
  -- its own time is in force, and it is announced as zero
  have hforce : InForce (some nearlyOneMilli) (some nearlyTwoMillis) (some nearlyOneMilli) :=
    .own rfl (by decide)
  exact absurd ((expiresAsSet_totalMillis_iff hforce).mp hset _ rfl) (by decide)

end Courier.Amqp
