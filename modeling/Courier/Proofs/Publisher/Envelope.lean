import Mathlib
import Courier.Proofs.Trace.Carrier
import Courier.Publisher.Envelope

/-!
# What is in an envelope

An envelope has the destination, the key and the kind of its message, and its body is the encoded
one. The pairs of the trace context are set over the headers of the message and leave all other
headers as they are (`Overlays`), and of two times to live the one in force is taken (`InForce`).
`envelope_of_message` says that this is all there is to an envelope, and that nothing but an encoder
that fails on the body stands in its way.
-/

namespace Courier.Publisher

/-! ## §1 Headers over headers -/

/-- Headers with pairs set over them, one after the other, under the small forms of their keys. -/
structure Overlays (below : Headers) (pairs : List (String × String)) (above : Headers) :
    Prop where
  /-- Of the pairs whose keys have one small form, the last one is found under this form. -/
  last : ∀ {key value}, Trace.LastSet key value pairs →
    above.get? (Text.lowercase key) = some value
  /-- A key that is the small form of none of them has the value that it had, or still none. -/
  kept : ∀ {key}, (∀ p ∈ pairs, Text.lowercase p.1 ≠ key) → above.get? key = below.get? key

theorem overlays_setPairs (below : Headers) (pairs : List (String × String)) :
    Overlays below pairs (Trace.setPairs below pairs) where
  last := fun hlast => hlast.get?_setPairs below
  kept := fun hother => Trace.get?_setPairs_of_forall_ne below hother

/-- What is found under every key makes up the headers. -/
theorem Overlays.unique {below above above' : Headers} {pairs : List (String × String)}
    (h : Overlays below pairs above) (h' : Overlays below pairs above') : above = above' := by
  apply Dict.ext_get?
  intro key
  by_cases hset : ∃ p ∈ pairs, Text.lowercase p.1 = key
  · obtain ⟨p, hmem, rfl⟩ := hset
    obtain ⟨value, hlast⟩ := Trace.exists_lastSet ⟨p, hmem, rfl⟩
    rw [h.last hlast, h'.last hlast]
  · have hother : ∀ p ∈ pairs, Text.lowercase p.1 ≠ key := by
      intro p hmem heq
      exact hset ⟨p, hmem, heq⟩
    rw [h.kept hother, h'.kept hother]

/-! ## §2 Times to live -/

/-- Whether there is no time to live, or an empty one. -/
def CountsAsNone (ttl : Option Duration) : Prop :=
  ∀ d, ttl = some d → d = Duration.zero

/-- The time to live that a message goes out with: its own one, or the standard one if its own
counts as none, or none at all if both of them do. -/
inductive InForce (own standard : Option Duration) : Option Duration → Prop where
  | own {ttl : Duration} (hown : own = some ttl) (hne : ttl ≠ Duration.zero) :
      InForce own standard (some ttl)
  | standard {ttl : Duration} (hown : CountsAsNone own) (hstandard : standard = some ttl)
      (hne : ttl ≠ Duration.zero) : InForce own standard (some ttl)
  | none (hown : CountsAsNone own) (hstandard : CountsAsNone standard) :
      InForce own standard none

theorem countsAsNone_or (ttl : Option Duration) :
    CountsAsNone ttl ∨ ∃ d, ttl = some d ∧ d ≠ Duration.zero := by
  cases ttl with
  | none => exact .inl nofun
  | some d =>
    by_cases hzero : d = Duration.zero
    · exact .inl fun _ heq => (Option.some.inj heq).symm.trans hzero
    · exact .inr ⟨d, rfl, hzero⟩

theorem effective_of_ne {ttl : Duration} (h : ttl ≠ Duration.zero) :
    effective (some ttl) = some ttl := by
  simp [effective, Duration.isZero_eq_false h]

theorem CountsAsNone.effective {ttl : Option Duration} (h : CountsAsNone ttl) :
    effective ttl = none := by
  cases ttl with
  | none => rfl
  | some d =>
    obtain rfl := h d rfl
    rfl

/-- The time to live that is chosen is the one in force, and there is no other one. -/
theorem timeToLive_eq_iff {s : Setup} {own ttl : Option Duration} :
    s.timeToLive own = ttl ↔ InForce own s.defaultTtl ttl := by
  constructor
  · rintro rfl
    unfold Setup.timeToLive
    rcases countsAsNone_or own with hown | ⟨d, hown, hne⟩
    · rw [hown.effective, Option.none_or]
      rcases countsAsNone_or s.defaultTtl with hstandard | ⟨d, hstandard, hne⟩
      · rw [hstandard.effective]
        exact .none hown hstandard
      · rw [hstandard, effective_of_ne hne]
        exact .standard hown rfl hne
    · rw [hown, effective_of_ne hne, Option.some_or]
      exact .own rfl hne
  · intro h
    unfold Setup.timeToLive
    cases h with
    | own hown hne => rw [hown, effective_of_ne hne, Option.some_or]
    | standard hown hstandard hne =>
      rw [hown.effective, hstandard, effective_of_ne hne, Option.none_or]
    | none hown hstandard => rw [hown.effective, hstandard.effective, Option.none_or]

/-! ## §3 Bodies -/

/-- The bytes of a body are what the encoder makes of it; without a body there are none. -/
inductive Encodes (encoding : Encoding) : Option Json → Option (List UInt8) → Prop where
  | none : Encodes encoding none none
  | some {body : Json} {bytes : List UInt8} (h : encoding.encode body = .ok bytes) :
      Encodes encoding (some body) (some bytes)

theorem encodeBody_eq_ok_iff {s : Setup} {body : Option Json} {bytes : Option (List UInt8)} :
    s.encodeBody body = .ok bytes ↔ Encodes s.encoding body bytes := by
  constructor
  · intro h
    cases body with
    | none =>
      cases h
      exact .none
    | some body =>
      rw [Setup.encodeBody] at h
      cases hencode : s.encoding.encode body with
      | error err =>
        rw [hencode] at h
        cases h
      | ok bytes =>
        rw [hencode] at h
        cases h
        exact .some hencode
  · intro h
    cases h with
    | none => rfl
    | some h =>
      rw [Setup.encodeBody, h]
      rfl

theorem encodeBody_eq_error_iff {s : Setup} {body : Option Json} {err : BrokerError} :
    s.encodeBody body = .error err ↔
      ∃ b, body = some b ∧ s.encoding.encode b = .error err := by
  constructor
  · intro h
    cases body with
    | none => cases h
    | some body =>
      rw [Setup.encodeBody] at h
      cases hencode : s.encoding.encode body with
      | error err' =>
        rw [hencode] at h
        cases h
        exact ⟨body, rfl, hencode⟩
      | ok bytes =>
        rw [hencode] at h
        cases h
  · rintro ⟨b, rfl, h⟩
    rw [Setup.encodeBody, h]
    rfl

/-! ## §4 Envelopes -/

/-- What the envelope of a message holds. -/
structure Wraps (s : Setup) (context : Trace.Context) (number : Nat) (m : Message)
    (e : Envelope) : Prop where
  destination : e.destination = m.destination
  key : e.key = m.key
  kind : e.kind = m.kind
  body : Encodes s.encoding m.body e.body
  /-- A message without headers has none that the pairs are set over. -/
  headers : Overlays (m.headers.getD Dict.empty) (s.telemetry.propagator.inject context) e.headers
  ttl : InForce m.ttl s.defaultTtl e.ttl
  contentType : e.contentType = s.encoding.contentType
  id : e.id = s.envelopeId number

/-- An envelope is made of a message exactly if it holds what it should. -/
theorem envelope_eq_ok_iff {s : Setup} {context : Trace.Context} {number : Nat} {m : Message}
    {e : Envelope} : s.envelope context number m = .ok e ↔ Wraps s context number m e := by
  constructor
  · intro h
    rw [Setup.envelope] at h
    cases hbody : s.encodeBody m.body with
    | error err =>
      rw [hbody] at h
      cases h
    | ok body =>
      rw [hbody] at h
      cases h
      exact {
        destination := rfl
        key := rfl
        kind := rfl
        body := encodeBody_eq_ok_iff.mp hbody
        headers := overlays_setPairs _ _
        ttl := timeToLive_eq_iff.mp rfl
        contentType := rfl
        id := rfl }
  · intro h
    rw [Setup.envelope, encodeBody_eq_ok_iff.mpr h.body]
    have hheaders : s.telemetry.inject context (m.headers.getD Dict.empty) = e.headers :=
      (overlays_setPairs _ _).unique h.headers
    obtain ⟨id, destination, key, kind, headers, body, contentType, ttl⟩ := e
    obtain ⟨rfl, rfl, rfl, -, -, httl, rfl, rfl⟩ := h
    rw [Except.map, hheaders, timeToLive_eq_iff.mpr httl]

theorem envelope_eq_error_iff {s : Setup} {context : Trace.Context} {number : Nat} {m : Message}
    {err : BrokerError} : s.envelope context number m = .error err ↔
      ∃ body, m.body = some body ∧ s.encoding.encode body = .error err := by
  rw [← encodeBody_eq_error_iff, Setup.envelope]
  cases s.encodeBody m.body with
  | error err' => rw [Except.map, Except.error.injEq, Except.error.injEq]
  | ok body => exact iff_of_false nofun nofun

/-- The same publisher with another encoder. -/
def Setup.withEncoder (s : Setup) (encode : Json → Except BrokerError (List UInt8)) : Setup :=
  { s with encoding := { s.encoding with encode := encode } }

/-- Nothing but the body is encoded, and nothing at all of a message without one. -/
theorem envelope_withEncoder {s : Setup} {encode : Json → Except BrokerError (List UInt8)}
    {m : Message} (h : ∀ body, m.body = some body → encode body = s.encoding.encode body)
    (context : Trace.Context) (number : Nat) :
    (s.withEncoder encode).envelope context number m = s.envelope context number m := by
  have hbody : (s.withEncoder encode).encodeBody m.body = s.encodeBody m.body := by
    cases hm : m.body with
    | none => rfl
    | some body =>
      rw [Setup.encodeBody, Setup.encodeBody, ← h body hm]
      rfl
  rw [Setup.envelope, hbody]
  rfl

/-- Making an envelope fails with the error of the encoder, which needs a body to fail on, and gives
the one envelope that holds what it should otherwise. The encoder is asked for the body only. The
message is left as it is: the envelope that is made of it again differs in its number only. -/
theorem envelope_of_message (s : Setup) (context : Trace.Context) (number : Nat) (m : Message) :
    (∀ err, s.envelope context number m = .error err ↔
      ∃ body, m.body = some body ∧ s.encoding.encode body = .error err) ∧
    (∀ e, s.envelope context number m = .ok e ↔ Wraps s context number m e) ∧
    (∀ encode, (∀ body, m.body = some body → encode body = s.encoding.encode body) →
      (s.withEncoder encode).envelope context number m = s.envelope context number m) ∧
    ∀ again, s.envelope context again m =
      (s.envelope context number m).map fun e => { e with id := s.envelopeId again } := by
  refine ⟨fun _ => envelope_eq_error_iff, fun _ => envelope_eq_ok_iff,
    fun _ h => envelope_withEncoder h context number, fun again => ?_⟩
  rw [Setup.envelope, Setup.envelope]
  cases s.encodeBody m.body with
  | error err => rfl
  | ok body => rfl

/-- JSON bodies, and three pairs that are set whatever the context is, two of them under keys with one
small form. -/
def mixedSetup : Setup where
  encoding := Encoding.json
  telemetry := ⟨Trace.Propagator.fixed Trace.mixedPairs, .silent⟩
  defaultTtl := none
  envelopeId := Numeral.ofNat

/-- A message without a body, one of whose headers has a key with capitals. -/
def taggedMessage : Message :=
  ((Message.new "orders").setHeader "TraceParent" "own").setHeader "tracestate" "old"

/-- Of two pairs the last one is found, while the key with capitals keeps its value. Any encoder does
for a message without a body. -/
theorem envelope_of_taggedMessage : ∃ e,
    mixedSetup.envelope Trace.Context.none 7 taggedMessage = .ok e ∧
      e.headers.get? "traceparent" = some "second" ∧
      e.headers.get? "tracestate" = some "vendor=1" ∧
      e.headers.get? "TraceParent" = some "own" ∧
      ∀ encode, (mixedSetup.withEncoder encode).envelope Trace.Context.none 7 taggedMessage
        = .ok e := by
  obtain ⟨-, hok, hencoder, -⟩ :=
    envelope_of_message mixedSetup Trace.Context.none 7 taggedMessage
  obtain ⟨e, he⟩ : ∃ e, mixedSetup.envelope Trace.Context.none 7 taggedMessage = .ok e := ⟨_, rfl⟩
  have hoverlays := ((hok e).mp he).headers
  have hparent : Text.lowercase "traceparent" = "traceparent" := by cbv
  have hmixed : Text.lowercase "TraceParent" = "traceparent" := by cbv
  have hstate : Text.lowercase "tracestate" = "tracestate" := by cbv
  have hsecond : Trace.LastSet "traceparent" "second" Trace.mixedPairs :=
    .earlier (.earlier (.last (hmixed.trans hparent.symm) (List.forall_mem_nil _)))
  have hvendor : Trace.LastSet "tracestate" "vendor=1" Trace.mixedPairs := by
    refine .earlier (.last rfl ?_)
    rw [List.forall_mem_singleton, hmixed, hstate]
    decide
  have hother : ∀ p ∈ Trace.mixedPairs, Text.lowercase p.1 ≠ "TraceParent" := by
    rw [Trace.mixedPairs, List.forall_mem_cons, List.forall_mem_cons, List.forall_mem_singleton,
      hparent, hstate, hmixed]
    decide
  refine ⟨e, he, ?_, ?_, ?_, fun encode => ?_⟩
  · rw [← hparent]
    exact hoverlays.last hsecond
  · rw [← hstate]
    exact hoverlays.last hvendor
  · exact hoverlays.kept hother
  · have hnone : ∀ body, taggedMessage.body = some body →
        encode body = mixedSetup.encoding.encode body := by
      intro body hbody
      cases hbody
    rw [hencoder encode hnone, he]

end Courier.Publisher
