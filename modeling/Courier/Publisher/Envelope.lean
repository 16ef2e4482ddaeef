import Courier.Encoding
import Courier.Trace.Span

/-!
# From messages to envelopes

An envelope is made of a message by encoding its body, adding the trace context to its headers and
choosing its time to live: its own, or else the default, where an empty one counts as none.
-/

namespace Courier.Publisher

/-- How a publisher makes envelopes. -/
structure Setup where
  encoding : Encoding
  telemetry : Trace.Telemetry
  defaultTtl : Option Duration
  /-- The text of the number that is given to the envelope of a given count. -/
  envelopeId : Nat → String

/-- A time to live, if it is not empty. -/
def effective (ttl : Option Duration) : Option Duration :=
  ttl.filter fun d => !d.isZero

/-- The time to live of a message. -/
def Setup.timeToLive (s : Setup) (own : Option Duration) : Option Duration :=
  (effective own).or (effective s.defaultTtl)

/-- The bytes of a body; a message without a body has none. -/
def Setup.encodeBody (s : Setup) : Option Json → Except BrokerError (Option (List UInt8))
  | some body => (s.encoding.encode body).map some
  | none => .ok none

/-- The envelope of a message, under the given number. -/
def Setup.envelope (s : Setup) (context : Trace.Context) (number : Nat) (m : Message) :
    Except BrokerError Envelope :=
  (s.encodeBody m.body).map fun body =>
    { id := s.envelopeId number
      destination := m.destination
      key := m.key
      kind := m.kind
      headers := s.telemetry.inject context (m.headers.getD Dict.empty)
      body := body
      contentType := s.encoding.contentType
      ttl := s.timeToLive m.ttl }

end Courier.Publisher
