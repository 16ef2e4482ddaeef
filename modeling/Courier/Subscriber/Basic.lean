import Courier.Instant
import Courier.Lock
import Courier.Log
import Courier.Message
import Courier.Subscriber.Options
import Courier.Trace.Span

/-!
# Subscribers

A subscriber listens to a destination in sessions, one after the other. In a session it takes one
delivery after the other from a source, hands each to the handler until that succeeds or no further
try is allowed, and settles it. A `Stage` says what a listening call waits for, an `Input` is what
comes, and a `Request` is what the call asks for next. The client of a broker behind a source, and
how it comes to an answer, is left out: whatever it does, the call sees the inputs only.
-/

namespace Courier

namespace Subscriber

universe u

/-! ## §1 Sources -/

/-- How another try is given to a delivery: within the session, with the attempts counted in memory,
or as a copy of the delivery, with the attempts counted in a header. -/
inductive Redelivery where
  | inPlace
  | republish
deriving DecidableEq, Repr

/-- What a subscriber listens to and how. -/
structure Setup where
  destination : String
  options : Options
  redelivery : Redelivery
  telemetry : Trace.Telemetry

/-- How a delivery is given back to the broker. -/
inductive Settlement where
  | ack
  | reject
  /-- It goes back as it is. -/
  | requeue
  /-- A copy is published in its place. -/
  | republish
deriving DecidableEq, Repr

/-! ## §2 Stages of listening -/

/-- A delivery that is not settled: the handle that settles it, the attempts made at it, the number
of its span, and the context that the handler is called in. -/
structure Job (η : Type u) where
  delivery : Delivery
  handle : η
  made : Nat
  span : Nat
  context : Trace.Context
deriving DecidableEq, Repr

/-- How a session ends. -/
inductive Ending where
  | restart
  | shutdown
deriving DecidableEq, Repr

/-- What a listening call waits for. -/
inductive Stage (η : Type u) where
  /-- For its turn to listen. -/
  | queued
  | opening
  /-- For a delivery; the session is stale at the deadline. -/
  | reading (since deadline : Instant)
  | handling (job : Job η)
  /-- For the time of the next try. -/
  | waiting (job : Job η) (until' : Instant)
  | settling (job : Job η) (settlement : Settlement)
  | leaving (ending : Ending)
  /-- For the time of the next session. -/
  | pausing (until' : Instant)
  | returned
  /-- The clock cannot count the deadline. -/
  | crashed
deriving DecidableEq, Repr

/-- What a listening call asks for. -/
inductive Request (η : Type u) where
  | openSource (prefetch : Nat)
  | read
  | handle (context : Trace.Context) (delivery : Delivery)
  | settle (settlement : Settlement) (handle : η) (delivery : Delivery)
  | sleep (wait : Duration)
  | closeSource
deriving DecidableEq, Repr

/-- What comes to a listening call. -/
inductive Input (η : Type u) where
  /-- Its turn has come. -/
  | turn
  | stop
  /-- The time that it waits for has come. -/
  | elapsed
  | opened (result : Except BrokerError Unit)
  /-- A delivery, the end of the stream, or a failure. -/
  | read (result : Except BrokerError (Option (Delivery × η)))
  | handled (result : Except HandlerError Unit)
  | settled (result : Except BrokerError Unit)
  | closed (result : Except BrokerError Unit)
deriving DecidableEq, Repr

/-- What a step shows to the outside. -/
inductive Event (η : Type u) where
  | asked (request : Request η)
  | logged (record : Log)
  | traced (span : Nat) (record : Trace.SpanRecord)
  | returned
deriving DecidableEq, Repr

end Subscriber

end Courier
