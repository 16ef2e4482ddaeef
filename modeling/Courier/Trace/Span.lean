import Courier.Trace.Context

/-!
# Spans

A span covers the processing of one delivery. Spans are made by a `Tracer`, which is nothing of this
library: it may answer a span that is started with any context, and it may record spans or not. A
`Telemetry` is a tracer and the propagator by which contexts travel.
-/

namespace Courier.Trace

/-- A span that was started: its name, the context that it was started under, and the context that
names it. -/
structure Span where
  name : String
  parent : Context
  context : Context
deriving DecidableEq, Repr

/-- What is recorded of a span. -/
inductive SpanRecord where
  /-- A span for the consumer of a delivery begins. -/
  | start (span : Span)
  /-- The handler failed. -/
  | failure (message : String)
  | succeeded
  | failed (description : String)
  | finish
deriving DecidableEq, Repr

/-- Whether spans are recorded, and the context of the span that is started under a name and a
parent as the one of a number, counted from one. -/
structure Tracer where
  recording : Bool
  start : (number : Nat) → (name : String) → (parent : Context) → Context

namespace Tracer

/-- Nothing is recorded, and no context names a span. -/
def silent : Tracer := ⟨false, fun _ _ _ => Context.none⟩

/-- Every span is recorded and sampled, and is named by its number. It continues the trace of its
parent, and without a parent it begins one with its own number. -/
def counting : Tracer where
  recording := true
  start := fun number _ parent =>
    { traceId := if parent.isValid then parent.traceId else BitVec.ofNat 128 number
      spanId := BitVec.ofNat 64 number
      flags := Propagator.sampledFlag
      state := State.empty
      remote := false }

end Tracer

/-- How contexts travel, and who makes spans. -/
structure Telemetry where
  propagator : Propagator
  tracer : Tracer

namespace Telemetry

/-- Nothing travels and nothing is recorded. -/
def off : Telemetry := ⟨Propagator.silent, Tracer.silent⟩

def inject (t : Telemetry) (c : Context) (headers : Dict String) : Dict String :=
  t.propagator.injectInto c headers

def extract (t : Telemetry) (headers : Dict String) : Context :=
  t.propagator.extractFrom headers

/-- Starts the span for the consumer of a delivery, as the one of a number, under the context that
the headers of the delivery hold. -/
def consumerSpan (t : Telemetry) (headers : Dict String) (name : String) (number : Nat) : Span :=
  let parent := t.extract headers
  ⟨name, parent, t.tracer.start number name parent⟩

def record (t : Telemetry) (r : SpanRecord) : List SpanRecord :=
  if t.tracer.recording then [r] else []

end Telemetry

end Courier.Trace
