import Courier.Subscriber.Basic

/-!
# Steps of listening

`listen` says what a listening call does with an input at an instant: the stage it comes to and what
it shows on the way. An input that the call does not wait for, or that must give way to another one,
leads nowhere: while a delivery is awaited the end is looked for first, then the deadline, then the
source; in every other wait that can be cut short either may come first.
-/

namespace Courier.Subscriber

universe u

variable {η : Type u}

abbrev Effect (η : Type u) := Stage η × List (Event η)

/-- A record that names the destination first. -/
def Setup.log (s : Setup) (level : Log.Level) (message : String)
    (fields : List (String × Log.Value)) : Event η :=
  .logged ⟨level, message, Log.destination s.destination :: fields⟩

/-- Records of a span, if spans are recorded. -/
def Setup.trace (s : Setup) (span : Nat) (record : Trace.SpanRecord) : List (Event η) :=
  (s.telemetry.record record).map (.traced span)

/-! ## §1 Between sessions -/

def Setup.finish (s : Setup) : Effect η :=
  (.returned, [s.log .info "subscriber stopped" [], .returned])

def Setup.nextSession (s : Setup) (isClosed : Bool) : Effect η :=
  if isClosed then s.finish else (.opening, [.asked (.openSource s.options.prefetch)])

/-- A session has ended, and what is left of it is closed. -/
def Setup.endSession (s : Setup) (now : Instant) : Ending → Effect η
  | .shutdown => s.finish
  | .restart =>
    (.pausing (now.after s.options.restartInterval),
      [s.log .warn "consume session ended, restarting"
          [Log.millis "restart_ms" s.options.restartInterval],
        .asked (.sleep s.options.restartInterval)])

def leave (ending : Ending) : Effect η :=
  (.leaving ending, [.asked .closeSource])

/-! ## §2 Within a session -/

/-- The next delivery is awaited. The deadline counts from here on. -/
def Setup.await (s : Setup) (now : Instant) : Effect η :=
  match now.add? s.options.staleTimeout with
  | some deadline => (.reading now deadline, [.asked .read])
  | none => (.crashed, [])

/-- A delivery is taken: its span begins, and the handler is called in the context of the span. -/
def Setup.take (s : Setup) (number : Nat) (delivery : Delivery) (handle : η) : Effect η :=
  let span := s.telemetry.consumerSpan delivery.headers s.destination number
  let made := match s.redelivery with
    | .republish => delivery.recordedAttempts
    | .inPlace => 0
  (.handling ⟨delivery, handle, made, number, span.context⟩,
    s.trace number (.start span) ++ [.asked (.handle span.context delivery)])

def settle (job : Job η) (settlement : Settlement) : Effect η :=
  (.settling job settlement, [.asked (.settle settlement job.handle job.delivery)])

/-- A delivery is dropped for the reason of a record. -/
def drop (job : Job η) (record : Event η) : Effect η :=
  let (stage, events) := settle job .reject
  (stage, record :: events)

/-- The handler has failed: the delivery is dropped, or another try is waited for. -/
def Setup.fail (s : Setup) (now : Instant) (job : Job η) (e : HandlerError) : Effect η :=
  if !e.retryable then
    drop job (s.log .warn "dropping message, handler failure is not retryable"
      [Log.reason e.message])
  else if s.options.limit.isExhausted job.made then
    drop job (s.log .error "dropping message, too many attempts"
      [Log.number "attempts" job.made, Log.reason e.message])
  else
    -- the backoff counts from zero; there is always one try to take away
    match job.made with
    | 0 => (.crashed, [])
    | before + 1 =>
      let verdict := s.options.backoff before
      if verdict.stop then
        drop job (s.log .error "dropping message, backoff exhausted"
          [Log.number "attempts" job.made, Log.reason e.message])
      else
        (.waiting job (now.after verdict.wait),
          [s.log .warn "failure handling message, retrying"
              [Log.number "attempt" job.made, Log.millis "wait_ms" verdict.wait,
                Log.reason e.message],
            .asked (.sleep verdict.wait)])

/-- The handler has answered: one attempt more was made. -/
def Setup.handled (s : Setup) (now : Instant) (job : Job η) (result : Except HandlerError Unit) :
    Effect η :=
  let job := { job with made := oneMoreAttempt job.made }
  match result with
  | .ok () =>
    let (stage, events) := settle job .ack
    (stage, s.trace job.span .succeeded ++ events)
  | .error e =>
    let (stage, events) := s.fail now job e
    (stage, s.trace job.span (.failure e.message) ++ s.trace job.span (.failed e.message) ++ events)

/-- The time of the next try has come: the same delivery again in the same context, or a copy of
it. -/
def Setup.retry (s : Setup) (job : Job η) : Effect η :=
  match s.redelivery with
  | .inPlace => (.handling job, [.asked (.handle job.context job.delivery)])
  | .republish => settle { job with delivery := job.delivery.recordAttempts job.made } .republish

/-- What is reported when a settlement fails. -/
def Setup.settlementFailure (s : Setup) (settlement : Settlement) (e : BrokerError) : Event η :=
  s.log .error (match settlement with
    | .ack => "failure to ack message"
    | .reject => "failure to reject message"
    | .requeue => "failure to requeue message"
    | .republish => "failure to republish message for retry, restarting session")
    [Log.reason e.message]

/-- Whether and how the session ends after a settlement: after giving a delivery back, and if no
copy could be published. -/
def endingAfter (settlement : Settlement) (result : Except BrokerError Unit) : Option Ending :=
  match settlement, result with
  | .ack, _ | .reject, _ => none
  | .requeue, _ => some .shutdown
  | .republish, .ok () => none
  | .republish, .error _ => some .restart

/-- A delivery is settled, or not: its span ends, and the session goes on or ends. -/
def Setup.settled (s : Setup) (now : Instant) (job : Job η) (settlement : Settlement)
    (result : Except BrokerError Unit) : Effect η :=
  -- a settlement that has failed is not tried again
  let report : List (Event η) := match result with
    | .ok () => []
    | .error e => [s.settlementFailure settlement e]
  let (stage, events) : Effect η := match endingAfter settlement result with
    | some ending => leave ending
    | none => s.await now
  (stage, report ++ s.trace job.span .finish ++ events)

def Setup.received (s : Setup) (span : Nat) :
    Except BrokerError (Option (Delivery × η)) → Effect η
  | .ok (some (delivery, handle)) => s.take span delivery handle
  | .ok none =>
    let (stage, events) := leave .restart
    (stage, s.log .warn "consume stream closed by the broker" [] :: events)
  | .error e =>
    let (stage, events) := leave .restart
    (stage, s.log .error "failure to read next message" [Log.reason e.message] :: events)

def Setup.stale (s : Setup) (now since : Instant) : Effect η :=
  let (stage, events) := leave .restart
  (stage, s.log .warn "no message within the staleness timeout"
    [Log.millis "idle_ms" (Instant.since now since)] :: events)

/-! ## §3 All inputs -/

/-- What a listening call does with an input at the instant `now`; `isClosed` says whether the
subscriber is closed, and `span` is the number of the next span. -/
def Setup.listen (s : Setup) (isClosed : Bool) (now : Instant) (span : Nat) :
    Stage η → Input η → Option (Effect η)
  | .queued, .turn => some (s.nextSession isClosed)
  | .opening, .opened (.ok ()) => some (s.await now)
  | .opening, .opened (.error e) =>
    let (stage, events) := s.endSession now .restart
    some (stage, s.log .error "failure to open consume session" [Log.reason e.message] :: events)
  -- the end before the deadline, and the deadline before what the source brings
  | .reading _ _, .stop => if isClosed then some (leave .shutdown) else none
  | .reading since deadline, .elapsed =>
    if !isClosed && decide (deadline ≤ now) then some (s.stale now since) else none
  | .reading _ deadline, .read result =>
    if !isClosed && decide (now < deadline) then some (s.received span result) else none
  | .handling job, .handled result => some (s.handled now job result)
  -- here the end and the time may come in either order
  | .waiting job wake, .elapsed => if wake ≤ now then some (s.retry job) else none
  | .waiting job _, .stop => if isClosed then some (settle job .requeue) else none
  | .settling job settlement, .settled result => some (s.settled now job settlement result)
  | .leaving ending, .closed result =>
    let report : List (Event η) := match result with
      | .ok () => []
      | .error e => [s.log .warn "failure to close consume session" [Log.reason e.message]]
    let (stage, events) := s.endSession now ending
    some (stage, report ++ events)
  | .pausing wake, .elapsed => if wake ≤ now then some (s.nextSession isClosed) else none
  | .pausing _, .stop => if isClosed then some s.finish else none
  | _, _ => none

end Courier.Subscriber
