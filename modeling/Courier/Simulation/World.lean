import Courier.Simulation.Script

/-!
# The simulated broker

The state of a simulation: the clock, the broker and what it has shown, and the three systems that
run on it. A call that a system has made is a `Passage`, which says how far it has come.
-/

namespace Courier.Simulation

/-! ## §1 The broker -/

/-- A message that waits at the broker, or was taken from it. -/
structure Stored where
  id : Nat
  delivery : Delivery
deriving DecidableEq, Repr

/-- A send-handle at the broker. -/
structure SendHandle where
  destination : String
  generation : Nat
  killed : Bool

/-- What the next read of a source brings before any delivery. -/
inductive Control where
  | endOfStream
  | failure (reason : String)

/-! ## §2 What is shown -/

inductive Outcome where
  | nothing
  | background
  | blocked
  /-- The number of a connection or a message, if there is one. -/
  | number (n : Option Nat)
  | unit (result : Except BrokerError Unit)
  | session (result : Except BrokerError Nat)
  | connected (held : Bool)
  | listened
  | crashed

inductive Event where
  | dial (number : Nat)
  | refused (number : Nat)
  | dialed (number connection : Nat)
  | closeConnection (connection : Nat)
  | openSink (destination : String)
  | send (envelope : Envelope) (freshId failed : Bool)
  | closeSink (destination : String)
  | openSource (prefetch : Nat)
  | handle (call : Nat) (delivery : Delivery)
  | settled (point : Point) (id : Nat) (failed : Bool)
  | copy (id : Nat) (headers : Headers)
  | closeSource
  | log (record : Log)
  | span (record : Trace.SpanRecord)
  | done (command : Command) (result : Outcome)

/-- Who an event is shown for. -/
inductive Actor where
  | dialer
  | publisher
  | subscriber
deriving DecidableEq, Repr

/-! ## §3 Calls in progress -/

/-- Who makes a call or waits for one. -/
inductive Owner where
  | dialer (task : Nat)
  | publisher (task : Nat)
  | subscriber (task : Nat)
  /-- Somebody who waits for a point in time. -/
  | alarm (due : Nat)
deriving DecidableEq, Repr

/-- A call to a transport or to the handler, or a pause of a watcher. -/
inductive Call where
  | dial (number : Nat)
  | closeConnection (connection : Nat)
  | openSession
  | openSink (destination : String) (generation : Nat)
  | send (envelope : Envelope)
  | closeSink
  | openSource (connection : Option Nat)
  | handle (verdict : Verdict) (delivery : Delivery)
  | settle (settlement : Subscriber.Settlement) (message : Stored) (delivery : Delivery)
  /-- A message is given back because no copy of it could be published. -/
  | giveBack (message : Stored) (reason : BrokerError)
  | closeSource
  | pause

/-- How far a call has come. -/
inductive Progress where
  /-- It waits for a session of the dialer, which is a call of its own. -/
  | session (task : Nat)
  /-- It ends at a point in time. -/
  | until (due : Nat) (fails : Bool)

structure Passage where
  owner : Owner
  call : Call
  progress : Progress

/-! ## §4 The whole -/

/-- The state of a simulation. Time is counted in milliseconds. -/
structure World where
  now : Nat
  dialer : Dialer
  publisher : Publisher
  subscriber : Subscriber Stored
  gates : Point → Gate
  passages : List Passage
  dials : Nat
  /-- Connections that have failed or were closed. -/
  dead : List Nat
  handles : List SendHandle
  queues : Dict (List Stored)
  /-- The number of the latest message. -/
  latest : Nat
  controls : List Control
  /-- How many sources were opened. -/
  sessions : Nat
  /-- The connection of the source that is open, if it needs one. -/
  source : Option Nat
  responses : List Response
  handled : Nat
  envelopeIds : List String
  /-- Watchers that have not taken a step. -/
  spawned : List Nat
  /-- What was shown since the last step, the latest first. -/
  shown : List (Actor × Nat × Event)

namespace World

def start (setup : Setup) : World where
  now := 0
  dialer := Dialer.new
  publisher := Publisher.new
  subscriber := Subscriber.new
  gates := fun _ => Gate.smooth
  passages := []
  dials := 0
  dead := []
  handles := []
  queues := Dict.empty
  latest := 0
  controls := []
  sessions := 0
  source := none
  responses := setup.responses
  handled := 0
  envelopeIds := []
  spawned := []
  shown := []

def instant (w : World) : Instant := w.now * Duration.nanosPerMilli

/-- The first millisecond that is not before an instant. -/
def millisAt (i : Instant) : Nat :=
  (i + (Duration.nanosPerMilli - 1)) / Duration.nanosPerMilli

def display (w : World) (actor : Actor) (e : Event) : World :=
  { w with shown := (actor, w.now, e) :: w.shown }

def setGate (w : World) (point : Point) (g : Gate) : World :=
  { w with gates := fun p => if p = point then g else w.gates p }

def enter (w : World) (owner : Owner) (call : Call) (progress : Progress) : World :=
  { w with passages := ⟨owner, call, progress⟩ :: w.passages }

def quit (w : World) (owner : Owner) : World :=
  { w with passages := w.passages.filter fun p => p.owner ≠ owner }

def passage? (w : World) (owner : Owner) : Option Passage :=
  w.passages.find? fun p => p.owner = owner

/-- Begins to pass a gate: the outcome is taken now, and the call ends after the delay. -/
def pass (w : World) (owner : Owner) (call : Call) (point : Point) : World :=
  let gate := w.gates point
  let (fails, after) := gate.take
  (w.setGate point after).enter owner call (.until (w.now + gate.delay) fails)

/-! ## §5 Messages -/

def queue (w : World) (destination : String) : List Stored :=
  (w.queues.get? destination).getD []

/-- Puts a message at the back of the queue of a destination. -/
def store (w : World) (destination : String) (m : Stored) : World :=
  { w with queues := w.queues.insert destination (w.queue destination ++ [m]) }

/-- Puts a delivery at the back of the queue of its destination, under a new number. -/
def deliver (w : World) (destination : String) (d : Delivery) : World :=
  { w with latest := w.latest + 1 }.store destination ⟨w.latest + 1, d⟩

/-- The latest connection that is alive and whose failure signal has not ended. -/
def latestAlive (w : World) : Option Nat :=
  (List.range w.dialer.connections.length).reverse.find? fun c =>
    !w.dead.contains c && !(w.dialer.connections[c]?.map Dialer.Connection.ended).getD true

/-- A connection is dead from here on. -/
def bury (w : World) (connection : Nat) : World :=
  { w with dead := connection :: w.dead }

end World

end Courier.Simulation
