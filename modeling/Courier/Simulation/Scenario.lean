import Courier.Simulation.Schedule

/-!
# Scenarios

A scenario is a list of steps that a simulation takes one after the other. After each of them all
threads run until they wait, and then a report says what the step has come to, what was shown since
the step before, and the state.
-/

namespace Courier.Simulation

/-- What can be seen of a simulation between two steps. -/
structure Snapshot where
  /-- Whether a connection is held, unless some call has its lock. -/
  connected : Option Bool
  generation : Nat
  isClosed : Bool
  sessions : Nat
  /-- The numbers of the messages that wait at each destination. -/
  queues : Dict (List Nat)

/-- What is reported after a step. -/
structure Report where
  outcome : Outcome
  time : Nat
  /-- What was shown, with the time at which it was, for the dialer, the publisher and the
  subscriber. -/
  shown : List (Actor × Nat × Event)
  snapshot : Snapshot

namespace Machine

/-- How much may happen in one step. -/
def stepFuel : Nat := 1000000

/-- How long the call of a step may take, in milliseconds. -/
def patience : Nat := 1000000000

/-- Runs a command, waiting for it or not. -/
def command (setup : Setup) (m : Machine) (c : Command) (background : Bool) : Machine :=
  let (owner, world) := beginCommand setup m.world c
  run setup stepFuel ({ m with
    world := world
    running := some ⟨owner, some c, background⟩
    pending := !background
    limit := world.now + patience
    outcome := .background }.wake setup)

/-- Runs all threads that became able to by a change of the world. -/
def change (setup : Setup) (m : Machine) (world : World) (outcome : Outcome) : Machine :=
  run setup stepFuel ({ m with world := world, pending := false, outcome := outcome }.wake setup)

/-- The world after the latest live connection has failed. -/
def breakLatest (setup : Setup) (w : World) (reason : String) : World × Option Nat :=
  match w.latestAlive with
  | some c =>
    (((w.stepDialer setup (.report c (.connectionLost reason))).getD w).bury c, some (c + 1))
  | none => (w, none)

/-- The world after the signal of the latest live connection has ended. -/
def endLatest (setup : Setup) (w : World) : World × Option Nat :=
  match w.latestAlive with
  | some c => ((w.stepDialer setup (.hangUp c)).getD w, some (c + 1))
  | none => (w, none)

def step (setup : Setup) (m : Machine) : Step → Machine
  | .call c background => m.command setup c background
  | .breakConnection reason =>
    let (w, connection) := breakLatest setup m.world reason
    m.change setup w (.number connection)
  | .endSignal =>
    let (w, connection) := endLatest setup m.world
    m.change setup w (.number connection)
  | .fail point outcomes otherwise =>
    let gate := m.world.gates point
    m.change setup (m.world.setGate point
      { gate with outcomes := gate.outcomes ++ outcomes, otherwise := otherwise }) .nothing
  | .delay point millis =>
    m.change setup (m.world.setGate point { m.world.gates point with delay := millis }) .nothing
  | .killHandles destination =>
    m.change setup { m.world with handles := m.world.handles.map fun h =>
      if h.destination = destination then { h with killed := true } else h } .nothing
  | .deliver d =>
    let w := m.world.deliver d.destination d
    m.change setup w (.number (some w.latest))
  | .endStream =>
    m.change setup { m.world with controls := m.world.controls ++ [.endOfStream] } .nothing
  | .readError reason =>
    m.change setup { m.world with controls := m.world.controls ++ [.failure reason] } .nothing

def snapshot (m : Machine) : Snapshot where
  connected := m.world.dialer.connected?
  generation := m.world.dialer.generation
  isClosed := m.world.subscriber.isClosed
  sessions := m.world.sessions
  queues := m.world.queues.map fun _ messages => messages.map Stored.id

def reportOf (setup : Setup) (m : Machine) (s : Step) : Report × Machine :=
  let after := m.step setup s
  (⟨after.outcome, after.world.now, after.world.shown.reverse, after.snapshot⟩,
    { after with world := { after.world with shown := [] } })

def reports (setup : Setup) : Machine → List Step → List Report
  | _, [] => []
  | m, s :: rest =>
    let (report, after) := m.reportOf setup s
    report :: reports setup after rest

end Machine

/-- The reports on the steps of a scenario. -/
def scenario (setup : Setup) (steps : List Step) : List Report :=
  Machine.reports setup (Machine.start setup) steps

end Courier.Simulation
