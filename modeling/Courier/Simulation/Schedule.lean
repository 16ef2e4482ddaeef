import Courier.Simulation.Calls

/-!
# The schedule of a simulation

Owners of calls run one at a time, each until it has to wait; those that can go on run in the order
in which they became able to. Time passes only when all of them wait: it jumps to the next point in
time that one of them waits for.
-/

namespace Courier.Simulation

/-- An owner of calls that runs, and the command that it runs for. A watcher runs for none. -/
structure Thread where
  owner : Owner
  command : Option Command
  background : Bool

/-- A simulation with its threads. -/
structure Machine where
  world : World
  running : Option Thread
  /-- Threads that can go on, the first to run first. -/
  ready : List Thread
  /-- Threads that wait, the one that has waited longest first. -/
  waiting : List Thread
  pending : Bool
  /-- When the step of the scenario is given up. -/
  limit : Nat
  /-- What the step of the scenario has come to. -/
  outcome : Outcome

namespace Machine

def start (setup : Setup) : Machine :=
  ⟨World.start setup, none, [], [], false, 0, .nothing⟩

def canRun (setup : Setup) (w : World) (t : Thread) : Bool :=
  (w.outcome? t.owner).isSome || (w.advance setup t.owner).isSome

/-- Makes the threads ready that need not wait any longer. -/
def wake (setup : Setup) (m : Machine) : Machine :=
  let (able, others) := m.waiting.partition (canRun setup m.world)
  { m with ready := m.ready ++ able, waiting := others }

/-- Gives new watchers a thread each. -/
def enlist (m : Machine) : Machine :=
  { m with
    ready := m.ready ++ m.world.spawned.map fun w => ⟨.dialer w, none, true⟩
    world := { m.world with spawned := [] } }

/-- Who the end of a command is shown for. -/
def actorOf : Command → Option Actor
  | .dialer _ => some .dialer
  | .publish _ | .closePublisher => some .publisher
  | .listen | .closeSubscriber => some .subscriber
  | .advance _ => none

/-- A thread has come to its end. -/
def finish (m : Machine) (t : Thread) (outcome : Outcome) : Machine :=
  if t.background then
    match t.command, outcome with
    -- a call that crashes in the background takes its thread down, and nothing is shown of it
    | some _, .crashed | none, _ => m
    | some command, _ =>
      match actorOf command with
      | some actor => { m with world := m.world.display actor (.done command outcome) }
      | none => m
  else { m with pending := false, outcome := outcome }

/-- The next point in time that a thread waits for. -/
def nextDue (m : Machine) : Option Nat :=
  (m.waiting.filterMap fun t => m.world.due? t.owner).min?

/-- All threads wait and time passes, unless the step is given up. -/
def passTime (setup : Setup) (m : Machine) : Machine :=
  let due := min ((m.nextDue).getD m.limit) m.limit
  -- time never goes back, even if somebody waits for what is past
  let later := { m with world := { m.world with now := max m.world.now due } }.wake setup
  if later.ready.isEmpty ∧ m.limit ≤ due then
    { later with
      pending := false
      outcome := .blocked
      waiting := later.waiting.filter fun t => t.background }
  else later

/-- The next thing that happens, unless all threads wait and no call is waited for. -/
def tick (setup : Setup) (m : Machine) : Option Machine :=
  match m.running with
  | some t =>
    match m.world.outcome? t.owner with
    | some outcome => some ({ m with running := none }.finish t outcome)
    | none =>
      match m.world.advance setup t.owner with
      | some w => some ({ m with world := w }.enlist.wake setup)
      -- it has to wait, and the next one runs
      | none => some { m with running := none, waiting := m.waiting ++ [t] }
  | none =>
    match m.ready with
    | t :: rest => some { m with running := some t, ready := rest }
    | [] => if m.pending then some (m.passTime setup) else none

/-- Lets at most `fuel` things happen. -/
def run (setup : Setup) : (fuel : Nat) → Machine → Machine
  | 0, m => m
  | fuel + 1, m =>
    match m.tick setup with
    | some m => run setup fuel m
    | none => m

/-- Begins a command: the systems are called, and the owner of the call is returned. -/
def beginCommand (setup : Setup) (w : World) : Command → Owner × World
  | .dialer operation =>
    (.dialer w.dialer.tasks.length, (w.stepDialer setup (.call operation)).getD w)
  | .publish batch =>
    (.publisher w.publisher.tasks.length, (w.stepPublisher setup (.publish batch)).getD w)
  | .closePublisher =>
    (.publisher w.publisher.tasks.length, (w.stepPublisher setup .close).getD w)
  | .listen =>
    let task := w.subscriber.tasks.length
    (.subscriber task, (w.stepSubscriber setup task .listen).getD w)
  | .closeSubscriber =>
    let task := w.subscriber.tasks.length
    (.subscriber task, (w.stepSubscriber setup task .close).getD w)
  | .advance millis => (.alarm (w.now + millis), w)

end Machine

end Courier.Simulation
