import Courier.Lock
import Courier.Log
import Courier.Retry

/-!
# Dialers

A dialer holds at most one connection to a broker. Calls open, replace, use and close it, and a
watcher in the background replaces it when it fails. A call or a watcher is a task; its `Stage` says
what it waits for, and between two waits it takes one step. Tasks share the connection that is held
and the place of the watcher, each behind a lock.
-/

namespace Courier

namespace Dialer

/-! ## §1 Calls and their answers -/

/-- What a dialer is called for. -/
inductive Operation where
  | connect
  | reconnect
  | session
  | check
  | close
deriving DecidableEq, Repr

inductive Outcome where
  | done (result : Except BrokerError Unit)
  /-- The connection on which a session was opened. -/
  | session (result : Except BrokerError Nat)
  | connected (held : Bool)
deriving DecidableEq, Repr

/-- What a dialer asks its connector for. -/
inductive Request where
  | dial
  | close (connection : Nat)
  | openSession (connection : Nat)
deriving DecidableEq, Repr

/-! ## §2 Connections -/

/-- A connection that the connector has returned, and its failure signal. -/
structure Connection where
  /-- A failure that was reported and that no watcher has taken note of. -/
  pending : Option BrokerError
  reported : Bool
  /-- Nothing more comes over the signal. -/
  ended : Bool
  /-- How often the connector was asked to close the connection. -/
  closings : Nat
deriving DecidableEq, Repr

def Connection.fresh : Connection := ⟨none, false, false, 0⟩

instance : Inhabited Connection := ⟨Connection.fresh⟩

/-- Whether the watcher of the connection has something to take note of. -/
def Connection.hasNews (c : Connection) : Bool :=
  c.pending.isSome || c.ended

/-! ## §3 Tasks -/

/-- Why the broker is dialed: a call asked for it, or a watcher does it for the time that its
attempts, counted from zero, have come to. -/
inductive Purpose where
  | connecting
  | redialing (attempt : Nat)
deriving DecidableEq, Repr

/-- What a task waits for. -/
inductive Stage where
  | dialing (purpose : Purpose)
  /-- A new connection waits to be held: for the lock. -/
  | installing (purpose : Purpose) (fresh : Nat)
  /-- The connector closes the connection that the new one has replaced. -/
  | replacing (purpose : Purpose) (fresh old : Nat)
  /-- A new connection waits for its watcher: for the lock. -/
  | adopting (fresh : Nat)
  /-- A reconnecting call waits for the lock. -/
  | discarding
  /-- The connector closes what a reconnecting call has found; the call has the lock. -/
  | clearingOut (old : Nat)
  /-- A call for a session waits for the lock. -/
  | seeking
  | opening (connection : Nat)
  /-- A call that looks whether a connection is held waits for the lock. -/
  | checking
  /-- A closing call waits for the lock of the watcher. -/
  | stopping
  /-- A closing call waits for the end of the watcher; the call has the watcher's lock. -/
  | joining (watcher : Nat)
  /-- A closing call waits for the lock. -/
  | emptying
  | closing (connection : Nat)
  | returned (outcome : Outcome)
  | watching (connection : Nat)
  /-- A watcher whose connection has failed waits for the lock. -/
  | losing
  | pausing (attempt : Nat) (wait : Duration)
  | exited
deriving DecidableEq, Repr

/-- A call or a watcher. -/
structure Task where
  stage : Stage
  /-- The task takes no further step of its own. -/
  aborted : Bool
deriving DecidableEq, Repr

def Task.at (stage : Stage) : Task := ⟨stage, false⟩

instance : Inhabited Task := ⟨Task.at .exited⟩

/-! ## §4 What can be observed -/

/-- What a step shows to the outside. -/
inductive Event where
  | asked (task : Nat) (request : Request)
  | logged (record : Log)
  /-- A watcher waits before its next attempt. -/
  | paused (task : Nat) (wait : Duration)
  | spawned (watcher : Nat)
  | returned (task : Nat) (outcome : Outcome)
deriving DecidableEq, Repr

end Dialer

/-- The connection that is held, its watcher, and the tasks that work on them. Tasks and connections
are numbered from zero in the order of their beginning. -/
structure Dialer where
  /-- Watchers are to end. -/
  shutdown : Bool
  /-- How many connections have been held. -/
  generation : Nat
  held : Option Nat
  heldLock : Lock
  watcher : Option Nat
  watcherLock : Lock
  tasks : List Dialer.Task
  connections : List Dialer.Connection
deriving DecidableEq, Repr

namespace Dialer

def new : Dialer := ⟨false, 0, none, Lock.free, none, Lock.free, [], []⟩

instance : Inhabited Dialer := ⟨new⟩

def stage? (d : Dialer) (task : Nat) : Option Stage :=
  d.tasks[task]?.map Task.stage

def setStage (d : Dialer) (task : Nat) (stage : Stage) : Dialer :=
  { d with tasks := d.tasks.modify task fun t => { t with stage := stage } }

def isAborted (d : Dialer) (task : Nat) : Bool :=
  (d.tasks[task]?.map Task.aborted).getD false

/-- Whether a task has ended, or there is none of this number. -/
def hasEnded (d : Dialer) (task : Nat) : Bool :=
  match d.stage? task with
  | some .exited | some (.returned _) | none => true
  | _ => false

def changeConnection (d : Dialer) (connection : Nat) (f : Connection → Connection) : Dialer :=
  { d with connections := d.connections.modify connection f }

/-- Whether a connection is held, unless some task has the lock. -/
def connected? (d : Dialer) : Option Bool :=
  if d.heldLock.holder.isSome then none else some d.held.isSome

end Dialer

end Courier
