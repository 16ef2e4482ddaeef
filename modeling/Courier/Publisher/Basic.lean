import Courier.Lock
import Courier.Log
import Courier.Publisher.Envelope

/-!
# Publishers

A publisher sends batches of messages through send-handles, one a destination, which it opens when
they are first needed and again when the transport reports them closed. Handles that are open are
kept in a cache behind a lock. Calls are tasks; a `Stage` says what a call waits for.
-/

namespace Courier

namespace Publisher

/-- What a publisher asks its transport for. -/
inductive Request where
  | openHandle (destination : String)
  | send (handle : Nat) (envelope : Envelope)
  | closeHandle (destination : String) (handle : Nat)
deriving DecidableEq, Repr

/-- The messages of a batch that are not sent yet, and the trace context they are sent under. -/
structure Batch where
  context : Trace.Context
  messages : List Message

/-- What a call waits for. -/
inductive Stage where
  /-- A batch waits for the lock of the cache. -/
  | seeking (envelope : Envelope) (rest : Batch)
  /-- The transport opens a handle; the call has the lock. -/
  | opening (envelope : Envelope) (rest : Batch)
  | sending (handle : Nat) (envelope : Envelope) (rest : Batch)
  /-- A closing call waits for the lock of the cache. -/
  | draining
  /-- The transport closes a handle, and others after it. -/
  | closing (destination : String) (handle : Nat) (rest : List (String × Nat))
  | returned (result : Except BrokerError Unit)

instance : Inhabited Stage := ⟨.draining⟩

/-- What a step shows to the outside. -/
inductive Event where
  /-- An envelope was made of a message, or not. -/
  | prepared (task : Nat) (result : Except BrokerError Envelope)
  | asked (task : Nat) (request : Request)
  | logged (record : Log)
  | returned (task : Nat) (result : Except BrokerError Unit)
deriving DecidableEq, Repr

end Publisher

/-- The cache of open handles and the calls that work on it. Calls and handles are numbered from
zero in the order of their beginning. -/
structure Publisher where
  closed : Bool
  cache : Dict Nat
  lock : Lock
  tasks : List Publisher.Stage
  /-- How many handles have been opened. -/
  opened : Nat
  /-- How many envelopes have been made. -/
  prepared : Nat

namespace Publisher

def new : Publisher := ⟨false, Dict.empty, Lock.free, [], 0, 0⟩

instance : Inhabited Publisher := ⟨new⟩

def setStage (p : Publisher) (task : Nat) (stage : Stage) : Publisher :=
  { p with tasks := p.tasks.set task stage }

def requestLock (p : Publisher) (task : Nat) (stage : Stage) : Publisher :=
  { p with lock := p.lock.request task }.setStage task stage

def releaseLock (p : Publisher) : Publisher :=
  { p with lock := p.lock.release }

end Publisher

end Courier
