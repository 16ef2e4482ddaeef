import Courier.Publisher.Basic

/-!
# Steps of a publisher

A label says which call takes a step and what it is given; `step` says what comes of it, or that no
such step is possible.
-/

namespace Courier.Publisher

/-- What happens to a publisher. -/
inductive Label where
  | publish (batch : Batch)
  | close
  /-- A call has got the lock; `isClosed` is what the handle it finds says of itself. -/
  | proceed (task : Nat) (isClosed : Bool)
  /-- The transport answers a call. -/
  | answer (task : Nat) (result : Except BrokerError Unit)

abbrev Effect := Publisher × List Event

def finish (p : Publisher) (task : Nat) (result : Except BrokerError Unit) : Effect :=
  (p.setStage task (.returned result), [.returned task result])

/-- A batch goes on with its next message, or returns if there is none. -/
def next (p : Publisher) (setup : Setup) (task : Nat) (batch : Batch) : Effect :=
  match batch.messages with
  | [] => p.finish task (.ok ())
  | m :: rest =>
    -- an envelope is counted even if none could be made
    let result := setup.envelope batch.context p.prepared m
    let p := { p with prepared := p.prepared + 1 }
    match result with
    | .error e =>
      let (after, events) := p.finish task (.error e)
      (after, .prepared task result :: events)
    | .ok envelope =>
      (p.requestLock task (.seeking envelope { batch with messages := rest }),
        [.prepared task result])

def send (p : Publisher) (task : Nat) (handle : Nat) (e : Envelope) (rest : Batch) : Effect :=
  (p.setStage task (.sending handle e rest), [.asked task (.send handle e)])

/-- Closes handles one after the other. -/
def closeNext (p : Publisher) (task : Nat) : List (String × Nat) → Effect
  | [] => p.finish task (.ok ())
  | (destination, handle) :: rest =>
    (p.setStage task (.closing destination handle rest),
      [.asked task (.closeHandle destination handle)])

/-- A call that has got the lock of the cache goes on. -/
def proceed (p : Publisher) (task : Nat) (isClosed : Bool) : Option Effect :=
  match p.tasks[task]? with
  | some (.seeking e rest) =>
    let reopen : Effect :=
      (p.setStage task (.opening e rest), [.asked task (.openHandle e.destination)])
    -- the lock is kept while a handle is opened, so that no two are opened for one destination
    match p.cache.get? e.destination with
    | some handle => some (if isClosed then reopen else p.releaseLock.send task handle e rest)
    | none => some reopen
  | some .draining =>
    -- the handles are taken out of the cache first, and closed without the lock
    some ({ p with cache := Dict.empty }.releaseLock.closeNext task p.cache.toList)
  | _ => none

def answered (p : Publisher) (setup : Setup) (task : Nat) (result : Except BrokerError Unit) :
    Option Effect :=
  match p.tasks[task]?, result with
  | some (.opening e rest), .ok () =>
    let opened := { p with cache := p.cache.insert e.destination p.opened, opened := p.opened + 1 }
    some (opened.releaseLock.send task p.opened e rest)
  | some (.opening _ _), .error e => some (p.releaseLock.finish task (.error e))
  | some (.sending _ _ rest), .ok () => some (p.next setup task rest)
  | some (.sending _ e _), .error err =>
    let (after, events) := p.finish task (.error err)
    some (after, .logged ⟨.error, "failure to publish message",
      [Log.destination e.destination, Log.reason err.message]⟩ :: events)
  | some (.closing _ _ rest), .ok () => some (p.closeNext task rest)
  | some (.closing destination _ rest), .error err =>
    -- the others are closed all the same
    let (after, events) := p.closeNext task rest
    some (after, .logged ⟨.warn, "failure to close send-handle",
      [Log.destination destination, Log.reason err.message]⟩ :: events)
  | _, _ => none

/-- What comes of a label, if it is possible. -/
def step (setup : Setup) (p : Publisher) : Label → Option Effect
  | .publish batch =>
    let task := p.tasks.length
    let p := { p with tasks := p.tasks ++ [Stage.draining] }
    some (if p.closed then p.finish task (.error .closed) else p.next setup task batch)
  | .close =>
    let task := p.tasks.length
    let p := { p with tasks := p.tasks ++ [Stage.draining] }
    some (if p.closed then p.finish task (.ok ())
      else ({ p with closed := true }.requestLock task .draining, []))
  | .proceed task isClosed =>
    if p.lock.isHeldBy task then p.proceed task isClosed else none
  | .answer task result => p.answered setup task result

end Courier.Publisher
