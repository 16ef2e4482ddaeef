import Courier.Dialer.Basic

/-!
# Steps of a dialer

A label says which task takes a step and what it is given; `step` says what comes of it, or that no
such step is possible. What a task does between two waits is one step, so that tasks interleave at
their waits and nowhere else.
-/

namespace Courier.Dialer

/-- What happens to a dialer. -/
inductive Label where
  | call (operation : Operation)
  /-- What a task waits for has come: its lock, the signal, the end of a watcher or of a pause. -/
  | proceed (task : Nat)
  /-- The connector answers a task. -/
  | answer (task : Nat) (result : Except BrokerError Unit)
  /-- A watcher sees that it is to end. -/
  | stop (task : Nat)
  /-- An aborted watcher ends. -/
  | drop (task : Nat)
  /-- A connection reports a failure. -/
  | report (connection : Nat) (error : BrokerError)
  /-- The failure signal of a connection ends. -/
  | hangUp (connection : Nat)
deriving DecidableEq, Repr

abbrev Effect := Dialer × List Event

/-! ## §1 Parts of steps -/

def ask (d : Dialer) (task : Nat) (request : Request) (stage : Stage) : Effect :=
  -- what is asked of a connection is counted when it is asked, whatever the answer will be
  let d := match request with
    | .close c => d.changeConnection c fun x => { x with closings := x.closings + 1 }
    | _ => d
  (d.setStage task stage, [.asked task request])

def requestHeld (d : Dialer) (task : Nat) (stage : Stage) : Dialer :=
  { d with heldLock := d.heldLock.request task }.setStage task stage

def requestWatcher (d : Dialer) (task : Nat) (stage : Stage) : Dialer :=
  { d with watcherLock := d.watcherLock.request task }.setStage task stage

def releaseHeld (d : Dialer) : Dialer :=
  { d with heldLock := d.heldLock.release }

def releaseWatcher (d : Dialer) : Dialer :=
  { d with watcherLock := d.watcherLock.release }

def finish (d : Dialer) (task : Nat) (outcome : Outcome) : Effect :=
  (d.setStage task (.returned outcome), [.returned task outcome])

/-- A watcher ends; it gives up its lock or its place in the queue. -/
def exit (d : Dialer) (task : Nat) : Dialer :=
  { d with heldLock := d.heldLock.leave task }.setStage task .exited

/-- A call begins to dial. Watchers are not to end from here on. -/
def startConnect (d : Dialer) (task : Nat) : Effect :=
  { d with shutdown := false }.ask task .dial (.dialing .connecting)

/-- A new connection is held and what it replaced is closed: the call goes on to give it a watcher,
and the watcher goes on to watch it. -/
def settle (d : Dialer) (task : Nat) (purpose : Purpose) (fresh : Nat) : Effect :=
  match purpose with
  | .connecting => (d.requestWatcher task (.adopting fresh), [])
  | .redialing attempt =>
    (d.setStage task (.watching fresh),
      [.logged ⟨.info, "reconnected", [Log.number "attempt" attempt]⟩])

/-- A new connection takes the place of the one that was held. -/
def install (d : Dialer) (task : Nat) (purpose : Purpose) (fresh : Nat) : Effect :=
  -- the lock is given back before the old connection is closed
  let next := { d with held := some fresh, generation := d.generation + 1 }.releaseHeld
  match d.held with
  | some old => next.ask task (.close old) (.replacing purpose fresh old)
  | none => next.settle task purpose fresh

/-- A dial has failed: the call returns, and the watcher does what the policy says. -/
def refuse (policy : Policy) (d : Dialer) (task : Nat) (purpose : Purpose) (e : BrokerError) :
    Effect :=
  match purpose with
  | .connecting => d.finish task (.done (.error e))
  | .redialing attempt =>
    let verdict := policy attempt
    if verdict.stop then
      (d.exit task, [.logged ⟨.error, "giving up reconnecting",
        [Log.number "attempt" attempt, Log.reason e.message]⟩])
    else
      (d.setStage task (.pausing attempt verdict.wait),
        [.logged ⟨.warn, "failure to reconnect, retrying",
          [Log.number "attempt" attempt, Log.millis "wait_ms" verdict.wait,
            Log.reason e.message]⟩,
          .paused task verdict.wait])

/-- A new connection gets a watcher in the place of the one before. -/
def adopt (d : Dialer) (task : Nat) (fresh : Nat) : Effect :=
  -- the watcher before is aborted, and nobody waits for its end
  let aborting := match d.watcher with
    | some w => d.tasks.modify w fun t => { t with aborted := true }
    | none => d.tasks
  let fresher := { d with
    tasks := aborting ++ [Task.at (.watching fresh)], watcher := some d.tasks.length }
  let (after, events) := fresher.releaseWatcher.finish task (.done (.ok ()))
  (after, .spawned d.tasks.length :: events)

/-- A watcher takes note of what its signal brings. -/
def notice (d : Dialer) (task : Nat) (connection : Nat) : Option Effect :=
  match d.connections[connection]? with
  | none => none
  | some c =>
    -- a failure that was reported is taken note of even if the signal has ended since
    match c.pending with
    | some e =>
      some ((d.changeConnection connection fun x => { x with pending := none }).requestHeld task
          .losing,
        [.logged ⟨.error, "connection lost, reconnecting", [Log.reason e.message]⟩])
    | none => if c.ended then some (d.exit task, []) else none

/-! ## §2 Steps by label -/

def begin (d : Dialer) (operation : Operation) : Effect :=
  let task := d.tasks.length
  -- the stage stands for the first one, which is set at once
  let d := { d with tasks := d.tasks ++ [Task.at .checking] }
  match operation with
  | .connect => d.startConnect task
  | .reconnect => (d.requestHeld task .discarding, [])
  | .session => (d.requestHeld task .seeking, [])
  | .check => (d.requestHeld task .checking, [])
  | .close => ({ d with shutdown := true }.requestWatcher task .stopping, [])

/-- A task that has got the lock of the connection goes on. -/
def proceedHeld (d : Dialer) (task : Nat) : Stage → Option Effect
  | .installing purpose fresh => some (d.install task purpose fresh)
  | .discarding =>
    -- the lock is kept until the old connection is closed
    match d.held with
    | some old => some ({ d with held := none }.ask task (.close old) (.clearingOut old))
    | none => some (d.releaseHeld.startConnect task)
  | .seeking =>
    match d.held with
    | some c => some (d.releaseHeld.ask task (.openSession c) (.opening c))
    | none => some (d.releaseHeld.finish task (.session (.error .notConnected)))
  | .checking => some (d.releaseHeld.finish task (.connected d.held.isSome))
  | .emptying =>
    let emptied := { d with held := none }.releaseHeld
    match d.held with
    | some c => some (emptied.ask task (.close c) (.closing c))
    | none => some (emptied.finish task (.done (.ok ())))
  -- Whatever is held now is given up, be it another connection than the one that has failed. The
  -- redial that follows looks for the end and dials in either order, so a watcher that is to end may
  -- also end here, without a dial. There is no step of its own for this: it ends as a watcher does
  -- that has asked for the dial and stops at once, and what is shown is one dial more.
  | .losing => some ({ d with held := none }.releaseHeld.ask task .dial (.dialing (.redialing 0)))
  | _ => none

/-- A task that has got the lock of the watcher goes on. -/
def proceedWatcher (d : Dialer) (task : Nat) : Stage → Option Effect
  | .adopting fresh => some (d.adopt task fresh)
  | .stopping =>
    match d.watcher with
    -- the lock of the watcher is kept until the watcher has ended
    | some w => some ({ d with watcher := none }.setStage task (.joining w), [])
    | none => some (d.releaseWatcher.requestHeld task .emptying, [])
  | _ => none

def proceed (d : Dialer) (task : Nat) : Option Effect :=
  match d.stage? task with
  | none => none
  | some (.watching c) => d.notice task c
  | some (.joining w) =>
    if d.hasEnded w then some (d.releaseWatcher.requestHeld task .emptying, []) else none
  | some (.pausing attempt _) =>
    some (d.ask task .dial (.dialing (.redialing (oneMoreAttempt attempt))))
  | some stage =>
    if d.heldLock.isHeldBy task then d.proceedHeld task stage
    else if d.watcherLock.isHeldBy task then d.proceedWatcher task stage
    else none

def answered (policy : Policy) (d : Dialer) (task : Nat) (result : Except BrokerError Unit) :
    Option Effect :=
  match d.stage? task, result with
  | some (.dialing purpose), .ok () =>
    let fresh := d.connections.length
    some ({ d with connections := d.connections ++ [Connection.fresh] }.requestHeld task
      (.installing purpose fresh), [])
  | some (.dialing purpose), .error e => some (refuse policy d task purpose e)
  -- whether the old connection could be closed makes no difference
  | some (.replacing purpose fresh _), _ => some (d.settle task purpose fresh)
  | some (.clearingOut _), _ => some (d.releaseHeld.startConnect task)
  | some (.opening c), result => some (d.finish task (.session (result.map fun _ => c)))
  | some (.closing _), result => some (d.finish task (.done result))
  | _, _ => none

/-- Whether a task is a watcher that looks for the end in this stage. -/
def Stage.isStoppable : Stage → Bool
  | .watching _ | .pausing _ _ => true
  | .dialing (.redialing _) | .installing (.redialing _) _ | .replacing (.redialing _) _ _ => true
  | _ => false

/-- What comes of a label, if it is possible. -/
def step (policy : Policy) (d : Dialer) : Label → Option Effect
  | .call operation => some (d.begin operation)
  | .proceed task => if d.isAborted task then none else d.proceed task
  | .answer task result => if d.isAborted task then none else d.answered policy task result
  | .stop task =>
    match d.stage? task with
    | some stage =>
      if d.shutdown && stage.isStoppable && !d.isAborted task then some (d.exit task, []) else none
    | none => none
  | .drop task =>
    if d.isAborted task && !d.hasEnded task then some (d.exit task, []) else none
  | .report connection e =>
    match d.connections[connection]? with
    | some c =>
      if c.ended then none
      -- the signal carries the first failure only
      else some (d.changeConnection connection fun x =>
        { x with pending := if x.reported then x.pending else some e, reported := true }, [])
    | none => none
  | .hangUp connection =>
    match d.connections[connection]? with
    | some _ => some (d.changeConnection connection fun x => { x with ended := true }, [])
    | none => none

end Courier.Dialer
