import Courier.Simulation.World

/-!
# Calls of the simulated transports

What a call of the dialer, the publisher or the subscriber does at the broker when it begins and when
it ends, and the next step of each owner of calls.
-/

namespace Courier.Simulation.World

/-! ## §1 The connector -/

def beginConnector (w : World) (owner : Owner) : Dialer.Request → World
  | .dial =>
    let number := w.dials + 1
    ({ w with dials := number }.display .dialer (.dial number)).pass owner (.dial number) .dial
  | .close c =>
    (w.display .dialer (.closeConnection (c + 1))).pass owner (.closeConnection c) .closeConnection
  | .openSession _ => w.pass owner .openSession .session

def onDialer (w : World) : Dialer.Event → World
  | .asked task request => w.beginConnector (.dialer task) request
  | .logged record => w.display .dialer (.log record)
  | .paused task wait =>
    w.enter (.dialer task) .pause (.until (millisAt (w.instant.after wait)) false)
  | .spawned watcher => { w with spawned := w.spawned ++ [watcher] }
  | .returned _ _ => w

def stepDialer (setup : Setup) (w : World) (label : Dialer.Label) : Option World :=
  (Dialer.step setup.policy w.dialer label).map fun effect =>
    effect.2.foldl onDialer { w with dialer := effect.1 }

def endConnector (setup : Setup) (w : World) (task : Nat) (call : Call) (fails : Bool) :
    Option World :=
  let w := w.quit (.dialer task)
  let reply (w : World) (e : BrokerError) : Option World :=
    w.stepDialer setup (.answer task (if fails then .error e else .ok ()))
  match call with
  | .dial number =>
    let shown := if fails then Event.refused number
      else Event.dialed number (w.dialer.connections.length + 1)
    reply (w.display .dialer shown) (.connecting "connection refused")
  | .closeConnection c =>
    -- the signal ends before the answer comes, whether closing succeeds or not
    (w.stepDialer setup (.hangUp c)).bind fun w =>
      reply (w.bury c) (.connecting "close failed")
  | .openSession => reply w (.channel "session refused")
  | .pause => w.stepDialer setup (.proceed task)
  | _ => none

def advanceDialer (setup : Setup) (w : World) (task : Nat) : Option World :=
  let owner := Owner.dialer task
  let stopping := (w.quit owner).stepDialer setup (.stop task)
  if w.dialer.isAborted task then (w.quit owner).stepDialer setup (.drop task)
  else
    -- what has come is taken before the end is looked for
    match w.passage? owner with
    | some ⟨_, call, .until due fails⟩ =>
      if due ≤ w.now then w.endConnector setup task call fails else stopping
    | some ⟨_, _, .session _⟩ => none
    | none => (w.stepDialer setup (.proceed task)).or stopping

/-! ## §2 Sessions for transports -/

/-- A transport asks the dialer for a session. -/
def seekSession (setup : Setup) (w : World) (owner : Owner) (call : Call) : World :=
  let task := w.dialer.tasks.length
  ((w.stepDialer setup (.call .session)).getD w).enter owner call (.session task)

/-- The session that a transport has asked for, if the call for it has returned. -/
def session? (w : World) (task : Nat) : Option (Except BrokerError Nat) :=
  match w.dialer.stage? task with
  | some (.returned (.session result)) => some result
  | _ => none

/-! ## §3 Send-handles -/

def beginSink (setup : Setup) (w : World) (owner : Owner) : Publisher.Request → World
  | .openHandle destination =>
    let call := Call.openSink destination w.dialer.generation
    if setup.publisherLinked then w.seekSession setup owner call else w.pass owner call .openSink
  | .send _ e => w.pass owner (.send e) .send
  | .closeHandle destination _ =>
    (w.display .publisher (.closeSink destination)).pass owner .closeSink .closeSink

def onPublisher (setup : Setup) (w : World) : Publisher.Event → World
  | .asked task request => w.beginSink setup (.publisher task) request
  | .logged record => w.display .publisher (.log record)
  | .prepared _ _ | .returned _ _ => w

def stepPublisher (setup : Setup) (w : World) (label : Publisher.Label) : Option World :=
  (Publisher.step setup.publisher w.publisher label).map fun effect =>
    effect.2.foldl (onPublisher setup) { w with publisher := effect.1 }

/-- A message goes to the queue of its destination. -/
def accept (w : World) (e : Envelope) : World :=
  w.deliver e.destination {
    destination := e.destination
    key := e.key
    kind := e.kind
    headers := e.headers
    body := e.body.getD []
    redelivered := false }

def endSink (setup : Setup) (w : World) (task : Nat) (call : Call) (fails : Bool) : Option World :=
  let w := w.quit (.publisher task)
  let reply (w : World) (e : BrokerError) : Option World :=
    w.stepPublisher setup (.answer task (if fails then .error e else .ok ()))
  match call with
  | .openSink destination generation =>
    let opened := { w.display .publisher (.openSink destination) with
      handles := w.handles ++ [⟨destination, generation, false⟩] }
    reply (if fails then w else opened) (.channel "sink refused")
  | .send e =>
    -- the number itself is random, so only its form and its newness can be seen
    let fresh := isEnvelopeId e.id.toList && !w.envelopeIds.contains e.id
    let sent := { w.display .publisher (.send e fresh fails) with
      envelopeIds := e.id :: w.envelopeIds }
    reply (if fails then sent else sent.accept e) (.publishing "send refused")
  | .closeSink => reply w (.channel "sink close failed")
  | _ => none

/-- Whether a send-handle reports closed. -/
def isHandleClosed (setup : Setup) (w : World) (handle : Nat) : Bool :=
  match w.handles[handle]? with
  | some h => h.killed || (setup.publisherLinked && h.generation != w.dialer.generation)
  | none => true

/-- Whether the handle that a call of the publisher would find reports closed. -/
def findsClosed (setup : Setup) (w : World) (task : Nat) : Bool :=
  match w.publisher.tasks[task]? with
  | some (.seeking e _) =>
    ((w.publisher.cache.get? e.destination).map (w.isHandleClosed setup)).getD false
  | _ => false

def advancePublisher (setup : Setup) (w : World) (task : Nat) : Option World :=
  let owner := Owner.publisher task
  match w.passage? owner with
  | some ⟨_, call, .session k⟩ =>
    match w.session? k with
    | some (.ok _) => some ((w.quit owner).pass owner call .openSink)
    | some (.error e) => (w.quit owner).stepPublisher setup (.answer task (.error e))
    -- the call for a session goes on in the name of the one that waits for it
    | none => w.advanceDialer setup k
  | some ⟨_, call, .until due fails⟩ =>
    if due ≤ w.now then w.endSink setup task call fails else none
  | none => w.stepPublisher setup (.proceed task (w.findsClosed setup task))

/-! ## §4 Sources and the handler -/

/-- The gate that a settlement passes. -/
def pointOf : Subscriber.Settlement → Point
  | .ack => .ack
  | .reject => .reject
  | .requeue => .requeue
  | .republish => .republish

/-- What is reported when a settlement fails. -/
def failureOf : Subscriber.Settlement → BrokerError
  | .ack => .acknowledging
  | .reject => .rejecting
  | .requeue => .requeuing
  | .republish => .publishing "copy refused"

/-- The next response of the handler. -/
def nextResponse (setup : Setup) (w : World) : Response × World :=
  match w.responses with
  | [] => (setup.otherwise, w)
  | r :: rest => (r, { w with responses := rest })

def beginSource (setup : Setup) (w : World) (owner : Owner) : Subscriber.Request Stored → World
  | .openSource prefetch =>
    let w := w.display .subscriber (.openSource prefetch)
    let call := Call.openSource none
    if setup.subscriberLinked then w.seekSession setup owner call else w.pass owner call .openSource
  | .handle _ d =>
    let (response, w) := nextResponse setup { w with handled := w.handled + 1 }
    (w.display .subscriber (.handle w.handled d)).enter owner (.handle response.verdict d)
      (.until (w.now + response.delay) false)
  | .settle settlement m d =>
    -- a source without copies gives the message back and says that it has no such operation
    if settlement = .republish ∧ setup.copies = false then
      w.pass owner (.giveBack m (.unsupported "republish")) .requeue
    else w.pass owner (.settle settlement m d) (pointOf settlement)
  | .closeSource => (w.display .subscriber .closeSource).pass owner .closeSource .closeSource
  | .read | .sleep _ => w

def onSubscriber (setup : Setup) (task : Nat) (w : World) : Subscriber.Event Stored → World
  | .asked request => w.beginSource setup (.subscriber task) request
  | .logged record => w.display .subscriber (.log record)
  | .traced _ record => w.display .subscriber (.span record)
  | .returned => w

def stepSubscriber (setup : Setup) (w : World) (task : Nat) (label : Subscriber.Label Stored) :
    Option World :=
  (Subscriber.step setup.subscriber w.instant w.subscriber label).map fun effect =>
    effect.2.foldl (onSubscriber setup task) { w with subscriber := effect.1 }

/-- Something comes to a listening call, if it waits for it. -/
def feed (setup : Setup) (w : World) (task : Nat) (input : Subscriber.Input Stored) :
    Option World :=
  w.stepSubscriber setup task (.input task input)

/-- A message goes back to the queue as it was, marked as delivered before. -/
def putBack (setup : Setup) (w : World) (m : Stored) : World :=
  w.store setup.subscriber.destination ⟨m.id, { m.delivery with redelivered := true }⟩

/-- A copy of a delivery goes to the queue. -/
def putCopy (setup : Setup) (w : World) (d : Delivery) : World :=
  let w := w.deliver setup.subscriber.destination { d with redelivered := false }
  w.display .subscriber (.copy w.latest d.headers)

/-- A settlement has passed its gate. -/
def endSettlement (setup : Setup) (w : World) (task : Nat) (settlement : Subscriber.Settlement)
    (m : Stored) (d : Delivery) (fails : Bool) : Option World :=
  let w := w.display .subscriber (.settled (pointOf settlement) m.id fails)
  if fails then
    -- no copy could be published, so the message is given back before the failure is reported
    if settlement = .republish then
      some (w.pass (.subscriber task) (.giveBack m (failureOf settlement)) .requeue)
    else w.feed setup task (.settled (.error (failureOf settlement)))
  else
    let w := match settlement with
      | .requeue => w.putBack setup m
      | .republish => w.putCopy setup d
      | .ack | .reject => w
    w.feed setup task (.settled (.ok ()))

/-- The transport of the subscriber or the handler answers. -/
def endSource (setup : Setup) (w : World) (task : Nat) (call : Call) (fails : Bool) :
    Option World :=
  let w := w.quit (.subscriber task)
  match call with
  | .openSource connection =>
    if fails then w.feed setup task (.opened (.error (.consuming "source refused")))
    else { w with sessions := w.sessions + 1, source := connection }.feed setup task
      (.opened (.ok ()))
  | .handle verdict d => w.feed setup task (.handled (verdict.result d))
  | .settle settlement m d => w.endSettlement setup task settlement m d fails
  | .giveBack m reason =>
    let w := w.display .subscriber (.settled .requeue m.id fails)
    if fails then w.feed setup task (.settled (.error .requeuing))
    else (w.putBack setup m).feed setup task (.settled (.error reason))
  | .closeSource =>
    w.feed setup task (.closed (if fails then .error (.channel "source close failed") else .ok ()))
  | _ => none

/-- What a source brings when it is read now: what was asked of it, the end if its connection is
dead, or else the first delivery that waits. -/
def read? (setup : Setup) (w : World) :
    Option (Except BrokerError (Option (Delivery × Stored)) × World) :=
  match w.controls with
  | .endOfStream :: rest => some (.ok none, { w with controls := rest })
  | .failure reason :: rest => some (.error (.consuming reason), { w with controls := rest })
  | [] =>
    if (w.source.map w.dead.contains).getD false then some (.ok none, w)
    else
      match w.queue setup.subscriber.destination with
      | [] => none
      | m :: rest =>
        some (.ok (some (m.delivery, m)),
          { w with queues := w.queues.insert setup.subscriber.destination rest })

/-- A listening call that waits for no answer goes on: its turn, the end, the time or a delivery. -/
def resume (setup : Setup) (w : World) (task : Nat) (stage : Subscriber.Stage Stored) :
    Option World :=
  match stage with
  | .queued => w.feed setup task .turn
  | .reading _ _ =>
    ((w.feed setup task .stop).or (w.feed setup task .elapsed)).or
      ((w.read? setup).bind fun found => found.2.feed setup task (.read found.1))
  | _ => (w.feed setup task .elapsed).or (w.feed setup task .stop)

def advanceSubscriber (setup : Setup) (w : World) (task : Nat) : Option World :=
  let owner := Owner.subscriber task
  match w.subscriber.tasks[task]? with
  | some .closing => w.stepSubscriber setup task (.turn task)
  | some (.listening stage) =>
    match w.passage? owner with
    | some ⟨_, _, .session k⟩ =>
      match w.session? k with
      | some (.ok c) => some ((w.quit owner).pass owner (.openSource (some c)) .openSource)
      | some (.error e) => (w.quit owner).feed setup task (.opened (.error e))
      | none => w.advanceDialer setup k
    | some ⟨_, call, .until due fails⟩ =>
      if due ≤ w.now then w.endSource setup task call fails else none
    | none => w.resume setup task stage
  | _ => none

/-! ## §5 All owners -/

/-- The next step of an owner of calls, if it need not wait. -/
def advance (setup : Setup) (w : World) : Owner → Option World
  | .dialer task => w.advanceDialer setup task
  | .publisher task => w.advancePublisher setup task
  | .subscriber task => w.advanceSubscriber setup task
  | .alarm _ => none

/-- What the call of an owner has come to, if it has returned. -/
def outcome? (w : World) : Owner → Option Outcome
  | .dialer task =>
    match w.dialer.stage? task with
    | some (.returned (.done result)) => some (.unit result)
    | some (.returned (.session result)) => some (.session (result.map (· + 1)))
    | some (.returned (.connected held)) => some (.connected held)
    | some .exited => some .nothing
    | _ => none
  | .publisher task =>
    match w.publisher.tasks[task]? with
    | some (.returned result) => some (.unit result)
    | _ => none
  | .subscriber task =>
    match w.subscriber.tasks[task]? with
    | some (.listening .crashed) => some .crashed
    | some (.listening stage) => if stage.isOver then some .listened else none
    | some .closed => some (.unit (.ok ()))
    | _ => none
  | .alarm due => if due ≤ w.now then some .nothing else none

/-- When the call that an owner has in progress ends. -/
def passageDue (w : World) (owner : Owner) : Option Nat :=
  match w.passage? owner with
  | some ⟨_, _, .until due _⟩ => some due
  | _ => none

/-- The point in time that an owner waits for, if it waits for one. -/
def due? (w : World) (owner : Owner) : Option Nat :=
  match w.passage? owner, owner with
  | some ⟨_, _, .until due _⟩, _ => some due
  | some ⟨_, _, .session k⟩, _ => w.passageDue (.dialer k)
  | none, .alarm due => some due
  | none, .subscriber task =>
    match w.subscriber.tasks[task]? with
    | some (.listening (.reading _ deadline)) => some (millisAt deadline)
    | some (.listening (.waiting _ wake)) => some (millisAt wake)
    | some (.listening (.pausing wake)) => some (millisAt wake)
    | _ => none
  | none, _ => none

end Courier.Simulation.World
