import Courier.Subscriber.Listen

/-!
# Steps of a subscriber

Any number of calls to listen and to close work on one subscriber. One of them has its turn at a
time, in the order in which they were made; a listening call keeps it until it returns.
-/

namespace Courier

universe u

namespace Subscriber

/-- A call: to listen, or to close. -/
inductive Task (η : Type u) where
  | listening (stage : Stage η)
  /-- A closing call waits for its turn. -/
  | closing
  | closed
deriving DecidableEq, Repr

instance {η : Type u} : Inhabited (Task η) := ⟨.closed⟩

end Subscriber

/-- Whether a subscriber is closed, and the calls that work on it, numbered from zero in the order in
which they were made. -/
structure Subscriber (η : Type u) where
  isClosed : Bool
  lock : Lock
  tasks : List (Subscriber.Task η)
  /-- How many deliveries were taken. -/
  taken : Nat
deriving DecidableEq, Repr

namespace Subscriber

variable {η : Type u}

def new : Subscriber η := ⟨false, Lock.free, [], 0⟩

instance : Inhabited (Subscriber η) := ⟨new⟩

/-- What happens to a subscriber. -/
inductive Label (η : Type u) where
  | listen
  | close
  /-- Something comes to a listening call. -/
  | input (task : Nat) (input : Input η)
  /-- A closing call has its turn. -/
  | turn (task : Nat)
deriving DecidableEq, Repr

def setTask (s : Subscriber η) (task : Nat) (stage : Task η) : Subscriber η :=
  { s with tasks := s.tasks.set task stage }

/-- Whether a listening call is over. -/
def Stage.isOver : Stage η → Bool
  | .returned | .crashed => true
  | _ => false

/-- Whether a stage is the one after a delivery was taken. -/
def Input.takes : Input η → Bool
  | .read (.ok (some _)) => true
  | _ => false

/-- A listening call has come to a stage; its turn passes on if it is over. -/
def advance (s : Subscriber η) (task : Nat) (input : Input η) (stage : Stage η) : Subscriber η :=
  { s with
    lock := if stage.isOver then s.lock.release else s.lock
    taken := if input.takes then s.taken + 1 else s.taken }.setTask task (.listening stage)

/-- What comes of a label at an instant, if it is possible. A step needs the turn. -/
def step (setup : Setup) (now : Instant) (s : Subscriber η) :
    Label η → Option (Subscriber η × List (Event η))
  | .listen =>
    let task := s.tasks.length
    some ({ s with
      lock := s.lock.request task, tasks := s.tasks ++ [Task.listening .queued] }, [])
  | .close =>
    let task := s.tasks.length
    some ({ s with
      -- the signal is given before the turn is waited for
      isClosed := true, lock := s.lock.request task, tasks := s.tasks ++ [Task.closing] }, [])
  | .input task input =>
    if s.lock.isHeldBy task then
      match s.tasks[task]? with
      | some (.listening stage) =>
        -- spans are numbered by the deliveries that were taken
        (setup.listen s.isClosed now (s.taken + 1) stage input).map fun effect =>
          (s.advance task input effect.1, effect.2)
      | _ => none
    else none
  | .turn task =>
    if s.lock.isHeldBy task then
      match s.tasks[task]? with
      | some .closing =>
        some ({ s with lock := s.lock.release }.setTask task .closed, [.returned])
      | _ => none
    else none

end Subscriber

end Courier
