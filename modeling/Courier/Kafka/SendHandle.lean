import Courier.Dialer.Basic
import Courier.Settings.Brokers

/-!
# Send-handles for topics

All send-handles share the producer of the connection that a dialer holds. A handle keeps the
generation that the dialer had before its session was opened, and it is closed once the dialer has
another one.
-/

namespace Courier.Kafka

/-- A handle that sends to one topic. -/
structure SendHandle where
  /-- The connection with whose producer the handle sends. -/
  connection : Nat
  topic : String
  /-- How long the handle waits for the report on a record. -/
  timeout : Duration
  generation : Nat
deriving DecidableEq, Repr

/-- What comes of opening a handle: the generation is read first, and then a session is opened. -/
def openHandle (settings : Settings.Kafka) (topic : String) (generation : Nat)
    (session : Except BrokerError Nat) : Except BrokerError SendHandle :=
  session.map fun c => ⟨c, topic, settings.messageTimeout, generation⟩

/-- Whether the dialer has replaced the connection on which the handle was opened. -/
def SendHandle.isClosed (h : SendHandle) (d : Dialer) : Bool :=
  d.generation != h.generation

end Courier.Kafka
