import Courier.Settings.Brokers

/-!
# Kafka clients

The settings of the clients that publish and consume, the reports of clients that mean that the
cluster is out of reach, and the position from which a group goes on reading.
-/

namespace Courier.Kafka

/-! ## §1 Settings -/

def producerSettings (s : Settings.Kafka) : Dict String :=
  Dict.ofList [
    ("bootstrap.servers", s.bootstrapServers),
    ("client.id", s.clientId),
    ("message.timeout.ms", Numeral.ofNat s.messageTimeoutMs)]

/-- The settings of a client that consumes and has so many records in flight. Positions are
committed by hand. -/
def consumerSettings (s : Settings.Kafka) (prefetch : Nat) : Dict String :=
  Dict.ofList [
    ("bootstrap.servers", s.bootstrapServers),
    ("client.id", s.clientId),
    ("group.id", s.groupId),
    ("enable.auto.commit", "false"),
    ("auto.offset.reset", "earliest"),
    ("session.timeout.ms", Numeral.ofNat s.sessionTimeoutMs),
    ("queued.min.messages", Numeral.ofNat (max prefetch 1))]

/-! ## §2 Reports -/

/-- The code of a report that means that the whole cluster is out of reach. -/
def allBrokersDown : String := "AllBrokersDown"

/-- The failure of the connection that a report of a client stands for, if it stands for one. -/
def failureOfReport (code : Option String) (reason : String) : Option BrokerError :=
  if code = some allBrokersDown then some (.connectionLost reason) else none

/-! ## §3 Positions -/

/-- Where a delivery stands in its topic. -/
structure Handle where
  partition : Int
  offset : Int
deriving DecidableEq, Repr

def greatestOffset : Int := (1 <<< 63) - 1

/-- What an attempt to move a position comes to. -/
inductive Position where
  | at (topic : String) (partition offset : Int)
  | refused (error : BrokerError)
  /-- The next offset is out of range. -/
  | overflow
deriving DecidableEq, Repr

/-- The position right after a delivery, from which the group goes on reading. -/
def nextPosition (topic : String) (h : Handle) : Position :=
  if h.offset = greatestOffset then .overflow
  else if h.offset + 1 < 0 then
    .refused (.consuming ("Set partition offset error: InvalidArgument "
      ++ "(Local: Invalid argument or configuration)"))
  else .at topic h.partition (h.offset + 1)

def overflowMessage : String := "attempt to add with overflow"

end Courier.Kafka
