import Courier.Amqp.Table

/-!
# Declaration of queues

A subscriber may own the queue that it consumes from. Its declaration says whether the queue outlives
a restart of the broker, how long messages are kept in it and which exchanges it is bound to.
-/

namespace Courier.Amqp

/-- The argument that holds how long messages are kept. -/
def messageTtlArgument : String := "x-message-ttl"

/-- How a queue is declared. -/
structure QueueDeclaration where
  durable : Bool
  ttl : Option Duration
  bindings : List (String × String)
deriving DecidableEq, Repr

namespace QueueDeclaration

/-- A queue that is lost with the broker, keeps messages for ever and is bound to nothing. -/
def standard : QueueDeclaration := ⟨false, none, []⟩

def setDurable (d : QueueDeclaration) : QueueDeclaration := { d with durable := true }

def setTtl (d : QueueDeclaration) (ttl : Duration) : QueueDeclaration := { d with ttl := some ttl }

def bind (d : QueueDeclaration) (exchange routingKey : String) : QueueDeclaration :=
  { d with bindings := d.bindings ++ [(exchange, routingKey)] }

/-- The greatest number of milliseconds that an argument can hold. -/
def greatestMillis : Nat := (1 <<< 31) - 1

/-- The arguments of the declaration. A time that is too long becomes the longest one. -/
def arguments (d : QueueDeclaration) : Table :=
  match d.ttl with
  | some ttl =>
    Dict.empty.insert messageTtlArgument
      (.longInt (Int32.ofNat (min ttl.totalMillis greatestMillis)))
  | none => Dict.empty

end QueueDeclaration

end Courier.Amqp
