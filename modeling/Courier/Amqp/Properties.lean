import Courier.Amqp.Table

/-!
# Properties of a published message

What an AMQP broker is told about an envelope beside its body: the type of the content, the number
of the message, its kind, its table of headers, and after how many milliseconds it expires.
-/

namespace Courier.Amqp

/-- The delivery mode of messages that outlive a restart of the broker. -/
def persistent : Nat := 2

/-- The properties that are set on a published message. -/
structure Properties where
  contentType : String
  messageId : String
  deliveryMode : Nat
  kind : Option String
  expiration : Option String
  headers : Table

/-- The properties of an envelope. Its time to live is given in whole milliseconds. -/
def Properties.ofEnvelope (e : Envelope) : Properties where
  contentType := e.contentType
  messageId := e.id
  deliveryMode := persistent
  kind := e.kind
  expiration := e.ttl.map fun ttl => Numeral.ofNat ttl.totalMillis
  headers := Table.ofHeaders e.headers

end Courier.Amqp
