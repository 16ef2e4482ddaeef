import Courier.Kafka.Records

/-!
# Records and deliveries

An envelope is sent as a record of the topic that it is for; a time to live is left out. A delivery
is read from a record: its kind is the one that the headers name, and a key that is no text counts
as none.
-/

namespace Courier.Kafka

/-- What a partition of a topic holds. -/
structure Record where
  topic : String
  key : Option (List UInt8)
  payload : Option (List UInt8)
  headers : Option (List RecordHeader)
deriving DecidableEq, Repr

namespace Record

/-- The record that an envelope is sent as. -/
def ofEnvelope (e : Envelope) : Record where
  topic := e.destination
  key := e.key.map Utf8.encode
  payload := e.body
  headers := some (recordHeaders e)

/-- The delivery that is read from a record. -/
def delivery (r : Record) : Delivery where
  destination := r.topic
  key := r.key.bind fun bytes => (Utf8.decode bytes).toOption
  kind := (headersOf r.headers).get? kindHeader
  headers := headersOf r.headers
  body := r.payload.getD []
  redelivered := false

end Record

end Courier.Kafka
