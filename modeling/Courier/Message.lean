import Courier.Dict
import Courier.Duration
import Courier.Error
import Courier.Json.Shape

/-!
# Messages, deliveries and envelopes

A message is what an application publishes, a delivery is what a handler gets, and an envelope is
what goes to a transport: a message after its body was encoded and its headers were completed.
-/

namespace Courier

abbrev Headers := Dict String

/-- The header that holds the number of attempts made at a message. -/
def retryCountHeader : String := "x-retry-count"

/-- The header that holds the type of the content. -/
def contentTypeHeader : String := "content-type"

/-! ## §1 Messages -/

/-- What an application publishes. -/
structure Message where
  destination : String
  key : Option String
  kind : Option String
  headers : Option Headers
  body : Option Json
  ttl : Option Duration
deriving Inhabited

namespace Message

/-- A message to a destination, with nothing else set. -/
def new (destination : String) : Message := ⟨destination, none, none, none, none, none⟩

def setHeader (m : Message) (key value : String) : Message :=
  { m with headers := some ((m.headers.getD Dict.empty).insert key value) }

def setBody (m : Message) (body : Json) : Message :=
  { m with body := some body }

def setText (m : Message) (text : String) : Message :=
  m.setBody (.text text)

end Message

/-! ## §2 Bodies made of other data -/

namespace Json

/-- The text of a value that may name a field: texts, numbers and truth values. -/
def nameText? : Json → Option String
  | .text s => some s
  | .int n => some (Numeral.ofInt n)
  | .float x => some (floatText x)
  | .bool true => some "true"
  | .bool false => some "false"
  | _ => none

/-- The object of pairs whose names may be any values that name a field; the last of several pairs
with one name wins. -/
def ofPairs : List (Json × Json) → Except BrokerError Json :=
  fun pairs =>
    let named : Except BrokerError (List (String × Json)) := pairs.mapM fun p =>
      match nameText? p.1 with
      | some name => .ok (name, p.2)
      | none => .error (.encoding "key must be a string")
    named.map ofFields

def ofInt (n : Int) : Except BrokerError Json :=
  match ofInt? n with
  | some v => .ok v
  | none => .error (.encoding "number out of range")

end Json

/-! ## §3 Deliveries -/

/-- What a handler gets. -/
structure Delivery where
  destination : String
  key : Option String
  kind : Option String
  headers : Headers
  body : List UInt8
  redelivered : Bool
deriving DecidableEq, Repr, Inhabited

namespace Delivery

def header (d : Delivery) (key : String) : Option String :=
  d.headers.get? key

/-- The number of attempts that the headers record; zero if they record none that can be read. -/
def recordedAttempts (d : Delivery) : Nat :=
  match d.header retryCountHeader with
  | some text => (Numeral.readUnsigned (1 <<< 32) text).getD 0
  | none => 0

/-- The delivery with a number of attempts recorded in its headers. -/
def recordAttempts (d : Delivery) (made : Nat) : Delivery :=
  { d with headers := d.headers.insert retryCountHeader (Numeral.ofNat made) }

def text (d : Delivery) : Except BrokerError String :=
  match Utf8.decode d.body with
  | .ok s => .ok s
  | .error e => .error (.decoding e.message)

/-- The body as a JSON document of a form. -/
def json (d : Delivery) (shape : Json.Shape) : Except BrokerError Json :=
  match shape.readAll d.body with
  | .ok v => .ok v
  | .error e => .error (.decoding e.message)

end Delivery

/-! ## §4 Envelopes -/

/-- The type of the content of a JSON body. -/
def jsonContentType : String := "application/json"

/-- The type of the content of a text body. -/
def textContentType : String := "text/plain"

/-- What goes to a transport. -/
structure Envelope where
  id : String
  destination : String
  key : Option String
  kind : Option String
  headers : Headers
  body : Option (List UInt8)
  contentType : String
  ttl : Option Duration
deriving DecidableEq, Repr, Inhabited

end Courier
