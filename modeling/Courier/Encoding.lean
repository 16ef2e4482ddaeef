import Courier.Message

/-!
# Encodings

How the body of a message becomes bytes, and the type of content that these bytes are announced as.
-/

namespace Courier

/-- A way to turn bodies into bytes. -/
structure Encoding where
  contentType : String
  encode : Json → Except BrokerError (List UInt8)

namespace Encoding

/-- Bodies as JSON documents. -/
def json : Encoding where
  contentType := jsonContentType
  encode := fun body => .ok body.renderBytes

/-- Texts as they are, and other bodies as JSON documents. -/
def text : Encoding where
  contentType := textContentType
  encode := fun body =>
    match body with
    | .text s => .ok (Utf8.encode s)
    | other => .ok other.renderBytes

end Encoding

end Courier
