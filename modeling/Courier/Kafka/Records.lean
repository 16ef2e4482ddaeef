import Courier.Message

/-!
# Headers of records

A Kafka record has a list of headers, where keys may repeat and values may be missing. What an
envelope says of itself goes first, and the headers of the caller follow. When headers are read, the
last one of a key wins and those without a text are skipped.
-/

namespace Courier.Kafka

/-- The header that holds the kind of a message. -/
def kindHeader : String := "kind"

/-- The header that holds the number of a message. -/
def messageIdHeader : String := "message-id"

structure RecordHeader where
  key : String
  value : Option (List UInt8)
deriving DecidableEq, Repr

namespace RecordHeader

def ofText (key text : String) : RecordHeader := ⟨key, some (Utf8.encode text)⟩

/-- Key and text of a header that has one. -/
def pair? (h : RecordHeader) : Option (String × String) :=
  h.value.bind fun bytes => (Utf8.decode bytes).toOption.map fun text => (h.key, text)

end RecordHeader

/-- The headers that an envelope gives to its record before those of the caller. -/
def ownHeaders (e : Envelope) : List RecordHeader :=
  [.ofText contentTypeHeader e.contentType, .ofText messageIdHeader e.id]
    ++ (e.kind.map (RecordHeader.ofText kindHeader)).toList

def recordHeaders (e : Envelope) : List RecordHeader :=
  ownHeaders e ++ e.headers.toList.map fun p => .ofText p.1 p.2

/-- The headers that the headers of a record hold. -/
def readHeaders (records : List RecordHeader) : Headers :=
  Dict.ofList (records.filterMap RecordHeader.pair?)

/-- The headers of a record that may have none. -/
def headersOf : Option (List RecordHeader) → Headers
  | some records => readHeaders records
  | none => Dict.empty

end Courier.Kafka
