import Courier.Message

/-!
# Field tables

The headers of an AMQP message are a table of typed values. Headers are written as long strings;
every scalar value is read back as text, and values without a text form are skipped.
-/

namespace Courier.Amqp

/-! ## §1 Values -/

/-- A typed value of a table. Binary numbers are given by their bits. -/
inductive Value where
  | boolean (b : Bool)
  | shortShortInt (n : Int8)
  | shortShortUInt (n : UInt8)
  | shortInt (n : Int16)
  | shortUInt (n : UInt16)
  | longInt (n : Int32)
  | longUInt (n : UInt32)
  | longLongInt (n : Int64)
  | float (bits : UInt32)
  | double (bits : UInt64)
  | decimal (scale : UInt8) (n : UInt32)
  | shortString (s : String)
  | longString (bytes : List UInt8)
  | array (items : List Value)
  | timestamp (seconds : UInt64)
  | table (entries : List (String × Value))
  | byteArray (bytes : List UInt8)
  | void
deriving Inhabited

/-- The text of a scalar value. A long string has one if it is UTF-8. -/
def Value.text? : Value → Option String
  | .boolean true => some "true"
  | .boolean false => some "false"
  | .shortShortInt n => some (Numeral.ofInt n.toInt)
  | .shortShortUInt n => some (Numeral.ofNat n.toNat)
  | .shortInt n => some (Numeral.ofInt n.toInt)
  | .shortUInt n => some (Numeral.ofNat n.toNat)
  | .longInt n => some (Numeral.ofInt n.toInt)
  | .longUInt n => some (Numeral.ofNat n.toNat)
  | .longLongInt n => some (Numeral.ofInt n.toInt)
  | .timestamp n => some (Numeral.ofNat n.toNat)
  | .shortString s => some s
  | .longString bytes => (Utf8.decode bytes).toOption
  | .float _ | .double _ | .decimal _ _ | .array _ | .table _ | .byteArray _ | .void => none

/-! ## §2 Tables -/

abbrev Table := Dict Value

namespace Table

/-- The table of headers: every one of them is a long string. -/
def ofHeaders (headers : Headers) : Table :=
  headers.map fun _ s => .longString (Utf8.encode s)

/-- The headers that a table holds: its scalar values as texts. -/
def toHeaders (t : Table) : Headers :=
  t.filterMap fun _ v => v.text?

/-- The headers of a message, which may have no table. -/
def headersOf : Option Table → Headers
  | some t => t.toHeaders
  | none => Dict.empty

end Table

end Courier.Amqp
