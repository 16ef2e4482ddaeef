import Courier.Error
import Courier.Duration

/-!
# Log records

What a dialer, a publisher and a subscriber report about themselves beside their answers. Records
that are for debugging only are left out.
-/

namespace Courier

/-- How serious a record is. -/
inductive Log.Level where
  | info
  | warn
  | error
deriving DecidableEq, Repr

inductive Log.Value where
  | text (s : String)
  | number (n : Nat)
deriving DecidableEq, Repr

structure Log where
  level : Log.Level
  message : String
  fields : List (String × Log.Value)
deriving DecidableEq, Repr

namespace Log

def destination (d : String) : String × Value := ("destination", .text d)

/-- A field that holds the wording of an error. -/
def reason (message : String) : String × Value := ("error", .text message)

def number (name : String) (n : Nat) : String × Value := (name, .number n)

/-- A field that holds whole milliseconds, of which the last 64 bits are kept. -/
def millis (name : String) (d : Duration) : String × Value :=
  (name, .number (d.totalMillis % (1 <<< 64)))

end Log

end Courier
