import Courier.Dict

/-!
# JSON values

A value is null, a truth value, a number, a text, a list or an object. Whole numbers from `-2 ^ 63`
to `2 ^ 64 - 1` are kept exactly; every other number is a binary one. The fields of an object are in
the order of their names, one field a name: `Json.ofFields` brings them into that form.
-/

namespace Courier

/-- A JSON value. -/
inductive Json where
  | null
  | bool (b : Bool)
  | int (n : Int)
  | float (x : Float)
  | text (s : String)
  | list (items : List Json)
  | object (fields : List (String × Json))
deriving Inhabited

namespace Json

/-! ## §1 Construction -/

/-- The object of the fields, in the order of their names; the last of several fields with one name
wins. -/
def ofFields (fields : List (String × Json)) : Json :=
  .object (Dict.ofList fields).toList

def ofTexts (d : Dict String) : Json :=
  .object (d.toList.map fun p => (p.1, .text p.2))

def ofText? : Option String → Json
  | some s => .text s
  | none => .null

/-- The least whole number that a value keeps exactly. -/
def leastInt : Int := -(1 <<< 63)

/-- The greatest whole number that a value keeps exactly. -/
def greatestInt : Int := (1 <<< 64) - 1

/-- A whole number, if a value can keep it exactly. -/
def ofInt? (n : Int) : Option Json :=
  if leastInt ≤ n ∧ n ≤ greatestInt then some (.int n) else none

/-- A binary number; what is not finite becomes null. -/
def ofFloat (x : Float) : Json :=
  if x.isFinite then .float x else .null

/-! ## §2 Views -/

def field? (name : String) : Json → Option Json
  | .object fields => Dict.lookupEntry name fields
  | _ => none

def text? : Json → Option String
  | .text s => some s
  | _ => none

def int? : Json → Option Int
  | .int n => some n
  | _ => none

def bool? : Json → Option Bool
  | .bool b => some b
  | _ => none

def items? : Json → Option (List Json)
  | .list items => some items
  | _ => none

def fields? : Json → Option (List (String × Json))
  | .object fields => some fields
  | _ => none

def isNull : Json → Bool
  | .null => true
  | _ => false

end Json

end Courier
