import Courier.Json.Printer
import Courier.Json.Reader
import Courier.Text.Quoted

/-!
# Reading a document of a given form

A `Shape` reads a value of one form and refuses every other one, naming what it found and what it
expected. Shapes are built from those of single values: options, lists, maps and records. The
position of a refusal is the one after the value, or the one before the bracket of a list or object
that is not expected.
-/

namespace Courier.Json

/-- A form of values: how one is read with a given depth allowed, and the value that stands for an
absent field, if a field of this form may be absent. -/
structure Shape where
  read : (depth : Nat) → Reader Json
  absent : Option Json

namespace Shape

/-! ## §1 Refusals -/

/-- A value of the wrong kind. -/
def wrongType (found expected : String) : Fault :=
  .unfit ("invalid type: " ++ found ++ ", expected " ++ expected)

/-- A value of the right kind that is out of range. -/
def wrongValue (found expected : String) : Fault :=
  .unfit ("invalid value: " ++ found ++ ", expected " ++ expected)

def numberName : Number → String
  | .whole n => "integer `" ++ Numeral.ofInt n ++ "`"
  | .binary x => "floating point `" ++ floatText x ++ "`"

/-- Refuses the value at the cursor, which is at its first byte. -/
def refuse (expected : String) (c : Cursor) : ReadError :=
  let found (r : Except ReadError Cursor) (name : String) : ReadError :=
    match r with
    | .error e => e
    | .ok c => c.fault (wrongType name expected)
  match c.rest with
  | [] => c.peekFault .noValue
  | b :: _ =>
    if b = 110 then found ((readWord afterN c.next).map Prod.snd) "null"
    else if b = 116 then found ((readWord afterT c.next).map Prod.snd) "boolean `true`"
    else if b = 102 then found ((readWord afterF c.next).map Prod.snd) "boolean `false`"
    else if b = 45 ∨ (digit? b).isSome then
      match readNumber c with
      | .error e => e
      | .ok (n, c) => c.fault (wrongType (numberName n) expected)
    else if b = 34 then
      match readText c with
      | .error e => e
      | .ok (s, c) => c.fault (wrongType ("string " ++ Text.quoted s) expected)
    else if b = 91 then c.fault (wrongType "sequence" expected)
    else if b = 123 then c.fault (wrongType "map" expected)
    else c.peekFault .noValue

/-- Reads a value from its first byte on, which is found after white space. -/
def atValue {α : Type} (f : UInt8 → Reader α) : Reader α := fun c =>
  let c := c.skipSpaces
  match c.rest with
  | [] => .error (c.peekFault .endInValue)
  | b :: _ => f b c

/-! ## §2 Single values -/

def value : Shape := ⟨readValue, none⟩

def bool : Shape where
  read := fun _ => atValue fun b c =>
    if b = 116 then (readWord afterT c.next).map fun r => (.bool true, r.2)
    else if b = 102 then (readWord afterF c.next).map fun r => (.bool false, r.2)
    else .error (refuse "a boolean" c)
  absent := none

/-- A whole number from `least` to `greatest`, called `name` in refusals. -/
def integer (least greatest : Int) (name : String) : Shape where
  read := fun _ => atValue fun b c =>
    if b = 45 ∨ (digit? b).isSome then
      match readNumber c with
      | .error e => .error e
      | .ok (.whole n, c) =>
        if least ≤ n ∧ n ≤ greatest then .ok (.int n, c)
        else .error (c.fault (wrongValue (numberName (.whole n)) name))
      | .ok (.binary x, c) => .error (c.fault (wrongType (numberName (.binary x)) name))
    else .error (refuse name c)
  absent := none

def text : Shape where
  read := fun _ => atValue fun b c =>
    if b = 34 then (readText c).map fun r => (.text r.1, r.2)
    else .error (refuse "a string" c)
  absent := none

/-- Null, or a value of the given form. -/
def optional (shape : Shape) : Shape where
  read := fun depth c =>
    let c := c.skipSpaces
    if c.sees 110 then (readWord afterN c.next).map fun r => (.null, r.2)
    else shape.read depth c
  absent := some .null

/-! ## §3 Lists, maps and records -/

/-- A list of values of one form. -/
def list (item : Shape) : Shape where
  read := fun depth => atValue fun b c =>
    if b = 91 then
      if depth ≤ 1 then .error (c.peekFault .tooDeep)
      else (readList (item.read (depth - 1)) c).map fun r => (.list r.1, r.2)
    else .error (refuse "a sequence" c)
  absent := none

/-- An object whose fields all have values of one form. -/
def map (item : Shape) : Shape where
  read := fun depth => atValue fun b c =>
    if b = 123 then
      if depth ≤ 1 then .error (c.peekFault .tooDeep)
      else (readObject (item.read (depth - 1)) c).map fun r => (ofFields r.1, r.2)
    else .error (refuse "a map" c)
  absent := none

/-- The position after a list, or where it does not end. -/
def afterList (c : Cursor) : Cursor :=
  match closeList c with
  | .ok c => c
  | .error _ => c.skipSpaces

/-- The position after an object, or where it does not end. -/
def afterObject (c : Cursor) : Cursor :=
  match closeObject c with
  | .ok c => c
  | .error _ => c.skipSpaces

/-- Reads the fields of a record from a list, in their order. -/
def readPositions (name : String) (total depth : Nat) :
    (index : Nat) → List (String × Shape) → Reader (List (String × Json))
  | _, [], c => .ok ([], c)
  | index, (field, shape) :: rest, c =>
    match anotherItem (index == 0) c with
    | .error e => .error e
    | .ok (false, c) =>
      .error ((afterList c).fault (.unfit ("invalid length " ++ Numeral.ofNat index
        ++ ", expected struct " ++ name ++ " with " ++ Numeral.ofNat total ++ " elements")))
    | .ok (true, c) =>
      match shape.read depth c with
      | .error e => .error e
      | .ok (v, c) =>
        match readPositions name total depth (index + 1) rest c with
        | .error e => .error e
        | .ok (more, c) => .ok ((field, v) :: more, c)

def fieldShape? (name : String) : List (String × Shape) → Option Shape
  | [] => none
  | (field, shape) :: rest => if field = name then some shape else fieldShape? name rest

/-- Completes the fields that were found with the values of absent ones. -/
def complete (found : List (String × Json)) : List (String × Shape) →
    Except String (List (String × Json))
  | [] => .ok []
  | (field, shape) :: rest =>
    match Dict.lookupEntry field found, shape.absent with
    | none, none => .error field
    | some v, _ => (complete found rest).map fun more => (field, v) :: more
    | none, some v => (complete found rest).map fun more => (field, v) :: more

/-- Reads the fields of a record by their names. Fields of other names are passed over. -/
def readNames (depth : Nat) (fields : List (String × Shape)) :
    (fuel : Nat) → (first : Bool) → (found : List (String × Json)) → Reader (List (String × Json))
  | 0, _, _, c => .error (c.fault .endInObject)
  | fuel + 1, first, found, c =>
    match anotherField first c with
    | .error e => .error e
    | .ok (false, c) =>
      match complete found fields with
      | .ok all => .ok (all, c)
      | .error field => .error ((afterObject c).fault (.unfit ("missing field `" ++ field ++ "`")))
    | .ok (true, c) =>
      match readText c with
      | .error e => .error e
      | .ok (name, c) =>
        match fieldShape? name fields with
        | none =>
          match readColon c with
          | .error e => .error e
          | .ok c =>
            match skipValue c with
            | .error e => .error e
            | .ok c => readNames depth fields fuel false found c
        | some shape =>
          if (Dict.lookupEntry name found).isSome then
            .error ((afterObject c).fault (.unfit ("duplicate field `" ++ name ++ "`")))
          else
            match readColon c with
            | .error e => .error e
            | .ok c =>
              match shape.read depth c with
              | .error e => .error e
              | .ok (v, c) => readNames depth fields fuel false ((name, v) :: found) c

/-- A record: an object with the named fields, or a list of their values. -/
def record (name : String) (fields : List (String × Shape)) : Shape where
  read := fun depth => atValue fun b c =>
    if b = 91 then
      if depth ≤ 1 then .error (c.peekFault .tooDeep)
      else
        match readPositions name fields.length (depth - 1) 0 fields c.next with
        | .error e => .error e
        | .ok (values, c) => (closeList c).map fun c => (ofFields values, c)
    else if b = 123 then
      if depth ≤ 1 then .error (c.peekFault .tooDeep)
      else
        match readNames (depth - 1) fields (c.rest.length + 1) true [] c.next with
        | .error e => .error e
        | .ok (values, c) => (closeObject c).map fun c => (ofFields values, c)
    else .error (refuse ("struct " ++ name) c)
  absent := none

def readAll (shape : Shape) (bytes : List UInt8) : Except ReadError Json :=
  readDocument (shape.read allowedDepth) bytes

end Shape

end Courier.Json
