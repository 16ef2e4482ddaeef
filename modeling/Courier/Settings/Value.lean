import Courier.Binary64
import Courier.Dict
import Courier.Error
import Courier.Text.Blank
import Courier.Text.Lowercase
import Courier.Text.Quoted

/-!
# Values of settings

Settings are environment variables. The text of a variable is a truth value, a whole number or a
binary number if it can be read as one, tried in this order; otherwise it is a list, where a list is
asked for, or a text. A field of a form then accepts the values that can stand for it.
-/

namespace Courier.Settings

/-! ## §1 Binary numbers -/

/-- Splits characters after the digits they begin with. -/
def spanDigits : List Char → List Char × List Char
  | [] => ([], [])
  | c :: rest =>
    if c.isDigit then ((c :: (spanDigits rest).1), (spanDigits rest).2) else ([], c :: rest)

/-- Reads an exponent, given all that follows the digits of a number. -/
def readPower : List Char → Option Int
  | [] => some 0
  | c :: rest =>
    if c = 'e' ∨ c = 'E' then
      match rest with
      | '-' :: digits => (Numeral.readDigits 10 digits).map fun n => -(n : Int)
      | '+' :: digits => (Numeral.readDigits 10 digits).map fun n => (n : Int)
      | digits => (Numeral.readDigits 10 digits).map fun n => (n : Int)
    else none

/-- Reads a number without its sign: digits with an optional point among or around them, and an
optional exponent; or the name of infinity or of what is no number, in any case. -/
def readMagnitude (negative : Bool) (cs : List Char) : Option Float :=
  let name := String.ofList (cs.map Char.toLower)
  if name = "inf" ∨ name = "infinity" then some (Binary64.infinity negative)
  else if name = "nan" then some Binary64.nan
  else
    let (whole, rest) := spanDigits cs
    let (fraction, rest) := match rest with
      | '.' :: more => spanDigits more
      | _ => ([], rest)
    let digits := whole ++ fraction
    match Numeral.readDigits 10 digits, readPower rest with
    | some n, some power => some (Binary64.ofDecimal negative n (power - fraction.length))
    | _, _ => none

def readFloat (s : String) : Option Float :=
  match s.toList with
  | '-' :: rest => readMagnitude true rest
  | '+' :: rest => readMagnitude false rest
  | cs => readMagnitude false cs

/-- A number in a setting is written without an exponent. -/
def floatStyle : Binary64.Style where
  plainFrom := none
  wholePoint := false
  nanText := "NaN"
  infinityText := "inf"

def floatText (x : Float) : String :=
  Binary64.text floatStyle x

/-! ## §2 Values -/

/-- The value of a setting. -/
inductive Value where
  | bool (b : Bool)
  | int (n : Int)
  | float (x : Float)
  | list (parts : List String)
  | text (s : String)

def readBool (s : String) : Option Bool :=
  let small := Text.lowercase s
  if small = "true" then some true
  else if small = "false" then some false
  else none

/-- The value of the text of a variable; `asList` says whether it is a list if it is nothing else. -/
def Value.ofText (asList : Bool) (s : String) : Value :=
  match readBool s with
  | some b => .bool b
  | none =>
    match Numeral.readSigned (1 <<< 63) s with
    | some n => .int n
    | none =>
      match readFloat s with
      | some x => .float x
      | none => if asList then .list (Text.splitAt ',' s) else .text s

/-! ## §3 Variables -/

/-- The last texts of the variables, each at the place of its first setting. -/
def settle : List (String × String) → List (String × String) → List (String × String)
  | done, [] => done
  | done, (name, s) :: rest =>
    if done.any fun p => p.1 = name then
      settle (done.map fun p => if p.1 = name then (name, s) else p) rest
    else settle (done ++ [(name, s)]) rest

/-- The field that a variable sets: its name in small letters, without the section and the
underscore that follows it. -/
def fieldName? (section_ : String) (name : String) : Option String :=
  let lead := (section_ ++ "_").toList
  let small := (Text.lowercase name).toList
  if lead.isPrefixOf small then some (String.ofList (small.drop lead.length)) else none

/-- The values of the fields of a section; `lists` are the fields that may be lists. -/
def load (section_ : String) (lists : List String) (environment : List (String × String)) :
    Dict Value :=
  Dict.ofList ((settle [] environment).filterMap fun p =>
    (fieldName? section_ p.1).map fun field => (field, Value.ofText (lists.contains field) p.2))

/-! ## §4 Fields -/

/-- Why a value cannot stand for a field. -/
inductive Refusal where
  | notNumber (field text : String)
  /-- A negative number where none is expected. -/
  | negative (field : String) (n : Int)
  /-- A number that needs more bits than the field has. -/
  | tooWide (field : String) (n bits : Nat)
  /-- A single value where a list is expected. -/
  | notList (found : String)
  /-- A text that names no variant. -/
  | noVariant (variants text : String)
  /-- A value other than a text where the name of a variant is expected. -/
  | notVariant (variants : String)
deriving DecidableEq, Repr

def Refusal.message : Refusal → String
  | .notNumber field text => "invalid type: string " ++ Text.quoted text
      ++ ", expected an integer for key `" ++ field ++ "` in the environment"
  | .negative field n => "invalid type: 64-bit integer `" ++ Numeral.ofInt n
      ++ "`, expected an unsigned 64 bit or less integer for key `" ++ field
      ++ "` in the environment"
  | .tooWide field n bits => "invalid type: 64-bit unsigned integer `" ++ Numeral.ofNat n
      ++ "`, expected an unsigned " ++ Numeral.ofNat bits ++ " bit integer for key `" ++ field
      ++ "`"
  | .notList found => "invalid type: " ++ found ++ ", expected a sequence"
  | .noVariant variants text =>
      "enum " ++ variants ++ " does not have variant constructor " ++ text
  | .notVariant variants => "value of enum " ++ variants
      ++ " should be represented by either string or table with exactly one key"

def Refusal.toBrokerError (r : Refusal) : BrokerError := .settings r.message

def Value.toText : Value → String
  | .bool true => "true"
  | .bool false => "false"
  | .int n => Numeral.ofInt n
  | .float x => floatText x
  | .list parts => Text.joinWith "," parts
  | .text s => s

def wordNumber? (s : String) : Option Nat :=
  let small := Text.lowercase s
  if small = "true" ∨ small = "on" ∨ small = "yes" then some 1
  else if small = "false" ∨ small = "off" ∨ small = "no" then some 0
  else none

def Value.toUnsigned (field : String) : Value → Except Refusal Nat
  | .bool b => .ok b.toNat
  | .int n => if 0 ≤ n then .ok n.toNat else .error (.negative field n)
  | .float x => .ok x.round.toUInt64.toNat
  | .list parts => .error (.notNumber field (Text.joinWith "," parts))
  | .text s =>
    match wordNumber? s with
    | some n => .ok n
    | none =>
      match Numeral.readUnsigned (1 <<< 64) s with
      | some n => .ok n
      | none => .error (.notNumber field s)

def Value.toSigned (field : String) : Value → Except Refusal Int
  | .bool b => .ok b.toNat
  | .int n => .ok n
  | .float x => .ok x.round.toInt64.toInt
  | .list parts => .error (.notNumber field (Text.joinWith "," parts))
  | .text s =>
    match wordNumber? s with
    | some n => .ok n
    | none =>
      match Numeral.readSigned (1 <<< 63) s with
      | some n => .ok n
      | none => .error (.notNumber field s)

/-- The text of a field, or its default. -/
def textField (values : Dict Value) (field standard : String) : String :=
  match values.get? field with
  | some v => v.toText
  | none => standard

/-- The number of a field of so many bits, or its default. -/
def unsignedField (values : Dict Value) (field : String) (bits standard : Nat) :
    Except Refusal Nat :=
  match values.get? field with
  | none => .ok standard
  | some v =>
    match v.toUnsigned field with
    | .error e => .error e
    | .ok n => if n < 1 <<< bits then .ok n else .error (.tooWide field n bits)

/-- The number with sign of a field, or its default. -/
def signedField (values : Dict Value) (field : String) (standard : Int) : Except Refusal Int :=
  match values.get? field with
  | none => .ok standard
  | some v => v.toSigned field

/-- The parts of a field that is a list, or its default. -/
def listField (values : Dict Value) (field : String) (standard : List String) :
    Except Refusal (List String) :=
  match values.get? field with
  | none => .ok standard
  | some (.list parts) => .ok parts
  | some (.bool b) => .error (.notList ("boolean `" ++ (Value.bool b).toText ++ "`"))
  | some (.int n) => .error (.notList ("integer `" ++ Numeral.ofInt n ++ "`"))
  | some (.float x) => .error (.notList ("floating point `" ++ floatText x ++ "`"))
  | some (.text s) => .error (.notList ("string " ++ Text.quoted s))

/-- The variant that a field names in any case, or its default. -/
def variantField {α : Type} (values : Dict Value) (field variants : String)
    (names : List (String × α)) (standard : α) : Except Refusal α :=
  match values.get? field with
  | none => .ok standard
  | some (.text s) =>
    match names.find? fun p => p.1 = Text.lowercase s with
    | some (_, v) => .ok v
    | none => .error (.noVariant variants s)
  | some _ => .error (.notVariant variants)

end Courier.Settings
