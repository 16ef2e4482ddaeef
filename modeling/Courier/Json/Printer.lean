import Courier.Binary64
import Courier.Json.Basic
import Courier.Text.Utf8

/-!
# The text of a JSON value

Values are written without spaces. In a text the quote, the backslash and the controls are escaped
and nothing else; binary numbers are written in the fewest digits that are read back, with a point
or an exponent.
-/

namespace Courier.Json

/-! ## §1 Numbers and texts -/

/-- Digits stand around a point if the first of them counts at least `10 ^ -5` and less than
`10 ^ 16`, and a whole number ends in a point and a zero. -/
def floatStyle : Binary64.Style where
  plainFrom := some (-5, 16)
  wholePoint := true
  nanText := "null"
  infinityText := "null"

def floatText (x : Float) : String :=
  Binary64.text floatStyle x

/-- A character as it stands in a written text. -/
def escapedChar (c : Char) : List Char :=
  if c = '\x22' then ['\\', '\x22']
  else if c = '\\' then ['\\', '\\']
  else if c = '\x08' then ['\\', 'b']
  else if c = '\x0c' then ['\\', 'f']
  else if c = '\n' then ['\\', 'n']
  else if c = '\x0d' then ['\\', 'r']
  else if c = '\t' then ['\\', 't']
  else if c.toNat < 32 then ['\\', 'u'] ++ Numeral.hexDigits 4 c.toNat
  else [c]

/-- A text between quotes. -/
def textChars (s : String) : List Char :=
  '\x22' :: s.toList.flatMap escapedChar ++ ['\x22']

/-! ## §2 Values -/

mutual

def chars : Json → List Char
  | .null => ['n', 'u', 'l', 'l']
  | .bool true => ['t', 'r', 'u', 'e']
  | .bool false => ['f', 'a', 'l', 's', 'e']
  | .int n => (Numeral.ofInt n).toList
  | .float x => (floatText x).toList
  | .text s => textChars s
  | .list items => '[' :: itemsChars items ++ [']']
  | .object fields => '\x7b' :: fieldsChars fields ++ ['\x7d']

def itemsChars : List Json → List Char
  | [] => []
  | v :: rest => chars v ++ moreItemsChars rest

def moreItemsChars : List Json → List Char
  | [] => []
  | v :: rest => ',' :: chars v ++ moreItemsChars rest

def fieldsChars : List (String × Json) → List Char
  | [] => []
  | (name, v) :: rest => textChars name ++ ':' :: chars v ++ moreFieldsChars rest

def moreFieldsChars : List (String × Json) → List Char
  | [] => []
  | (name, v) :: rest => ',' :: textChars name ++ ':' :: chars v ++ moreFieldsChars rest

end

/-- The text of a value. -/
def render (v : Json) : String :=
  String.ofList (chars v)

def renderBytes (v : Json) : List UInt8 :=
  Utf8.encodeChars (chars v)

end Courier.Json
