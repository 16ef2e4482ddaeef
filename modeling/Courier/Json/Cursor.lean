import Courier.Text.Numeral

/-!
# Reading positions

Where a reader of JSON stands, and what it reports. A position is a line, counted from one, and the
number of bytes already read on it. Some faults are reported at the last byte read, others at the
byte that comes next.
-/

namespace Courier.Json

/-! ## §1 Faults -/

/-- What is wrong with a text that should be JSON. -/
inductive Fault where
  | endInList
  | endInObject
  | endInText
  | endInValue
  | noColon
  | noListComma
  | noObjectComma
  | badWord
  | noValue
  | badEscape
  | badNumber
  | numberTooGreat
  | badCodePoint
  | controlInText
  | keyNotText
  | loneSurrogate
  | cutSurrogate
  | trailingComma
  | trailingCharacters
  | tooDeep
  /-- The value is well formed and not of the form that is asked for. -/
  | unfit (reason : String)
deriving DecidableEq, Repr

def Fault.message : Fault → String
  | .endInList => "EOF while parsing a list"
  | .endInObject => "EOF while parsing an object"
  | .endInText => "EOF while parsing a string"
  | .endInValue => "EOF while parsing a value"
  | .noColon => "expected `:`"
  | .noListComma => "expected `,` or `]`"
  | .noObjectComma => "expected `,` or `\x7d`"
  | .badWord => "expected ident"
  | .noValue => "expected value"
  | .badEscape => "invalid escape"
  | .badNumber => "invalid number"
  | .numberTooGreat => "number out of range"
  | .badCodePoint => "invalid unicode code point"
  | .controlInText => "control character (\\u0000-\\u001F) found while parsing a string"
  | .keyNotText => "key must be a string"
  | .loneSurrogate => "lone leading surrogate in hex escape"
  | .cutSurrogate => "unexpected end of hex escape"
  | .trailingComma => "trailing comma"
  | .trailingCharacters => "trailing characters"
  | .tooDeep => "recursion limit exceeded"
  | .unfit reason => reason

/-- A fault and where it was found. -/
structure ReadError where
  fault : Fault
  line : Nat
  column : Nat
deriving DecidableEq, Repr

def ReadError.message (e : ReadError) : String :=
  e.fault.message ++ " at line " ++ Numeral.ofNat e.line ++ " column " ++ Numeral.ofNat e.column

/-! ## §2 Cursors -/

/-- The bytes that are left, and the position after the last byte read. -/
structure Cursor where
  rest : List UInt8
  line : Nat
  column : Nat
deriving DecidableEq, Repr

def lineFeed : UInt8 := 10

namespace Cursor

def start (bytes : List UInt8) : Cursor := ⟨bytes, 1, 0⟩

def next (c : Cursor) : Cursor :=
  match c.rest with
  | [] => c
  | b :: rest => if b = lineFeed then ⟨rest, c.line + 1, 0⟩ else ⟨rest, c.line, c.column + 1⟩

def skip (c : Cursor) : Nat → Cursor
  | 0 => c
  | n + 1 => c.next.skip n

def peek? (c : Cursor) : Option UInt8 := c.rest.head?

def sees (c : Cursor) (b : UInt8) : Bool := c.rest.head? == some b

/-- A fault at the last byte read. -/
def fault (c : Cursor) (f : Fault) : ReadError := ⟨f, c.line, c.column⟩

/-- A fault at the byte that comes next. -/
def peekFault (c : Cursor) (f : Fault) : ReadError := c.next.fault f

/-- Whether a byte is a space, a tab, a line feed or a carriage return. -/
def isSpace (b : UInt8) : Bool := b == 32 || b == 9 || b == 10 || b == 13

/-- Skips white space, given the bytes and the position. -/
def skipSpacesFrom : List UInt8 → (line column : Nat) → Cursor
  | [], line, column => ⟨[], line, column⟩
  | b :: rest, line, column =>
    if isSpace b then
      if b = lineFeed then skipSpacesFrom rest (line + 1) 0
      else skipSpacesFrom rest line (column + 1)
    else ⟨b :: rest, line, column⟩

def skipSpaces (c : Cursor) : Cursor :=
  skipSpacesFrom c.rest c.line c.column

end Cursor

/-- A reader of `α`: a value and the position after it, or a fault. -/
abbrev Reader (α : Type) := Cursor → Except ReadError (α × Cursor)

end Courier.Json
