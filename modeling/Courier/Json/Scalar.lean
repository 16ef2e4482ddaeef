import Courier.Binary64
import Courier.Json.Cursor
import Courier.Text.Utf8

/-!
# Reading words, numbers and texts

The parts of JSON without nesting. A number is whole if it has neither point nor exponent and fits
64 bits with or without sign; any other number is read as digits that fit 64 bits and a power of ten,
and costs one multiplication or division of binary numbers. The bytes of a text have to be UTF-8.
-/

namespace Courier.Json

/-! ## §1 Words -/

/-- Reads the rest of a word. -/
def readWord : List UInt8 → Reader Unit
  | [], c => .ok ((), c)
  | expected :: more, c =>
    match c.rest with
    | [] => .error (c.fault .endInValue)
    | b :: _ => if b = expected then readWord more c.next else .error (c.next.fault .badWord)

/-- The bytes of `ull`. -/
def afterN : List UInt8 := [117, 108, 108]

/-- The bytes of `rue`. -/
def afterT : List UInt8 := [114, 117, 101]

/-- The bytes of `alse`. -/
def afterF : List UInt8 := [97, 108, 115, 101]

/-! ## §2 Numbers -/

/-- A number as it was written. -/
inductive Number where
  | whole (n : Int)
  | binary (x : Float)

def digit? (b : UInt8) : Option Nat :=
  if 48 ≤ b ∧ b ≤ 57 then some (b.toNat - 48) else none

/-- The greatest number of 64 bits without sign. -/
def maxSignificand : Nat := (1 <<< 64) - 1

/-- The greatest power of ten that is multiplied or divided by at once. -/
def maxPower : Nat := 308

/-- The greatest exponent that is counted. -/
def maxExponent : Nat := (1 <<< 31) - 1

/-- `f * 10 ^ exponent`, or `none` if that is too great: one multiplication or division, after
divisions by the greatest power while the exponent is out of reach. -/
def scaled : (fuel : Nat) → Float → (exponent : Int) → Option Float
  | 0, f, _ => some f
  | fuel + 1, f, exponent =>
    if exponent.natAbs ≤ maxPower then
      let power := Binary64.ofDecimal false 1 exponent.natAbs
      if 0 ≤ exponent then
        let product := f * power
        if product.isInf then none else some product
      else some (f / power)
    else if f == 0.0 then some f
    else if 0 ≤ exponent then none
    else scaled fuel (f / Binary64.ofDecimal false 1 maxPower) (exponent + (maxPower : Int))

/-- The binary number of a sign, digits and an exponent. -/
def binaryNumber (negative : Bool) (significand : Nat) (exponent : Int) : Reader Number := fun c =>
  match scaled 8 (UInt64.ofNat significand).toFloat exponent with
  | some f => .ok (.binary (if negative then -f else f), c)
  | none => .error (c.fault .numberTooGreat)

def skipDigits : (fuel : Nat) → Cursor → Cursor
  | 0, c => c
  | fuel + 1, c =>
    match c.peek?.bind digit? with
    | some _ => skipDigits fuel c.next
    | none => c

/-- Reads the digits of an exponent after those whose value is `exp`. -/
def readExponentDigits (negative : Bool) (significand : Nat) (starting : Int) (up : Bool) :
    (fuel : Nat) → (exp : Nat) → Reader Number
  | 0, _, c => .error (c.fault .badNumber)
  | fuel + 1, exp, c =>
    match c.peek?.bind digit? with
    | some d =>
      let c := c.next
      -- an exponent out of all range: zero stays zero, and a small number becomes zero
      if maxExponent < exp * 10 + d then
        if significand ≠ 0 ∧ up then .error (c.fault .numberTooGreat)
        else .ok (.binary (if negative then -0.0 else 0.0), skipDigits c.rest.length c)
      else readExponentDigits negative significand starting up fuel (exp * 10 + d) c
    | none =>
      binaryNumber negative significand (if up then starting + exp else starting - exp) c

/-- Reads an exponent, the cursor being at its letter. -/
def readExponent (negative : Bool) (significand : Nat) (starting : Int) : Reader Number := fun c =>
  let c := c.next
  let (up, c) :=
    if c.sees 43 then (true, c.next) else if c.sees 45 then (false, c.next) else (true, c)
  match c.rest with
  | [] => .error (c.fault .endInValue)
  | b :: _ =>
    match digit? b with
    | some d => readExponentDigits negative significand starting up (c.rest.length + 1) d c.next
    | none => .error (c.next.fault .badNumber)

def seesExponent (c : Cursor) : Bool := c.sees 101 || c.sees 69

/-- Reads what may follow digits of a number with a point. -/
def readAfterFraction (negative : Bool) (significand : Nat) (exponent : Int) : Reader Number :=
  fun c =>
    if seesExponent c then readExponent negative significand exponent c
    else binaryNumber negative significand exponent c

/-- Reads the digits after a point, those that fit. -/
def readFractionDigits (negative : Bool) (before : Int) :
    (fuel : Nat) → (significand : Nat) → (after : Nat) → Reader Number
  | 0, _, _, c => .error (c.fault .badNumber)
  | fuel + 1, significand, after, c =>
    match c.peek?.bind digit? with
    | some d =>
      -- further digits are passed over and make no difference
      if maxSignificand < significand * 10 + d then
        readAfterFraction negative significand (before - after) (skipDigits c.rest.length c)
      else readFractionDigits negative before fuel (significand * 10 + d) (after + 1) c.next
    | none =>
      if after = 0 then
        match c.rest with
        | [] => .error (c.peekFault .endInValue)
        | _ :: _ => .error (c.peekFault .badNumber)
      else readAfterFraction negative significand (before - after) c

/-- Reads a point and the digits after it. -/
def readFraction (negative : Bool) (significand : Nat) (before : Int) : Reader Number := fun c =>
  let c := c.next
  readFractionDigits negative before (c.rest.length + 1) significand 0 c

/-- The whole number of a sign and digits. A negative one that does not fit 64 bits, or is zero, is
binary. -/
def wholeNumber (negative : Bool) (significand : Nat) : Number :=
  if negative then
    if significand = 0 ∨ 1 <<< 63 < significand then .binary (-(UInt64.ofNat significand).toFloat)
    else .whole (-(significand : Int))
  else .whole significand

/-- Reads what may follow the digits of a whole number. -/
def readAfterDigits (negative : Bool) (significand : Nat) : Reader Number := fun c =>
  if c.sees 46 then readFraction negative significand 0 c
  else if seesExponent c then readExponent negative significand 0 c
  else .ok (wholeNumber negative significand, c)

/-- Counts the digits of a whole number that do not fit any more. -/
def readLongDigits (negative : Bool) (significand : Nat) :
    (fuel : Nat) → (count : Nat) → Reader Number
  | 0, _, c => .error (c.fault .badNumber)
  | fuel + 1, count, c =>
    match c.peek?.bind digit? with
    | some _ => readLongDigits negative significand fuel (count + 1) c.next
    | none =>
      if c.sees 46 then readFraction negative significand count c
      else if seesExponent c then readExponent negative significand count c
      else binaryNumber negative significand count c

/-- Reads the digits of a whole number after those whose value is `significand`. -/
def readWholeDigits (negative : Bool) : (fuel : Nat) → (significand : Nat) → Reader Number
  | 0, _, c => .error (c.fault .badNumber)
  | fuel + 1, significand, c =>
    match c.peek?.bind digit? with
    | some d =>
      if maxSignificand < significand * 10 + d then
        readLongDigits negative significand (c.rest.length + 1) 0 c
      else readWholeDigits negative fuel (significand * 10 + d) c.next
    | none => readAfterDigits negative significand c

def readUnsignedNumber (negative : Bool) : Reader Number := fun c =>
  match c.rest with
  | [] => .error (c.fault .endInValue)
  | b :: _ =>
    match digit? b with
    | none => .error (c.next.fault .badNumber)
    | some 0 =>
      match c.next.peek?.bind digit? with
      | some _ => .error (c.next.peekFault .badNumber)
      | none => readAfterDigits negative 0 c.next
    | some d => readWholeDigits negative (c.rest.length + 1) d c.next

/-- Reads a number, the cursor being at its sign or its first digit. -/
def readNumber : Reader Number := fun c =>
  if c.sees 45 then readUnsignedNumber true c.next else readUnsignedNumber false c

/-! ## §3 Texts -/

def hexDigit? (b : UInt8) : Option Nat :=
  Numeral.digitValue? 16 (Char.ofNat b.toNat)

def readHexFour : Reader Nat := fun c =>
  match c.rest with
  | a :: b :: d :: e :: _ =>
    match hexDigit? a, hexDigit? b, hexDigit? d, hexDigit? e with
    | some x, some y, some z, some w => .ok (((x * 16 + y) * 16 + z) * 16 + w, c.skip 4)
    | _, _, _, _ => .error ((c.skip 4).fault .badEscape)
  | short => .error ((c.skip short.length).fault .endInText)

/-- Whether a number is the first half of a pair. -/
def isHighSurrogate (n : Nat) : Bool := 0xD800 ≤ n && n ≤ 0xDBFF

/-- Whether a number is the second half of a pair. -/
def isLowSurrogate (n : Nat) : Bool := 0xDC00 ≤ n && n ≤ 0xDFFF

def expectInPair (expected : UInt8) : Reader Unit := fun c =>
  match c.rest with
  | [] => .error (c.fault .endInText)
  | b :: _ => if b = expected then .ok ((), c.next) else .error (c.next.fault .cutSurrogate)

/-- Reads a character by its number, after the letter `u`. -/
def readCodeEscape : Reader Char := fun c =>
  match readHexFour c with
  | .error e => .error e
  | .ok (n, c) =>
    if isLowSurrogate n then .error (c.fault .loneSurrogate)
    else if !isHighSurrogate n then .ok (Char.ofNat n, c)
    else
      match expectInPair 92 c with
      | .error e => .error e
      | .ok (_, c) =>
        match expectInPair 117 c with
        | .error e => .error e
        | .ok (_, c) =>
          match readHexFour c with
          | .error e => .error e
          | .ok (m, c) =>
            if isLowSurrogate m then
              .ok (Char.ofNat ((n - 0xD800) * 0x400 + (m - 0xDC00) + 0x10000), c)
            else .error (c.fault .loneSurrogate)

/-- The character of a short escape. -/
def shortEscape? (b : UInt8) : Option Char :=
  if b = 34 then some '\x22'
  else if b = 92 then some '\\'
  else if b = 47 then some '/'
  else if b = 98 then some '\x08'
  else if b = 102 then some '\x0c'
  else if b = 110 then some '\n'
  else if b = 114 then some '\x0d'
  else if b = 116 then some '\t'
  else none

/-- Reads an escape after its backslash. -/
def readEscape : Reader Char := fun c =>
  match c.rest with
  | [] => .error (c.fault .endInText)
  | b :: _ =>
    if b = 117 then readCodeEscape c.next
    else
      match shortEscape? b with
      | some ch => .ok (ch, c.next)
      | none => .error (c.next.fault .badEscape)

/-- The characters of the bytes `chunk`, nearest first, that were read from `start` on. -/
def chunkChars (start : Cursor) (chunk : List UInt8) : Except ReadError (List Char) :=
  match Utf8.decodeChars chunk.reverse with
  | .ok cs => .ok cs
  | .error e => .error ⟨.badCodePoint, start.line, start.column + e.validUpTo + 1⟩

/-- Reads a text after its opening quote. `done` holds the parts before `start`, and `chunk` the
bytes since then, nearest first. -/
def readTextFrom : (fuel : Nat) → (done : List Char) → (start : Cursor) → (chunk : List UInt8) →
    Reader (List Char)
  | 0, _, _, _, c => .error (c.fault .endInText)
  | fuel + 1, done, start, chunk, c =>
    match c.rest with
    | [] => .error (c.fault .endInText)
    | b :: _ =>
      if b = 34 then
        match chunkChars start chunk with
        | .ok cs => .ok (done ++ cs, c.next)
        | .error e => .error e
      else if b = 92 then
        match chunkChars start chunk with
        | .error e => .error e
        | .ok cs =>
          match readEscape c.next with
          | .error e => .error e
          | .ok (ch, c) => readTextFrom fuel (done ++ cs ++ [ch]) c [] c
      else if b < 32 then .error (c.next.fault .controlInText)
      else readTextFrom fuel done start (b :: chunk) c.next

def readText : Reader String := fun c =>
  match readTextFrom (c.rest.length + 1) [] c.next [] c.next with
  | .ok (cs, c) => .ok (String.ofList cs, c)
  | .error e => .error e

end Courier.Json
