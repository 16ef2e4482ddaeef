/-!
# Bytes as text

The UTF-8 form of a text, and its reading. Reading stops at the first character that is malformed
and says where it begins and how many of its bytes rule it out, or that the bytes end within it.
-/

namespace Courier.Utf8

/-- The first place where bytes are not UTF-8: the number of bytes before it, and the number of
bytes that are at fault there, or `none` if the bytes end within a character. -/
structure Malformed where
  validUpTo : Nat
  badLength : Option Nat
deriving DecidableEq, Repr

/-- What a malformed place is reported as. -/
def Malformed.message (e : Malformed) : String :=
  match e.badLength with
  | some n => "invalid utf-8 sequence of " ++ toString n ++ " bytes from index "
      ++ toString e.validUpTo
  | none => "incomplete utf-8 byte sequence from index " ++ toString e.validUpTo

/-! ## §1 One character -/

/-- The outcome of reading one character. -/
inductive Scan where
  /-- A character, and the bytes after it. -/
  | char (c : Char) (rest : List UInt8)
  /-- The first `length` bytes begin no character. -/
  | bad (length : Nat)
  /-- The bytes end within a character. -/
  | cut
deriving Repr

/-- Whether a byte continues a character. -/
def isTail (b : UInt8) : Bool := 0x80 ≤ b && b ≤ 0xBF

/-- The six bits that a continuing byte adds. -/
def tailBits (b : UInt8) : Nat := b.toNat % 64

/-- Whether the second byte of three fits the first. -/
def fitsThree (a b : UInt8) : Bool :=
  if a == 0xE0 then 0xA0 ≤ b && b ≤ 0xBF
  else if a == 0xED then 0x80 ≤ b && b ≤ 0x9F
  else isTail b

/-- Whether the second byte of four fits the first. -/
def fitsFour (a b : UInt8) : Bool :=
  if a == 0xF0 then 0x90 ≤ b && b ≤ 0xBF
  else if a == 0xF4 then 0x80 ≤ b && b ≤ 0x8F
  else isTail b

def scanTwo (a : UInt8) : List UInt8 → Scan
  | [] => .cut
  | b :: rest =>
    if isTail b then .char (Char.ofNat (a.toNat % 32 * 64 + tailBits b)) rest else .bad 1

def scanThree (a : UInt8) : List UInt8 → Scan
  | [] => .cut
  | b :: more =>
    if fitsThree a b then
      match more with
      | [] => .cut
      | c :: rest =>
        if isTail c then
          .char (Char.ofNat ((a.toNat % 16 * 64 + tailBits b) * 64 + tailBits c)) rest
        else .bad 2
    else .bad 1

def scanFour (a : UInt8) : List UInt8 → Scan
  | [] => .cut
  | b :: more =>
    if fitsFour a b then
      match more with
      | [] => .cut
      | c :: more =>
        if isTail c then
          match more with
          | [] => .cut
          | d :: rest =>
            if isTail d then
              .char (Char.ofNat
                (((a.toNat % 8 * 64 + tailBits b) * 64 + tailBits c) * 64 + tailBits d)) rest
            else .bad 3
        else .bad 2
    else .bad 1

/-- Reads the character that begins with `a`. -/
def scan (a : UInt8) (rest : List UInt8) : Scan :=
  if a < 0x80 then .char (Char.ofNat a.toNat) rest
  else if 0xC2 ≤ a && a ≤ 0xDF then scanTwo a rest
  else if 0xE0 ≤ a && a ≤ 0xEF then scanThree a rest
  else if 0xF0 ≤ a && a ≤ 0xF4 then scanFour a rest
  else .bad 1

/-! ## §2 Whole texts -/

/-- Reads at most `fuel` characters, the first of which stands at byte `index`. -/
def decodeFrom : (fuel : Nat) → (index : Nat) → List UInt8 → Except Malformed (List Char)
  | _, _, [] => .ok []
  | 0, index, _ :: _ => .error ⟨index, none⟩
  | fuel + 1, index, a :: more =>
    match scan a more with
    | .char c rest =>
      match decodeFrom fuel (index + (1 + more.length - rest.length)) rest with
      | .ok cs => .ok (c :: cs)
      | .error e => .error e
    | .bad n => .error ⟨index, some n⟩
    | .cut => .error ⟨index, none⟩

def decodeChars (bytes : List UInt8) : Except Malformed (List Char) :=
  decodeFrom bytes.length 0 bytes

/-- The text of which the bytes are the UTF-8 form. -/
def decode (bytes : List UInt8) : Except Malformed String :=
  (decodeChars bytes).map String.ofList

def encodeChars (cs : List Char) : List UInt8 :=
  cs.flatMap String.utf8EncodeChar

/-- The UTF-8 form of a text. -/
def encode (s : String) : List UInt8 :=
  encodeChars s.toList

end Courier.Utf8
