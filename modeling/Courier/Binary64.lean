import Courier.Text.Numeral

/-!
# Decimal texts of binary numbers

A finite number of 64 bits is a whole mantissa times a power of two. `shortest` finds the decimal of
fewest digits that is read back as the same number, and of those the nearest one; `ofDecimal` is the
reading: the number of 64 bits that is nearest to a decimal, an exact half going to the even
mantissa. Both compare fractions of whole numbers, so that nothing is lost. A `Style` says how the
digits are laid out.
-/

namespace Courier.Binary64

/-! ## §1 Parts of a number -/

/-- The sign, the mantissa and the exponent of a finite number: `± mantissa * 2 ^ exponent`. -/
structure Parts where
  negative : Bool
  mantissa : Nat
  exponent : Int
deriving DecidableEq, Repr

def leastExponent : Int := -1074

/-- The mantissa of a number that is not too small is at least this. -/
def fullMantissa : Nat := 1 <<< 52

/-- The parts of the number with the given bits, if it is finite. -/
def partsOfBits (bits : Nat) : Option Parts :=
  let negative := bits / (1 <<< 63) % 2 == 1
  let biased := bits / (1 <<< 52) % (1 <<< 11)
  let fraction := bits % (1 <<< 52)
  -- infinities and what is no number, then the numbers without a leading bit, then all others
  if biased = (1 <<< 11) - 1 then none
  else if biased = 0 then some ⟨negative, fraction, leastExponent⟩
  else some ⟨negative, fraction + fullMantissa, leastExponent + (biased - 1 : Nat)⟩

def parts (x : Float) : Option Parts :=
  partsOfBits x.toBits.toNat

/-! ## §2 The nearest number to a decimal -/

/-- `num / den` rounded to a whole number, a half to the even neighbour. -/
def roundDiv (num den : Nat) : Nat :=
  let q := num / den
  let twice := 2 * (num % den)
  if twice < den then q
  else if den < twice then q + 1
  else if q % 2 = 0 then q else q + 1

/-- `num / den` times two to the power `-e`, as a fraction. -/
def scaleDown (num den : Nat) (e : Int) : Nat × Nat :=
  if 0 ≤ e then (num, den * (1 <<< e.toNat)) else (num * (1 <<< (-e).toNat), den)

/-- The bits of the positive number nearest to `num / den`; those of infinity if it is too great.
The first estimate of the exponent may be one too great, and rounding may carry into it: in both
cases the mantissa and the biased exponent, taken together as one number, come out right. -/
def bitsOfFraction (num den : Nat) : Nat :=
  let estimate : Int := (Nat.log2 num : Int) - (Nat.log2 den : Int) - 52
  let (n, d) := scaleDown num den estimate
  let exponent := max leastExponent (if n < fullMantissa * d then estimate - 1 else estimate)
  let (n, d) := scaleDown num den exponent
  let bits := (exponent - leastExponent).toNat * fullMantissa + roundDiv n d
  min bits (2047 * fullMantissa)

/-- The number nearest to `digits * 10 ^ exponent`. Decimals out of all range are settled by their
number of digits. -/
def ofDecimal (negative : Bool) (digits : Nat) (exponent : Int) : Float :=
  -- 3 / 10 is a little less than the logarithm of two
  let magnitude : Int := (Nat.log2 digits : Int) * 3 / 10 + exponent
  let bits :=
    if digits = 0 then 0
    else if 400 < magnitude then 2047 * fullMantissa
    else if magnitude < -400 then 0
    else if 0 ≤ exponent then bitsOfFraction (digits * Nat.pow 10 exponent.toNat) 1
    else bitsOfFraction digits (Nat.pow 10 (-exponent).toNat)
  Float.ofBits (UInt64.ofNat (bits + if negative then 1 <<< 63 else 0))

def nan : Float := Float.ofBits (UInt64.ofNat (2047 * fullMantissa + (1 <<< 51)))

def infinity (negative : Bool) : Float :=
  Float.ofBits (UInt64.ofNat (2047 * fullMantissa + if negative then 1 <<< 63 else 0))

/-! ## §3 The shortest decimal of a number -/

/-- A decimal: `digits * 10 ^ exponent`. -/
structure Decimal where
  digits : Nat
  exponent : Int
deriving DecidableEq, Repr

/-- Takes the zeros off the end of the digits. -/
def Decimal.trim : (fuel : Nat) → Decimal → Decimal
  | 0, d => d
  | fuel + 1, d =>
    if d.digits ≠ 0 ∧ d.digits % 10 = 0 then Decimal.trim fuel ⟨d.digits / 10, d.exponent + 1⟩
    else d

/-- The greatest power of ten that is at most `num / den`, found from the power `e` downwards. -/
def powerBelow (num den : Nat) : (fuel : Nat) → (e : Int) → Int
  | 0, e => e
  | fuel + 1, e =>
    let holds :=
      if 0 ≤ e then den * Nat.pow 10 e.toNat ≤ num else den ≤ num * Nat.pow 10 (-e).toNat
    if holds then e else powerBelow num den fuel (e - 1)

/-- The decimal with `count` digits that lies between the ends and nearest to the middle, if there
is one. All three are given in units of a quarter of the last bit, `unit` being that quarter as a
fraction; `closed` says whether the ends belong to the range, and `top` is the power of ten of the
first digit. -/
def decimalWithin (low middle high : Nat) (unit : Nat × Nat) (closed : Bool) (top : Int)
    (count : Nat) : Option Decimal :=
  -- digits times `decimal` compare with quarters times `binary`, both whole
  let p := top - (count : Int) + 1
  let binary := unit.1 * (if p < 0 then Nat.pow 10 (-p).toNat else 1)
  let decimal := unit.2 * (if 0 ≤ p then Nat.pow 10 p.toNat else 1)
  let inside (d : Nat) : Bool :=
    if closed then low * binary ≤ d * decimal && d * decimal ≤ high * binary
    else low * binary < d * decimal && d * decimal < high * binary
  let below := middle * binary / decimal
  let above := below + 1
  match inside below, inside above with
  | true, true =>
    let down := middle * binary - below * decimal
    let up := above * decimal - middle * binary
    let nearer := if down < up then below else if up < down then above
      else if below % 2 = 0 then below else above
    some ⟨nearer, p⟩
  | true, false => some ⟨below, p⟩
  | false, true => some ⟨above, p⟩
  | false, false => none

/-- The first decimal that is found as the number of digits grows. -/
def firstDecimal (find : Nat → Option Decimal) : (fuel : Nat) → (count : Nat) → Decimal
  | 0, _ => ⟨0, 0⟩
  | fuel + 1, count =>
    match find count with
    | some d => d
    | none => firstDecimal find fuel (count + 1)

/-- The decimal of fewest digits that is read as `mantissa * 2 ^ exponent`, which is not zero. -/
def shortest (mantissa : Nat) (exponent : Int) : Decimal :=
  -- below a power of two the next number is half as far away as above it
  let narrow := mantissa = fullMantissa ∧ leastExponent < exponent
  let low := 4 * mantissa - (if narrow then 1 else 2)
  let high := 4 * mantissa + 2
  let quarter := exponent - 2
  let unit : Nat × Nat :=
    if 0 ≤ quarter then (1 <<< quarter.toNat, 1) else (1, 1 <<< (-quarter).toNat)
  let closed := mantissa % 2 = 0
  -- 30103 / 100000 is a little more than the logarithm of two
  let bits : Int := (Nat.log2 mantissa : Int) + exponent
  let top := powerBelow (4 * mantissa * unit.1) unit.2 4 (bits * 30103 / 100000 + 1)
  let found := firstDecimal
    (decimalWithin low (4 * mantissa) high unit closed top) 18 1
  Decimal.trim 20 found

/-! ## §4 Layout -/

/-- How a number is written. -/
structure Style where
  /-- The powers of ten of the first digit, from the first up to below the second, at which digits
  stand around a point without an exponent; `none` for all. -/
  plainFrom : Option (Int × Int)
  /-- Whether a whole number ends in a point and a zero. -/
  wholePoint : Bool
  nanText : String
  infinityText : String

/-- Digits around a point. -/
def plainText (style : Style) (digits : List Char) (exponent : Int) : List Char :=
  let point : Int := digits.length + exponent
  if 0 ≤ exponent then
    digits ++ List.replicate exponent.toNat '0' ++ (if style.wholePoint then ['.', '0'] else [])
  else if 0 < point then
    digits.take point.toNat ++ ['.'] ++ digits.drop point.toNat
  else
    ['0', '.'] ++ List.replicate (-point).toNat '0' ++ digits

/-- Digits with a point after the first, and the power of ten with its sign. -/
def exponentText (digits : List Char) (top : Int) : List Char :=
  let fraction := digits.drop 1
  digits.take 1 ++ (if fraction.isEmpty then [] else '.' :: fraction) ++ ['e']
    ++ (if 0 ≤ top then ['+'] else ['-']) ++ Numeral.decimalDigits top.natAbs

/-- The text of a decimal that is not negative. -/
def Decimal.text (style : Style) (d : Decimal) : List Char :=
  let digits := Numeral.decimalDigits d.digits
  let top : Int := digits.length + d.exponent - 1
  match style.plainFrom with
  | none => plainText style digits d.exponent
  | some (first, limit) =>
    if d.digits = 0 ∨ (first ≤ top ∧ top < limit) then plainText style digits d.exponent
    else exponentText digits top

def text (style : Style) (x : Float) : String :=
  match parts x with
  | some p =>
    let d := if p.mantissa = 0 then ⟨0, 0⟩ else shortest p.mantissa p.exponent
    String.ofList ((if p.negative then ['-'] else []) ++ d.text style)
  | none =>
    if x.toBits.toNat % (1 <<< 52) ≠ 0 then style.nanText
    else if 1 <<< 63 ≤ x.toBits.toNat then "-" ++ style.infinityText
    else style.infinityText

end Courier.Binary64
