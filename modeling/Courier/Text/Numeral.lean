/-!
# Numerals

Decimal and hexadecimal texts of whole numbers. A numeral is read if it is an optional sign and one
or more digits whose value is in range; leading zeros are allowed, spaces and separators are not.
`readUnsigned_ofNat` says that the decimal text of a number in range is read back as that number.
-/

namespace Courier.Numeral

/-! ## §1 Writing -/

/-- The digit of value `d`, `0` to `9` and then `a` to `f`. -/
def digitChar (d : Nat) : Char :=
  if d < 10 then Char.ofNat (48 + d) else Char.ofNat (87 + d)

/-- Puts the digits of `n` to the given base before the characters `rest`, at most `fuel` of them. -/
def digitsOnto (base : Nat) : Nat → Nat → List Char → List Char
  | 0, _, rest => rest
  | fuel + 1, n, rest =>
    if n < base then digitChar n :: rest
    else digitsOnto base fuel (n / base) (digitChar (n % base) :: rest)

/-- The decimal digits of a number, without leading zeros. -/
def decimalDigits (n : Nat) : List Char :=
  digitsOnto 10 (n + 1) n []

/-- The decimal text of a number. -/
def ofNat (n : Nat) : String :=
  String.ofList (decimalDigits n)

/-- The decimal text of an integer, with a minus sign if it is negative. -/
def ofInt : Int → String
  | .ofNat n => ofNat n
  | .negSucc n => String.ofList ('-' :: decimalDigits (n + 1))

/-- The last `width` hexadecimal digits of a number, with leading zeros. -/
def hexDigits : (width : Nat) → Nat → List Char
  | 0, _ => []
  | width + 1, n => hexDigits width (n / 16) ++ [digitChar (n % 16)]

def hex (width n : Nat) : String :=
  String.ofList (hexDigits width n)

/-! ## §2 Reading -/

/-- The value of a digit of the given base, at most 16; letters count in either case. -/
def digitValue? (base : Nat) (c : Char) : Option Nat :=
  let n := c.toNat
  let value :=
    if 48 ≤ n ∧ n ≤ 57 then n - 48
    else if 97 ≤ n ∧ n ≤ 102 then n - 87
    else if 65 ≤ n ∧ n ≤ 70 then n - 55
    else base
  if value < base then some value else none

/-- Reads digits after those whose value is `acc`. -/
def readDigitsFrom (base : Nat) : Nat → List Char → Option Nat
  | acc, [] => some acc
  | acc, c :: rest =>
    match digitValue? base c with
    | some d => readDigitsFrom base (acc * base + d) rest
    | none => none

def readDigits (base : Nat) : List Char → Option Nat
  | [] => none
  | c :: rest => readDigitsFrom base 0 (c :: rest)

/-- Drops one leading plus sign. -/
def dropPlus : List Char → List Char
  | '+' :: rest => rest
  | cs => cs

/-- Reads an optional plus sign and digits, whose value is below `limit`. -/
def readUnsignedChars (base limit : Nat) (cs : List Char) : Option Nat :=
  match readDigits base (dropPlus cs) with
  | some n => if n < limit then some n else none
  | none => none

/-- Reads a decimal text whose value is below `limit`. -/
def readUnsigned (limit : Nat) (s : String) : Option Nat :=
  readUnsignedChars 10 limit s.toList

/-- Reads a hexadecimal text whose value is below `limit`. -/
def readHex (limit : Nat) (s : String) : Option Nat :=
  readUnsignedChars 16 limit s.toList

/-- Reads a decimal text with an optional sign, whose value is from `-bound` to `bound - 1`. -/
def readSigned (bound : Nat) (s : String) : Option Int :=
  match s.toList with
  | '-' :: rest =>
    match readDigits 10 rest with
    | some n => if n ≤ bound then some (-(n : Int)) else none
    | none => none
  | cs =>
    match readUnsignedChars 10 bound cs with
    | some n => some (n : Int)
    | none => none

/-- Reads pairs of hexadecimal digits as bytes. -/
def readHexBytes : List Char → Option (List UInt8)
  | [] => some []
  | [_] => none
  | a :: b :: rest =>
    match digitValue? 16 a, digitValue? 16 b, readHexBytes rest with
    | some x, some y, some bytes => some (UInt8.ofNat (x * 16 + y) :: bytes)
    | _, _, _ => none

/-- The hexadecimal text of bytes, two digits a byte. -/
def hexOfBytes (bytes : List UInt8) : String :=
  String.ofList (bytes.flatMap fun b => hexDigits 2 b.toNat)

/-! ## §3 Reading back what was written -/

private theorem digitValue?_digitChar {d : Nat} (h : d < 10) :
    digitValue? 10 (digitChar d) = some d := by
  have : ∀ d < 10, digitValue? 10 (digitChar d) = some d := by decide
  exact this d h

private theorem readDigitsFrom_digitsOnto (fuel n : Nat) (h : n < fuel) :
    ∀ (rest : List Char) (acc : Nat), ∃ shift : Nat,
      readDigitsFrom 10 acc (digitsOnto 10 fuel n rest)
        = readDigitsFrom 10 (acc * shift + n) rest := by
  induction fuel generalizing n with
  | zero => omega
  | succ fuel ih =>
    intro rest acc
    simp only [digitsOnto]
    split
    · rename_i hn
      exact ⟨10, by simp [readDigitsFrom, digitValue?_digitChar hn]⟩
    · rename_i hn
      obtain ⟨shift, hs⟩ := ih (n / 10) (by omega) (digitChar (n % 10) :: rest) acc
      refine ⟨shift * 10, ?_⟩
      rw [hs]
      simp only [readDigitsFrom, digitValue?_digitChar (Nat.mod_lt n (by decide))]
      congr 1
      rw [Nat.add_mul, Nat.mul_assoc]
      omega

private theorem digitsOnto_ne_nil (fuel n : Nat) (rest : List Char) (h : n < fuel) :
    ∃ c cs, digitsOnto 10 fuel n rest = c :: cs := by
  induction fuel generalizing n rest with
  | zero => omega
  | succ fuel ih =>
    simp only [digitsOnto]
    split
    · exact ⟨_, _, rfl⟩
    · exact ih (n / 10) _ (by omega)

/-- The decimal digits of a number are read back as that number. -/
theorem readDigits_decimalDigits (n : Nat) : readDigits 10 (decimalDigits n) = some n := by
  obtain ⟨c, cs, hcs⟩ := digitsOnto_ne_nil (n + 1) n [] (Nat.lt_succ_self n)
  obtain ⟨shift, hs⟩ := readDigitsFrom_digitsOnto (n + 1) n (Nat.lt_succ_self n) [] 0
  rw [hcs, Nat.zero_mul, Nat.zero_add] at hs
  rw [decimalDigits, hcs, readDigits, hs, readDigitsFrom]

private theorem head_digitsOnto (fuel n : Nat) (rest : List Char) (h : n < fuel) :
    ∃ d cs, d < 10 ∧ digitsOnto 10 fuel n rest = digitChar d :: cs := by
  induction fuel generalizing n rest with
  | zero => omega
  | succ fuel ih =>
    simp only [digitsOnto]
    split
    · rename_i hn
      exact ⟨n, _, hn, rfl⟩
    · exact ih (n / 10) _ (by omega)

private theorem digitChar_ne_plus {d : Nat} (h : d < 10) : digitChar d ≠ '+' := by
  have : ∀ d < 10, digitChar d ≠ '+' := by decide
  exact this d h

private theorem dropPlus_digitChar {d : Nat} (h : d < 10) (cs : List Char) :
    dropPlus (digitChar d :: cs) = digitChar d :: cs := by
  unfold dropPlus
  split
  · rename_i heq
    exact absurd (List.cons.inj heq).1 (digitChar_ne_plus h)
  · rfl

/-- The decimal text of a number below the limit is read back as that number. -/
theorem readUnsigned_ofNat {n limit : Nat} (h : n < limit) :
    readUnsigned limit (ofNat n) = some n := by
  obtain ⟨d, cs, hd, hcs⟩ := head_digitsOnto (n + 1) n [] (Nat.lt_succ_self n)
  have hread := readDigits_decimalDigits n
  rw [decimalDigits, hcs] at hread
  simp only [readUnsigned, ofNat, String.toList_ofList, readUnsignedChars, decimalDigits, hcs,
    dropPlus_digitChar hd, hread, if_pos h]

/-- Only numbers below the limit are read. -/
theorem readUnsigned_lt {n limit : Nat} {s : String} (h : readUnsigned limit s = some n) :
    n < limit := by
  unfold readUnsigned readUnsignedChars at h
  split at h
  · split at h
    · rename_i hlt
      cases h
      exact hlt
    · cases h
  · cases h

end Courier.Numeral
