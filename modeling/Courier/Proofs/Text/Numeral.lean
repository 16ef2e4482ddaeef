import Mathlib.Algebra.Group.Nat.Defs
import Courier.Text.Numeral

/-!
# Standard numerals

The decimal digits of a number are those of its tenth and one digit more. A numeral that is read as
a number is the standard one of that number exactly if it has neither a plus sign nor a zero that
could be left out. Hexadecimal digits of a fixed width are read back as long as the number fits.
-/

namespace Courier.Numeral

/-! ## §1 Digits -/

/-- A digit of any base is read back. -/
theorem digitValue?_digitChar_of_lt {base d : Nat} (hbase : base ≤ 16) (h : d < base) :
    digitValue? base (digitChar d) = some d := by
  have hdigit : ∀ base < 17, ∀ d < base, digitValue? base (digitChar d) = some d := by decide
  exact hdigit base (Nat.lt_succ_of_le hbase) d h

/-- A decimal digit is the one that its value is written as. -/
theorem eq_digitChar_of_digitValue? {c : Char} {d : Nat} (h : digitValue? 10 c = some d) :
    d < 10 ∧ c = digitChar d := by
  simp only [digitValue?] at h
  split at h
  · rename_i hrange
    split at h
    · rename_i hd
      obtain rfl := Option.some.inj h
      refine ⟨hd, ?_⟩
      have hnumber : 48 + (c.toNat - 48) = c.toNat := by omega
      rw [digitChar, if_pos hd, hnumber, Char.ofNat_toNat]
    · cases h
  · -- small letters and capitals count ten or more, and anything else counts as the base
    have hten : ¬(if 97 ≤ c.toNat ∧ c.toNat ≤ 102 then c.toNat - 87
        else if 65 ≤ c.toNat ∧ c.toNat ≤ 70 then c.toNat - 55 else 10) < 10 := by
      split
      · omega
      · split <;> omega
    rw [if_neg hten] at h
    cases h

/-! ## §2 Decimal digits -/

theorem digitsOnto_append (base fuel n : Nat) (rest : List Char) :
    digitsOnto base fuel n rest = digitsOnto base fuel n [] ++ rest := by
  induction fuel generalizing n rest with
  | zero => rfl
  | succ fuel ih =>
    simp only [digitsOnto]
    split
    · rfl
    · rw [ih _ (_ :: rest), ih _ [_], List.append_assoc]
      rfl

/-- More fuel than needed makes no difference. -/
theorem digitsOnto_of_lt {n fuel fuel' : Nat} (h : n < fuel) (h' : n < fuel') :
    digitsOnto 10 fuel n [] = digitsOnto 10 fuel' n [] := by
  induction fuel generalizing n fuel' with
  | zero => exact absurd h (Nat.not_lt_zero n)
  | succ fuel ih =>
    cases fuel' with
    | zero => exact absurd h' (Nat.not_lt_zero n)
    | succ fuel' =>
      simp only [digitsOnto]
      split
      · rfl
      · rw [digitsOnto_append 10 fuel, digitsOnto_append 10 fuel']
        have htenth : digitsOnto 10 fuel (n / 10) [] = digitsOnto 10 fuel' (n / 10) [] :=
          ih (by omega) (by omega)
        rw [htenth]

theorem decimalDigits_of_lt {d : Nat} (h : d < 10) : decimalDigits d = [digitChar d] := by
  rw [decimalDigits, digitsOnto, if_pos h]

/-- The digits of a number are those of its tenth and one digit more. -/
theorem decimalDigits_add {n d : Nat} (hn : 0 < n) (hd : d < 10) :
    decimalDigits (n * 10 + d) = decimalDigits n ++ [digitChar d] := by
  have hdiv : (n * 10 + d) / 10 = n := by omega
  have hmod : (n * 10 + d) % 10 = d := by omega
  have hnot : ¬n * 10 + d < 10 := by omega
  rw [decimalDigits, digitsOnto, if_neg hnot, hdiv, hmod, digitsOnto_append, decimalDigits]
  rw [digitsOnto_of_lt (by omega) (Nat.lt_succ_self n)]

theorem decimalDigits_of_not_lt {n : Nat} (h : ¬n < 10) :
    decimalDigits n = decimalDigits (n / 10) ++ [digitChar (n % 10)] := by
  rw [← decimalDigits_add (by omega) (Nat.mod_lt n (by decide))]
  congr 1
  omega

/-- What holds of all digits holds of the characters of a decimal text. -/
theorem forall_mem_decimalDigits {P : Char → Prop} (h : ∀ d < 10, P (digitChar d)) (n : Nat) :
    ∀ c ∈ decimalDigits n, P c := by
  induction n using Nat.strongRecOn with
  | _ n ih =>
    by_cases hlt : n < 10
    · rw [decimalDigits_of_lt hlt, List.forall_mem_singleton]
      exact h n hlt
    · rw [decimalDigits_of_not_lt hlt, List.forall_mem_append, List.forall_mem_singleton]
      exact ⟨ih (n / 10) (by omega), h _ (Nat.mod_lt n (by decide))⟩

/-- Digits that follow those of a number are those of the number that they make together. -/
theorem decimalDigits_of_readDigitsFrom {n m : Nat} {cs : List Char} (hn : 0 < n)
    (h : readDigitsFrom 10 n cs = some m) : decimalDigits m = decimalDigits n ++ cs := by
  induction cs generalizing n with
  | nil =>
    obtain rfl := Option.some.inj h
    rw [List.append_nil]
  | cons c rest ih =>
    rw [readDigitsFrom] at h
    split at h
    · rename_i d hvalue
      obtain ⟨hd, rfl⟩ := eq_digitChar_of_digitValue? hvalue
      rw [ih (by omega) h, decimalDigits_add hn hd, List.append_assoc]
      rfl
    · cases h

/-- Digits without a zero that could be left out are those of the number that they are read as. -/
theorem decimalDigits_of_readDigits {n : Nat} {c : Char} {rest : List Char}
    (h : readDigits 10 (c :: rest) = some n) (hc : c = '0' → rest = []) :
    decimalDigits n = c :: rest := by
  rw [readDigits, readDigitsFrom] at h
  split at h
  · rename_i d hvalue
    obtain ⟨hd, rfl⟩ := eq_digitChar_of_digitValue? hvalue
    rw [Nat.zero_mul, Nat.zero_add] at h
    by_cases hzero : d = 0
    · subst hzero
      obtain rfl := hc rfl
      obtain rfl := Option.some.inj h
      rfl
    · rw [decimalDigits_of_readDigitsFrom (Nat.pos_of_ne_zero hzero) h, decimalDigits_of_lt hd]
      rfl
  · cases h

/-- The digits of a number begin with a digit that is zero only if it is the only one. -/
theorem exists_decimalDigits (n : Nat) : ∃ d rest, d < 10 ∧ decimalDigits n = digitChar d :: rest ∧
    (d = 0 → n = 0 ∧ rest = []) := by
  induction n using Nat.strongRecOn with
  | _ n ih =>
    by_cases hlt : n < 10
    · exact ⟨n, [], hlt, decimalDigits_of_lt hlt, fun hzero => ⟨hzero, rfl⟩⟩
    · obtain ⟨d, rest, hd, hdigits, hzero⟩ := ih (n / 10) (by omega)
      refine ⟨d, rest ++ [digitChar (n % 10)], hd, ?_, fun h => ?_⟩
      · rw [decimalDigits_of_not_lt hlt, hdigits, List.cons_append]
      · obtain ⟨htenth, _⟩ := hzero h
        omega

theorem decimalDigits_ne_nil (n : Nat) : decimalDigits n ≠ [] := by
  obtain ⟨d, rest, -, hdigits, -⟩ := exists_decimalDigits n
  rw [hdigits]
  exact List.cons_ne_nil _ _

/-- Numbers with one decimal text are equal. -/
theorem ofNat_injective {n m : Nat} (h : ofNat n = ofNat m) : n = m := by
  have hdigits : decimalDigits n = decimalDigits m := String.ofList_injective h
  have hread := readDigits_decimalDigits n
  rw [hdigits, readDigits_decimalDigits] at hread
  exact (Option.some.inj hread).symm

/-! ## §3 Standard numerals -/

theorem digitChar_eq_zero_iff {d : Nat} (h : d < 10) : digitChar d = '0' ↔ d = 0 := by
  have hdigit : ∀ d < 10, digitChar d = '0' ↔ d = 0 := by decide
  exact hdigit d h

/-- A digit is no sign. -/
theorem digitChar_ne_sign {d : Nat} (h : d < 10) : digitChar d ≠ '+' ∧ digitChar d ≠ '-' := by
  have hdigit : ∀ d < 10, digitChar d ≠ '+' ∧ digitChar d ≠ '-' := by decide
  exact hdigit d h

/-- Whether a numeral has neither a plus sign nor a zero that could be left out. The standard
numeral of zero has no sign at all. -/
def IsStandard : List Char → Prop
  | '+' :: _ => False
  | '-' :: digits => digits.head? ≠ some '0'
  | '0' :: rest => rest = []
  | _ => True

theorem isStandard_of_digit {c : Char} {rest : List Char} (hplus : c ≠ '+') (hminus : c ≠ '-') :
    IsStandard (c :: rest) ↔ (c = '0' → rest = []) := by
  by_cases hzero : c = '0'
  · simp [IsStandard, hzero]
  · simp [IsStandard, hplus, hminus, hzero]

theorem toList_ofNat (n : Nat) : (ofInt n).toList = decimalDigits n :=
  String.toList_ofList

theorem toList_ofInt_neg {n : Nat} (h : 0 < n) :
    (ofInt (-(n : Int))).toList = '-' :: decimalDigits n := by
  obtain ⟨m, rfl⟩ := Nat.exists_eq_succ_of_ne_zero (Nat.ne_of_gt h)
  exact String.toList_ofList

/-- The digits of a number begin with a zero only if the number is zero. -/
theorem decimalDigits_eq_iff {n : Nat} {cs : List Char} (h : readDigits 10 cs = some n) :
    decimalDigits n = cs ↔ ∀ rest, cs = '0' :: rest → rest = [] := by
  constructor
  · rintro hdigits rest rfl
    obtain ⟨d, rest', hd, hcons, hzero⟩ := exists_decimalDigits n
    rw [hdigits, List.cons.injEq] at hcons
    obtain ⟨hhead, rfl⟩ := hcons
    exact (hzero ((digitChar_eq_zero_iff hd).mp hhead.symm)).2
  · intro hcs
    cases cs with
    | nil => cases h
    | cons c rest => exact decimalDigits_of_readDigits h fun hc => hcs rest (hc ▸ rfl)

/-- A numeral without a minus sign is standard if it is the one that its value is written as. -/
theorem decimalDigits_eq_iff_isStandard {limit n : Nat} {cs : List Char}
    (h : readUnsignedChars 10 limit cs = some n) (hminus : ∀ rest, cs ≠ '-' :: rest) :
    decimalDigits n = cs ↔ IsStandard cs := by
  unfold readUnsignedChars at h
  split at h
  · rename_i m hread
    split at h
    · obtain rfl := Option.some.inj h
      cases cs with
      | nil => cases hread
      | cons c rest =>
        by_cases hplus : c = '+'
        · -- the digits of a number have no sign
          subst hplus
          refine iff_of_false (fun hdigits => ?_) id
          obtain ⟨d, rest', hd, hcons, _⟩ := exists_decimalDigits m
          rw [hdigits, List.cons.injEq] at hcons
          exact (digitChar_ne_sign hd).1 hcons.1.symm
        · have hdrop : dropPlus (c :: rest) = c :: rest := by simp [dropPlus, hplus]
          rw [hdrop] at hread
          rw [decimalDigits_eq_iff hread,
            isStandard_of_digit hplus fun hc => hminus rest (hc ▸ rfl)]
          simp
    · cases h
  · cases h

/-- A numeral with a minus sign is standard if it is the one that its value is written as. -/
theorem toList_ofInt_neg_eq_iff {n : Nat} {digits : List Char} (h : readDigits 10 digits = some n) :
    (ofInt (-(n : Int))).toList = '-' :: digits ↔ IsStandard ('-' :: digits) := by
  have hzero : decimalDigits 0 = ['0'] := rfl
  constructor
  · intro hwritten
    -- zero is written without a sign
    have hpos : 0 < n := by
      apply Nat.pos_of_ne_zero
      rintro rfl
      cases hwritten
    rw [toList_ofInt_neg hpos, List.cons.injEq] at hwritten
    obtain ⟨d, rest, hd, hdigits, hfirst⟩ := exists_decimalDigits n
    show digits.head? ≠ some '0'
    rw [← hwritten.2, hdigits, List.head?_cons, Ne, Option.some.injEq, digitChar_eq_zero_iff hd]
    exact fun hd => Nat.ne_of_gt hpos (hfirst hd).1
  · intro (hhead : digits.head? ≠ some '0')
    have hdigits : decimalDigits n = digits := by
      rw [decimalDigits_eq_iff h]
      rintro rest rfl
      exact absurd rfl hhead
    have hpos : 0 < n := by
      apply Nat.pos_of_ne_zero
      rintro rfl
      rw [← hdigits, hzero] at hhead
      exact hhead rfl
    rw [toList_ofInt_neg hpos, hdigits]

/-- A numeral is the one that its value is written as if it has neither a plus sign nor a zero that
could be left out. -/
theorem ofInt_eq_iff {bound : Nat} {s : String} {n : Int} (h : readSigned bound s = some n) :
    ofInt n = s ↔ IsStandard s.toList := by
  rw [← String.toList_inj]
  unfold readSigned at h
  split at h
  · rename_i digits hs
    split at h
    · rename_i m hread
      split at h
      · obtain rfl := Option.some.inj h
        rw [hs]
        exact toList_ofInt_neg_eq_iff hread
      · cases h
    · cases h
  · rename_i hminus
    split at h
    · rename_i m hread
      obtain rfl := Option.some.inj h
      rw [toList_ofNat]
      exact decimalDigits_eq_iff_isStandard hread hminus
    · cases h

/-! ## §4 Hexadecimal digits -/

/-- Every character of a hexadecimal text is a digit. -/
theorem exists_digitChar_of_mem {width n : Nat} {c : Char} (h : c ∈ hexDigits width n) :
    ∃ d < 16, c = digitChar d := by
  induction width generalizing n with
  | zero => cases h
  | succ width ih =>
    rw [hexDigits, List.mem_append, List.mem_singleton] at h
    rcases h with h | h
    · exact ih h
    · exact ⟨n % 16, Nat.mod_lt n (by decide), h⟩

/-- What holds of all digits holds of the characters of a hexadecimal text. -/
theorem forall_mem_hexDigits {P : Char → Prop} (h : ∀ d < 16, P (digitChar d)) (width n : Nat) :
    ∀ c ∈ hexDigits width n, P c := by
  intro c hc
  obtain ⟨d, hd, rfl⟩ := exists_digitChar_of_mem hc
  exact h d hd

theorem hexDigits_ne_nil (width n : Nat) : hexDigits (width + 1) n ≠ [] :=
  List.append_ne_nil_of_right_ne_nil _ (List.cons_ne_nil _ _)

theorem readDigitsFrom_append {base acc m : Nat} {cs : List Char} (rest : List Char)
    (h : readDigitsFrom base acc cs = some m) :
    readDigitsFrom base acc (cs ++ rest) = readDigitsFrom base m rest := by
  induction cs generalizing acc with
  | nil =>
    obtain rfl := Option.some.inj h
    rfl
  | cons c cs ih =>
    rw [readDigitsFrom] at h
    rw [List.cons_append, readDigitsFrom]
    split at h
    · exact ih h
    · cases h

/-- The last digits of a number are read as what they stand for. -/
theorem readDigitsFrom_hexDigits (width n acc : Nat) :
    readDigitsFrom 16 acc (hexDigits width n) = some (acc * 16 ^ width + n % 16 ^ width) := by
  induction width generalizing n with
  | zero => simp [hexDigits, readDigitsFrom, Nat.mod_one]
  | succ width ih =>
    have hlast : n % 16 < 16 := Nat.mod_lt n (by decide)
    rw [hexDigits, readDigitsFrom_append _ (ih (n / 16)), readDigitsFrom,
      digitValue?_digitChar_of_lt (Nat.le_refl 16) hlast]
    simp only [readDigitsFrom, Option.some.injEq]
    -- the digits before the last one count sixteen times
    have hmod : n % 16 ^ (width + 1) = n % 16 + 16 * (n / 16 % 16 ^ width) := by
      rw [Nat.pow_succ, Nat.mul_comm, Nat.mod_mul]
    rw [hmod, Nat.pow_succ, Nat.add_mul, ← Nat.mul_assoc]
    omega

/-- A number of at most so many hexadecimal digits is read back. -/
theorem readHex_hex {width n limit : Nat} (hn : n < 16 ^ (width + 1)) (hlimit : n < limit) :
    readHex limit (hex (width + 1) n) = some n := by
  have hread := readDigitsFrom_hexDigits (width + 1) n 0
  rw [Nat.zero_mul, Nat.zero_add, Nat.mod_eq_of_lt hn] at hread
  have hplus : ∀ c ∈ hexDigits (width + 1) n, c ≠ '+' :=
    forall_mem_hexDigits (by decide) (width + 1) n
  unfold readHex hex readUnsignedChars
  rw [String.toList_ofList]
  cases hdigits : hexDigits (width + 1) n with
  | nil => exact absurd hdigits (hexDigits_ne_nil width n)
  | cons c rest =>
    rw [hdigits] at hread hplus
    have hdrop : dropPlus (c :: rest) = c :: rest := by
      simp [dropPlus, hplus c List.mem_cons_self]
    rw [hdrop, readDigits, hread]
    exact if_pos hlimit

end Courier.Numeral
