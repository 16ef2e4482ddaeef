import Courier.Proofs.Text.Numeral

/-!
# The grammar of numerals

What a decimal numeral is and which number it stands for, said without a reader: one or more digits,
with a plus sign before them or not, or with a sign of either kind. The readers accept the numerals
of this grammar whose number is in range, and nothing else: `readUnsigned_eq_some_iff`,
`readSigned_eq_some_iff`.
-/

namespace Courier.Numeral

/-! ## §1 Numerals -/

/-- One or more decimal digits, and the number that they stand for. -/
inductive Digits : List Char → Nat → Prop where
  | one {d : Nat} : d < 10 → Digits [digitChar d] d
  | more {cs : List Char} {n d : Nat} :
      Digits cs n → d < 10 → Digits (cs ++ [digitChar d]) (n * 10 + d)

/-- Digits that have a plus sign before them or none. -/
inductive Unsigned : List Char → Nat → Prop where
  | plain {cs : List Char} {n : Nat} : Digits cs n → Unsigned cs n
  | plus {cs : List Char} {n : Nat} : Digits cs n → Unsigned ('+' :: cs) n

/-- Digits that have a sign before them or none. -/
inductive Signed : List Char → Int → Prop where
  | unsigned {cs : List Char} {n : Nat} : Unsigned cs n → Signed cs n
  | minus {cs : List Char} {n : Nat} : Digits cs n → Signed ('-' :: cs) (-n)

example : (List.range 10).map digitChar = "0123456789".toList := by decide

/-! ## §2 Digits are read -/

/-- Digits begin with a digit. -/
theorem Digits.exists_cons {cs : List Char} {n : Nat} (h : Digits cs n) :
    ∃ d rest, d < 10 ∧ cs = digitChar d :: rest := by
  induction h with
  | one hd => exact ⟨_, [], hd, rfl⟩
  | more _ _ ih =>
    obtain ⟨d, rest, hd, rfl⟩ := ih
    exact ⟨d, _, hd, rfl⟩

/-- What holds of all digits holds of the characters of a numeral. -/
theorem Digits.forall_mem {P : Char → Prop} {cs : List Char} {n : Nat} (h : Digits cs n)
    (hP : ∀ d < 10, P (digitChar d)) : ∀ c ∈ cs, P c := by
  induction h with
  | one hd =>
    rw [List.forall_mem_singleton]
    exact hP _ hd
  | more _ hd ih =>
    rw [List.forall_mem_append, List.forall_mem_singleton]
    exact ⟨ih, hP _ hd⟩

theorem Digits.readDigitsFrom_eq {cs : List Char} {n : Nat} (h : Digits cs n) :
    readDigitsFrom 10 0 cs = some n := by
  have hvalue {d : Nat} (hd : d < 10) : digitValue? 10 (digitChar d) = some d :=
    digitValue?_digitChar_of_lt (by decide) hd
  induction h with
  | one hd => simp [readDigitsFrom, hvalue hd]
  | more _ hd ih =>
    rw [readDigitsFrom_append _ ih]
    simp [readDigitsFrom, hvalue hd]

/-- Digits that are read after others make one numeral with them. -/
theorem Digits.append {before cs : List Char} {n m : Nat} (h : Digits before n)
    (hread : readDigitsFrom 10 n cs = some m) : Digits (before ++ cs) m := by
  induction cs generalizing before n with
  | nil =>
    obtain rfl := Option.some.inj hread
    rwa [List.append_nil]
  | cons c rest ih =>
    rw [readDigitsFrom] at hread
    split at hread
    · rename_i d hvalue
      obtain ⟨hd, rfl⟩ := eq_digitChar_of_digitValue? hvalue
      have hrest := ih (h.more hd) hread
      rwa [List.append_assoc, List.singleton_append] at hrest
    · cases hread

/-- Characters are read as digits if they are digits. -/
theorem readDigits_eq_some_iff {cs : List Char} {n : Nat} :
    readDigits 10 cs = some n ↔ Digits cs n := by
  constructor
  · intro h
    cases cs with
    | nil => cases h
    | cons c rest =>
      rw [readDigits, readDigitsFrom] at h
      split at h
      · rename_i d hvalue
        obtain ⟨hd, rfl⟩ := eq_digitChar_of_digitValue? hvalue
        rw [Nat.zero_mul, Nat.zero_add] at h
        exact (Digits.one hd).append h
      · cases h
  · intro h
    obtain ⟨d, rest, _, rfl⟩ := h.exists_cons
    exact h.readDigitsFrom_eq

theorem digits_decimalDigits (n : Nat) : Digits (decimalDigits n) n :=
  readDigits_eq_some_iff.mp (readDigits_decimalDigits n)

/-- Digits stand for one number. -/
theorem Digits.unique {cs : List Char} {n m : Nat} (h : Digits cs n) (h' : Digits cs m) :
    n = m := by
  have hread := readDigits_eq_some_iff.mpr h
  rw [readDigits_eq_some_iff.mpr h'] at hread
  exact (Option.some.inj hread).symm

/-! ## §3 Numerals are read -/

theorem Digits.ne_sign {c : Char} {rest : List Char} {n : Nat} (h : Digits (c :: rest) n) :
    c ≠ '+' ∧ c ≠ '-' := by
  obtain ⟨d, _, hd, hcons⟩ := h.exists_cons
  rw [(List.cons.inj hcons).1]
  exact digitChar_ne_sign hd

theorem readDigits_dropPlus_iff {cs : List Char} {n : Nat} :
    readDigits 10 (dropPlus cs) = some n ↔ Unsigned cs n := by
  rw [readDigits_eq_some_iff]
  unfold dropPlus
  split
  · rename_i rest
    constructor
    · exact .plus
    · rintro (hplain | hdigits)
      · exact absurd rfl hplain.ne_sign.1
      · exact hdigits
  · rename_i hplus
    constructor
    · exact .plain
    · rintro (hplain | hdigits)
      · exact hplain
      · exact absurd rfl (hplus _)

theorem readUnsignedChars_eq_some_iff {limit n : Nat} {cs : List Char} :
    readUnsignedChars 10 limit cs = some n ↔ Unsigned cs n ∧ n < limit := by
  rw [← readDigits_dropPlus_iff, readUnsignedChars]
  cases readDigits 10 (dropPlus cs) with
  | none => simp
  | some m =>
    by_cases hm : m < limit
    · simp only [if_pos hm, Option.some.injEq]
      constructor
      · rintro rfl
        exact ⟨rfl, hm⟩
      · exact And.left
    · simp only [if_neg hm, Option.some.injEq]
      constructor
      · rintro ⟨⟩
      · rintro ⟨rfl, hn⟩
        exact absurd hn hm

/-- A text is read as a number below the limit exactly if it is an optional plus sign and digits
that stand for this number. -/
theorem readUnsigned_eq_some_iff {limit n : Nat} {s : String} :
    readUnsigned limit s = some n ↔ Unsigned s.toList n ∧ n < limit :=
  readUnsignedChars_eq_some_iff

/-- A text is read as an integer in range exactly if it is an optional sign and digits that stand
for this integer. -/
theorem readSigned_eq_some_iff {bound : Nat} {n : Int} {s : String} (hbound : 0 < bound) :
    readSigned bound s = some n ↔ Signed s.toList n ∧ -bound ≤ n ∧ n < bound := by
  unfold readSigned
  split
  · rename_i digits hs
    rw [hs]
    constructor
    · intro h
      split at h
      · rename_i m hread
        split at h
        · obtain rfl := Option.some.inj h
          exact ⟨.minus (readDigits_eq_some_iff.mp hread), by omega, by omega⟩
        · cases h
      · cases h
    · rintro ⟨hsigned, hrange⟩
      cases hsigned with
      | unsigned h =>
        cases h with
        | plain hdigits => exact absurd rfl hdigits.ne_sign.2
      | @minus _ m hdigits =>
        have hm : m ≤ bound := by omega
        simp only [readDigits_eq_some_iff.mpr hdigits, if_pos hm]
  · rename_i hminus
    constructor
    · intro h
      split at h
      · rename_i m hread
        obtain rfl := Option.some.inj h
        obtain ⟨hunsigned, hm⟩ := readUnsignedChars_eq_some_iff.mp hread
        exact ⟨.unsigned hunsigned, by omega, by omega⟩
      · cases h
    · rintro ⟨hsigned, hrange⟩
      generalize hcs : s.toList = cs at hsigned
      cases hsigned with
      | @unsigned _ m h =>
        have hread := readUnsignedChars_eq_some_iff.mpr ⟨h, show m < bound by omega⟩
        rw [hread]
      | minus _ => exact absurd hcs (hminus _)

/-! ## §4 Decimal texts are read -/

/-- The decimal text of an integer is an unsigned numeral if the integer is not negative. -/
theorem unsigned_ofInt_iff {n : Int} {m : Nat} : Unsigned (ofInt n).toList m ↔ n = m := by
  constructor
  · intro h
    cases n with
    | ofNat n =>
      have hdigits : Digits (ofInt (Int.ofNat n)).toList n := by
        have htext := digits_decimalDigits n
        rwa [← toList_ofNat] at htext
      generalize (ofInt (Int.ofNat n)).toList = cs at h hdigits
      cases h with
      | plain hplain => exact congrArg Int.ofNat (hdigits.unique hplain)
      | plus _ => exact absurd rfl hdigits.ne_sign.1
    | negSucc n =>
      have htext : (ofInt (Int.negSucc n)).toList = '-' :: decimalDigits (n + 1) :=
        String.toList_ofList
      rw [htext] at h
      cases h with
      | plain hplain => exact absurd rfl hplain.ne_sign.2
  · rintro rfl
    rw [toList_ofNat]
    exact .plain (digits_decimalDigits m)

/-- The decimal text of an integer is read as a number below the limit if it is one. -/
theorem readUnsigned_ofInt_eq_some_iff {limit m : Nat} {n : Int} :
    readUnsigned limit (ofInt n) = some m ↔ n = m ∧ m < limit := by
  rw [readUnsigned_eq_some_iff, unsigned_ofInt_iff]

end Courier.Numeral
