import Courier.Json.Basic
import Courier.Json.Printer
import Courier.Json.Scalar
import Courier.Proofs.Text.Numeral
import Courier.Proofs.Text.Utf8

/-!
# Reading back words, numbers and texts

What is written for a whole number or a text is read back, and the bytes after it are left. Only the
bytes that are left count here, not the line and the column of the reader. A number is read up to
the first byte that cannot go on with it, and a text up to its closing quote: each of its characters
is either read as an escape, or its bytes are kept until the next escape or the quote.
-/

namespace Courier.Json

/-! ## §1 Positions -/

namespace Cursor

variable {c : Cursor} {b : UInt8} {rest : List UInt8}

theorem rest_next (h : c.rest = b :: rest) : c.next.rest = rest := by
  simp only [next, h]
  split <;> rfl

/-- Where no space comes next, none is skipped. -/
theorem skipSpaces_of_cons (h : c.rest = b :: rest) (hb : isSpace b = false) :
    c.skipSpaces = c := by
  rw [skipSpaces, h, skipSpacesFrom, hb, ← h]
  rfl

/-- As many bytes are skipped as are given. -/
theorem rest_skip {bytes : List UInt8} (h : c.rest = bytes ++ rest) :
    (c.skip bytes.length).rest = rest := by
  induction bytes generalizing c with
  | nil => exact h
  | cons b bytes ih => exact ih (rest_next h)

end Cursor

/-- A reader came to a value and left the given bytes. -/
def Leaves {α : Type} (r : Except ReadError (α × Cursor)) (v : α) (rest : List UInt8) : Prop :=
  ∃ c, r = .ok (v, c) ∧ c.rest = rest

theorem Leaves.map {α β : Type} {r : Except ReadError (α × Cursor)} {v : α} {rest : List UInt8}
    (h : Leaves r v rest) (f : α → β) : Leaves (r.map fun p => (f p.1, p.2)) (f v) rest := by
  obtain ⟨c, rfl, hrest⟩ := h
  exact ⟨c, rfl, hrest⟩

/-- A word is read to its end. -/
theorem readWord_append {word rest : List UInt8} {c : Cursor} (h : c.rest = word ++ rest) :
    Leaves (readWord word c) () rest := by
  induction word generalizing c with
  | nil => exact ⟨c, rfl, h⟩
  | cons b word ih =>
    rw [readWord, h]
    simp only [List.cons_append, if_pos]
    exact ih (Cursor.rest_next h)

/-! ## §2 Numbers -/

/-- The bytes do not go on with a number. -/
def EndsNumber (rest : List UInt8) : Prop :=
  ∀ b ∈ rest.head?, digit? b = none ∧ b ≠ 46 ∧ b ≠ 101 ∧ b ≠ 69

section Numbers

variable {negative : Bool} {c : Cursor} {rest : List UInt8}

theorem digit?_digitChar {d : Nat} (h : d < 10) :
    digit? (UInt8.ofNat (Numeral.digitChar d).toNat) = some d := by
  have hdigit : ∀ d < 10, digit? (UInt8.ofNat (Numeral.digitChar d).toNat) = some d := by decide
  exact hdigit d h

/-- The bytes of characters that begin with a digit. -/
theorem encodeChars_digitChar {d : Nat} (h : d < 16) (cs : List Char) :
    Utf8.encodeChars (Numeral.digitChar d :: cs)
      = UInt8.ofNat (Numeral.digitChar d).toNat :: Utf8.encodeChars cs := by
  have hlt : ∀ d < 16, (Numeral.digitChar d).toNat < 128 := by decide
  rw [Utf8.encodeChars_cons, Utf8.utf8EncodeChar_of_lt (hlt d h)]
  rfl

/-- The bytes that a number may begin with. -/
def numberStarts : List UInt8 := [45, 48, 49, 50, 51, 52, 53, 54, 55, 56, 57]

theorem forall_mem_numberStarts {P : UInt8 → Prop} [DecidablePred P]
    (h : numberStarts.all (fun b => decide (P b)) = true) : ∀ b ∈ numberStarts, P b :=
  fun b hb => of_decide_eq_true (List.all_eq_true.mp h b hb)

theorem exists_ofInt (n : Int) : ∃ b bytes,
    Utf8.encodeChars (Numeral.ofInt n).toList = b :: bytes ∧ b ∈ numberStarts := by
  cases n with
  | ofNat n =>
    have hstarts : ∀ d < 10, UInt8.ofNat (Numeral.digitChar d).toNat ∈ numberStarts := by decide
    obtain ⟨d, cs, hd, hdigits, _⟩ := Numeral.exists_decimalDigits n
    rw [Int.ofNat_eq_natCast, Numeral.toList_ofNat, hdigits, encodeChars_digitChar (by omega)]
    exact ⟨_, _, rfl, hstarts d hd⟩
  | negSucc m =>
    rw [Numeral.ofInt, String.toList_ofList]
    exact ⟨45, _, rfl, by decide⟩

theorem peek?_eq_none (h : EndsNumber c.rest) : c.peek?.bind digit? = none := by
  rw [Cursor.peek?]
  cases hb : c.rest.head? with
  | none => rfl
  | some b => exact (h b hb).1

theorem readAfterDigits_eq (h : EndsNumber c.rest) (n : Nat) :
    readAfterDigits negative n c = .ok (wholeNumber negative n, c) := by
  have hsees : ∀ b, (∀ b' ∈ c.rest.head?, b' ≠ b) → c.sees b = false := by
    intro b hne
    rw [Cursor.sees, beq_eq_false_iff_ne]
    exact fun heq => hne b heq rfl
  have hpoint : c.sees 46 = false := hsees 46 fun b hb => (h b hb).2.1
  have hsmall : c.sees 101 = false := hsees 101 fun b hb => (h b hb).2.2.1
  have hcapital : c.sees 69 = false := hsees 69 fun b hb => (h b hb).2.2.2
  rw [readAfterDigits, seesExponent, hpoint, hsmall, hcapital]
  rfl

theorem le_of_readDigitsFrom {acc m : Nat} {cs : List Char}
    (h : Numeral.readDigitsFrom 10 acc cs = some m) : acc ≤ m := by
  induction cs generalizing acc with
  | nil => exact Nat.le_of_eq (Option.some.inj h)
  | cons ch cs ih =>
    rw [Numeral.readDigitsFrom] at h
    split at h
    · have hle := ih h
      omega
    · cases h

/-- Digits that make a number of 64 bits are read as that number. -/
theorem readWholeDigits_encodeChars {fuel acc m : Nat} {cs : List Char}
    (hcs : Numeral.readDigitsFrom 10 acc cs = some m) (hm : m ≤ maxSignificand)
    (hfuel : cs.length < fuel) (hc : c.rest = Utf8.encodeChars cs ++ rest)
    (hrest : EndsNumber rest) :
    Leaves (readWholeDigits negative fuel acc c) (wholeNumber negative m) rest := by
  induction cs generalizing acc fuel c with
  | nil =>
    obtain ⟨fuel, rfl⟩ := Nat.exists_eq_succ_of_ne_zero (Nat.ne_of_gt hfuel)
    obtain rfl := Option.some.inj hcs
    have hends : EndsNumber c.rest := by
      rw [hc]
      exact hrest
    rw [readWholeDigits, peek?_eq_none hends]
    exact ⟨c, readAfterDigits_eq hends acc, hc⟩
  | cons ch cs ih =>
    cases fuel with
    | zero => exact absurd hfuel (Nat.not_lt_zero _)
    | succ fuel =>
      rw [Numeral.readDigitsFrom] at hcs
      split at hcs
      · rename_i d hvalue
        obtain ⟨hd, rfl⟩ := Numeral.eq_digitChar_of_digitValue? hvalue
        rw [encodeChars_digitChar (by omega), List.cons_append] at hc
        have hpeek : c.peek?.bind digit? = some d := by
          rw [Cursor.peek?, hc]
          exact digit?_digitChar hd
        -- the digits read so far cannot be too many, as their value only grows
        have hnot : ¬maxSignificand < acc * 10 + d :=
          Nat.not_lt.mpr (Nat.le_trans (le_of_readDigitsFrom hcs) hm)
        rw [readWholeDigits, hpeek]
        simp only [if_neg hnot]
        exact ih hcs (Nat.lt_of_succ_lt_succ hfuel) (Cursor.rest_next hc)
      · cases hcs

/-- The digits of a number of 64 bits are read as that number. -/
theorem readUnsignedNumber_decimalDigits {n : Nat} (hn : n ≤ maxSignificand)
    (hc : c.rest = Utf8.encodeChars (Numeral.decimalDigits n) ++ rest) (hrest : EndsNumber rest) :
    Leaves (readUnsignedNumber negative c) (wholeNumber negative n) rest := by
  obtain ⟨d, cs, hd, hdigits, hzero⟩ := Numeral.exists_decimalDigits n
  have hread := Numeral.readDigits_decimalDigits n
  simp only [hdigits, Numeral.readDigits, Numeral.readDigitsFrom,
    Numeral.digitValue?_digitChar_of_lt (by decide : 10 ≤ 16) hd, Nat.zero_mul,
    Nat.zero_add] at hread
  rw [hdigits, encodeChars_digitChar (by omega), List.cons_append] at hc
  rw [readUnsignedNumber, hc]
  simp only [digit?_digitChar hd]
  cases d with
  | zero =>
    -- a zero is the only digit
    obtain ⟨rfl, rfl⟩ := hzero rfl
    have hends : EndsNumber c.next.rest := by
      rw [Cursor.rest_next hc]
      exact hrest
    simp only [peek?_eq_none hends]
    exact ⟨c.next, readAfterDigits_eq hends 0, Cursor.rest_next hc⟩
  | succ d =>
    have hfuel : cs.length < (UInt8.ofNat (Numeral.digitChar (d + 1)).toNat
        :: (Utf8.encodeChars cs ++ rest)).length + 1 := by
      have hlen := Utf8.length_le_encodeChars cs
      rw [List.length_cons, List.length_append]
      omega
    exact readWholeDigits_encodeChars hread hn hfuel (Cursor.rest_next hc) hrest

/-- A whole number of 64 bits, with or without sign, is read back. -/
theorem readNumber_ofInt {n : Int} (hlow : leastInt ≤ n) (hhigh : n ≤ greatestInt)
    (hc : c.rest = Utf8.encodeChars (Numeral.ofInt n).toList ++ rest) (hrest : EndsNumber rest) :
    Leaves (readNumber c) (.whole n) rest := by
  cases n with
  | ofNat n =>
    rw [Int.ofNat_eq_natCast, Numeral.toList_ofNat] at hc
    have hn : n ≤ maxSignificand := by
      have hbound : (n : Int) ≤ (maxSignificand : Nat) := hhigh
      omega
    have hsign : c.sees 45 = false := by
      obtain ⟨d, cs, hd, hdigits, _⟩ := Numeral.exists_decimalDigits n
      rw [hdigits, encodeChars_digitChar (by omega), List.cons_append] at hc
      have hne : ∀ d < 10, UInt8.ofNat (Numeral.digitChar d).toNat ≠ 45 := by decide
      rw [Cursor.sees, hc, List.head?_cons, beq_eq_false_iff_ne]
      exact fun heq => hne d hd (Option.some.inj heq)
    rw [readNumber, hsign]
    exact readUnsignedNumber_decimalDigits hn hc hrest
  | negSucc m =>
    have hneg : Int.negSucc m = -((m + 1 : Nat) : Int) := rfl
    rw [hneg, Numeral.toList_ofInt_neg (Nat.succ_pos m)] at hc
    have hc' : c.rest = 45 :: (Utf8.encodeChars (Numeral.decimalDigits (m + 1)) ++ rest) := hc
    have hm : m + 1 ≤ 1 <<< 63 := by
      have hbound : -((1 <<< 63 : Nat) : Int) ≤ Int.negSucc m := hlow
      omega
    have hsign : c.sees 45 = true := by
      rw [Cursor.sees, hc']
      rfl
    -- a negative number is whole if it is not zero and fits
    have hwhole : wholeNumber true (m + 1) = .whole (-((m + 1 : Nat) : Int)) := by
      rw [wholeNumber, if_pos rfl, if_neg]
      omega
    rw [readNumber, hsign, hneg, ← hwhole]
    have hmax : 1 <<< 63 ≤ maxSignificand := by decide
    exact readUnsignedNumber_decimalDigits (Nat.le_trans hm hmax) (Cursor.rest_next hc') hrest

end Numbers

/-! ## §3 Texts -/

section Texts

variable {c : Cursor} {rest : List UInt8}

/-- A character that is written as it is. -/
def IsPlain (ch : Char) : Prop := 32 ≤ ch.toNat ∧ ch ≠ '\x22' ∧ ch ≠ '\\'

/-- A byte that is read as a part of a text. -/
def IsPlainByte (b : UInt8) : Prop := b ≠ 34 ∧ b ≠ 92 ∧ ¬b < 32

theorem isPlainByte_of_isPlain {ch : Char} (h : IsPlain ch) {b : UInt8}
    (hb : b ∈ String.utf8EncodeChar ch) : IsPlainByte b := by
  obtain ⟨hcontrol, hquote, hslash⟩ := h
  have hne : ch.toNat ≠ 34 ∧ ch.toNat ≠ 92 :=
    ⟨fun heq => hquote (Char.toNat_inj.mp heq), fun heq => hslash (Char.toNat_inj.mp heq)⟩
  have hnat : b.toNat ≠ 34 ∧ b.toNat ≠ 92 ∧ 32 ≤ b.toNat := by
    by_cases hlt : ch.toNat < 128
    · rw [Utf8.utf8EncodeChar_of_lt hlt, List.mem_singleton] at hb
      rw [hb, UInt8.toNat_ofNat', Nat.mod_eq_of_lt (by omega)]
      exact ⟨hne.1, hne.2, hcontrol⟩
    · have hle := Utf8.le_toNat_of_mem_utf8EncodeChar (Nat.not_lt.mp hlt) hb
      omega
  refine ⟨fun heq => hnat.1 (congrArg UInt8.toNat heq),
    fun heq => hnat.2.1 (congrArg UInt8.toNat heq), fun hlt => ?_⟩
  exact Nat.not_lt.mpr hnat.2.2 (UInt8.lt_iff_toNat_lt.mp hlt)

/-- Bytes that are parts of a text are kept until a quote or an escape comes. -/
theorem readTextFrom_push {bytes : List UInt8} (hbytes : ∀ b ∈ bytes, IsPlainByte b) {fuel : Nat}
    (hc : c.rest = bytes ++ rest) (hfuel : c.rest.length < fuel) (done : List Char)
    (start : Cursor) (chunk : List UInt8) :
    ∃ fuel' c', rest.length < fuel' ∧ c'.rest = rest ∧
      readTextFrom fuel done start chunk c
        = readTextFrom fuel' done start (bytes.reverse ++ chunk) c' := by
  induction bytes generalizing fuel chunk c with
  | nil => exact ⟨fuel, c, by rwa [hc] at hfuel, hc, rfl⟩
  | cons b bytes ih =>
    cases fuel with
    | zero => exact absurd hfuel (Nat.not_lt_zero _)
    | succ fuel =>
      obtain ⟨hquote, hslash, hcontrol⟩ := hbytes b List.mem_cons_self
      have hnext : c.next.rest = bytes ++ rest := Cursor.rest_next hc
      have hless : c.next.rest.length < fuel := by
        rw [hc, List.cons_append, List.length_cons] at hfuel
        rw [hnext]
        omega
      have hstep : readTextFrom (fuel + 1) done start chunk c
          = readTextFrom fuel done start (b :: chunk) c.next := by
        rw [readTextFrom, hc]
        simp only [List.cons_append, if_neg hquote, if_neg hslash, if_neg hcontrol]
      rw [hstep, List.reverse_cons, List.append_assoc]
      exact ih (fun b' hb' => hbytes b' (List.mem_cons_of_mem _ hb')) hnext hless (b :: chunk)

/-- Four hexadecimal digits are read as the number that they stand for. -/
theorem readHexFour_hexDigits {n : Nat} (hn : n < 0x10000)
    (hc : c.rest = Utf8.encodeChars (Numeral.hexDigits 4 n) ++ rest) :
    Leaves (readHexFour c) n rest := by
  have hdigit : ∀ d < 16,
      hexDigit? (UInt8.ofNat (Numeral.digitChar d).toNat) = some d := by decide
  have hlt : ∀ m, m % 16 < 16 := fun m => Nat.mod_lt m (by decide)
  have hbytes : Utf8.encodeChars (Numeral.hexDigits 4 n)
      = [UInt8.ofNat (Numeral.digitChar (n / 16 / 16 / 16 % 16)).toNat,
        UInt8.ofNat (Numeral.digitChar (n / 16 / 16 % 16)).toNat,
        UInt8.ofNat (Numeral.digitChar (n / 16 % 16)).toNat,
        UInt8.ofNat (Numeral.digitChar (n % 16)).toNat] := by
    simp only [Numeral.hexDigits, List.nil_append, List.cons_append, encodeChars_digitChar, hlt]
    rfl
  have hvalue : ((n / 16 / 16 / 16 % 16 * 16 + n / 16 / 16 % 16) * 16 + n / 16 % 16) * 16
      + n % 16 = n := by omega
  rw [hbytes] at hc
  refine ⟨c.skip 4, ?_, Cursor.rest_skip hc⟩
  rw [readHexFour, hc]
  simp only [List.cons_append, hdigit, hlt, hvalue]

/-- An escape of one letter is read as its character. -/
theorem readEscape_short {b : UInt8} {ch : Char} (hb : b ≠ 117) (hshort : shortEscape? b = some ch)
    (hc : c.rest = b :: rest) : Leaves (readEscape c) ch rest := by
  refine ⟨c.next, ?_, Cursor.rest_next hc⟩
  rw [readEscape, hc]
  simp only [if_neg hb, hshort]

/-- A control character is read from its number. -/
theorem readEscape_control {ch : Char} (hch : ch.toNat < 32)
    (hc : c.rest = 117 :: (Utf8.encodeChars (Numeral.hexDigits 4 ch.toNat) ++ rest)) :
    Leaves (readEscape c) ch rest := by
  obtain ⟨c', hfour, hrest⟩ := readHexFour_hexDigits (by omega) (Cursor.rest_next hc)
  have hlow : isLowSurrogate ch.toNat = false := by
    rw [isLowSurrogate, Bool.and_eq_false_imp, decide_eq_true_eq]
    omega
  have hhigh : isHighSurrogate ch.toNat = false := by
    rw [isHighSurrogate, Bool.and_eq_false_imp, decide_eq_true_eq]
    omega
  refine ⟨c', ?_, hrest⟩
  rw [readEscape, hc]
  simp only [if_pos, readCodeEscape, hfour, hlow, hhigh, Char.ofNat_toNat]
  rfl

/-- A character that is not written as it is is written as an escape, and read back. -/
theorem readEscape_escapedChar {ch : Char} (hplain : ¬IsPlain ch) :
    ∃ cs, escapedChar ch = '\\' :: cs ∧ ∀ c rest, c.rest = Utf8.encodeChars cs ++ rest →
      Leaves (readEscape c) ch rest := by
  unfold escapedChar
  -- the characters with an escape of one letter, one after the other
  iterate 7
    split
    · rename_i hch
      subst hch
      exact ⟨_, rfl, fun c rest hc => readEscape_short (by decide) rfl hc⟩
  split
  · rename_i hch
    exact ⟨_, rfl, fun c rest hc => readEscape_control hch hc⟩
  · rename_i hquote hslash _ _ _ _ _ hcontrol
    exact absurd ⟨Nat.not_lt.mp hcontrol, hquote, hslash⟩ hplain

/-- A plain character is written as it is. -/
theorem escapedChar_of_isPlain {ch : Char} (h : IsPlain ch) : escapedChar ch = [ch] := by
  obtain ⟨hcontrol, hquote, hslash⟩ := h
  have hne : ∀ ch' : Char, ch'.toNat < 32 → ch ≠ ch' := by
    rintro ch' hlt rfl
    omega
  rw [escapedChar, if_neg hquote, if_neg hslash, if_neg (hne _ (by decide)),
    if_neg (hne _ (by decide)), if_neg (hne _ (by decide)), if_neg (hne _ (by decide)),
    if_neg (hne _ (by decide)), if_neg (Nat.not_lt.mpr hcontrol)]

/-- Where an escape comes, the bytes that were kept are read as their characters. -/
theorem readTextFrom_escape {done since : List Char} {start c' : Cursor} {chunk : List UInt8}
    {ch : Char} {bytes : List UInt8} (hchunk : chunk.reverse = Utf8.encodeChars since)
    (hc : c.rest = 92 :: bytes) (hread : readEscape c.next = .ok (ch, c')) (fuel : Nat) :
    readTextFrom (fuel + 1) done start chunk c
      = readTextFrom fuel (done ++ since ++ [ch]) c' [] c' := by
  have hquote : ¬(92 : UInt8) = 34 := by decide
  rw [readTextFrom, hc]
  simp only [if_neg hquote, if_pos, chunkChars, hchunk, Utf8.decodeChars_encodeChars, hread]

/-- The escaped characters of a text are read up to the closing quote. The bytes since the last
escape are those of the characters `since`. -/
theorem readTextFrom_escaped {cs since done : List Char} {start : Cursor} {chunk : List UInt8}
    {fuel : Nat} (hchunk : chunk.reverse = Utf8.encodeChars since)
    (hc : c.rest = Utf8.encodeChars (cs.flatMap escapedChar) ++ 34 :: rest)
    (hfuel : c.rest.length < fuel) :
    Leaves (readTextFrom fuel done start chunk c) (done ++ since ++ cs) rest := by
  induction cs generalizing since done start chunk fuel c with
  | nil =>
    cases fuel with
    | zero => exact absurd hfuel (Nat.not_lt_zero _)
    | succ fuel =>
      have hc' : c.rest = 34 :: rest := hc
      refine ⟨c.next, ?_, Cursor.rest_next hc'⟩
      rw [readTextFrom, hc']
      simp only [if_pos, chunkChars, hchunk, Utf8.decodeChars_encodeChars, List.append_nil]
  | cons ch cs ih =>
    rw [List.flatMap_cons, Utf8.encodeChars_append, List.append_assoc] at hc
    by_cases hplain : IsPlain ch
    · -- the bytes of the character are kept
      rw [escapedChar_of_isPlain hplain, Utf8.encodeChars_cons, List.append_assoc] at hc
      obtain ⟨fuel', c', hfuel', hc', hpush⟩ := readTextFrom_push
        (fun b hb => isPlainByte_of_isPlain hplain hb) hc hfuel done start chunk
      have hsince : ((String.utf8EncodeChar ch).reverse ++ chunk).reverse
          = Utf8.encodeChars (since ++ [ch]) := by
        rw [List.reverse_append, List.reverse_reverse, hchunk, Utf8.encodeChars_append,
          Utf8.encodeChars_cons]
        exact congrArg _ (List.append_nil _).symm
      rw [hpush, List.append_cons, List.append_assoc done]
      exact ih hsince hc' (hc' ▸ hfuel')
    · -- the bytes that were kept end at the escape, and none are kept after it
      obtain ⟨cs', hescaped, hread⟩ := readEscape_escapedChar hplain
      rw [hescaped] at hc
      have hc' : c.rest = 92 :: (Utf8.encodeChars cs'
          ++ (Utf8.encodeChars (cs.flatMap escapedChar) ++ 34 :: rest)) := hc
      obtain ⟨c₂, hc₂, hrest₂⟩ := hread c.next _ (Cursor.rest_next hc')
      cases fuel with
      | zero => exact absurd hfuel (Nat.not_lt_zero _)
      | succ fuel =>
        have hfuel₂ : c₂.rest.length < fuel := by
          rw [hc', List.length_cons, List.length_append] at hfuel
          rw [hrest₂]
          omega
        have hnone : ([] : List UInt8).reverse = Utf8.encodeChars [] := rfl
        have hall : done ++ since ++ ch :: cs = done ++ since ++ [ch] ++ [] ++ cs := by simp
        rw [readTextFrom_escape hchunk hc' hc₂, hall]
        exact ih hnone hrest₂ hfuel₂

/-- A text between quotes is read back. -/
theorem readText_textChars {s : String} (hc : c.rest = Utf8.encodeChars (textChars s) ++ rest) :
    Leaves (readText c) s rest := by
  have hc' : c.rest = 34 :: (Utf8.encodeChars (s.toList.flatMap escapedChar) ++ 34 :: rest) := by
    rw [hc, textChars, Utf8.encodeChars_append, List.append_assoc]
    rfl
  have hfuel : c.next.rest.length < c.rest.length + 1 := by
    rw [Cursor.rest_next hc', hc', List.length_cons]
    omega
  have hchars : Leaves (readTextFrom (c.rest.length + 1) [] c.next [] c.next)
      ([] ++ [] ++ s.toList) rest := readTextFrom_escaped rfl (Cursor.rest_next hc') hfuel
  obtain ⟨c₂, hread, hrest⟩ := hchars
  refine ⟨c₂, ?_, hrest⟩
  rw [readText, hread]
  simp only [List.nil_append, String.ofList_toList]

end Texts

end Courier.Json
