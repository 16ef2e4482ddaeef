import Courier.Text.Utf8

/-!
# Reading back the bytes of a text

The UTF-8 form of a text is read back as that text. Everything is said about the numbers that the
bytes stand for, where it is plain arithmetic.
-/

namespace Courier.Utf8

/-! ## §1 Bytes as numbers -/

/-- The byte of a small number stands for that number. -/
private theorem toNat_byte {n : Nat} (h : n < 256) : (UInt8.ofNat n).toNat = n := by
  rw [UInt8.toNat_ofNat']
  exact Nat.mod_eq_of_lt h

/-- The byte that carries the last six bits of a number. -/
private theorem toNat_tail (n : Nat) : (UInt8.ofNat (n % 0x40 + 0x80)).toNat = n % 64 + 128 :=
  toNat_byte (by omega)

private theorem between_tail {n : Nat} {low high : UInt8} (hl : low.toNat ≤ n % 64 + 128)
    (hh : n % 64 + 128 ≤ high.toNat) :
    (decide (low ≤ UInt8.ofNat (n % 0x40 + 0x80)) && decide (UInt8.ofNat (n % 0x40 + 0x80) ≤ high))
      = true := by
  simp only [UInt8.le_iff_toNat_le, toNat_tail, Bool.and_eq_true, decide_eq_true_eq]
  exact ⟨hl, hh⟩

private theorem isTail_tail (n : Nat) : isTail (UInt8.ofNat (n % 0x40 + 0x80)) = true :=
  between_tail (Nat.le_add_left 128 _) (by show n % 64 + 128 ≤ 191; omega)

private theorem tailBits_tail (n : Nat) : tailBits (UInt8.ofNat (n % 0x40 + 0x80)) = n % 64 := by
  rw [tailBits, toNat_tail]
  omega

/-- The second byte of three fits the first, since the character is neither overlong nor a
surrogate. -/
private theorem fitsThree_tail {a : UInt8} {n : Nat} (ha : a.toNat = n / 64 + 224)
    (hlong : 32 ≤ n) (hscalar : n < 0x360 ∨ 0x380 ≤ n) :
    fitsThree a (UInt8.ofNat (n % 0x40 + 0x80)) = true := by
  unfold fitsThree
  split
  · rename_i h
    have h' : a.toNat = 224 := congrArg UInt8.toNat (beq_iff_eq.mp h)
    exact between_tail (by show 160 ≤ _; omega) (by show _ ≤ 191; omega)
  · split
    · rename_i h
      have h' : a.toNat = 237 := congrArg UInt8.toNat (beq_iff_eq.mp h)
      exact between_tail (by show 128 ≤ _; omega) (by show _ ≤ 159; omega)
    · exact isTail_tail n

/-- The second byte of four fits the first, since the character is neither overlong nor out of
range. -/
private theorem fitsFour_tail {a : UInt8} {n : Nat} (ha : a.toNat = n / 64 + 240)
    (hlong : 16 ≤ n) (hrange : n < 0x110) :
    fitsFour a (UInt8.ofNat (n % 0x40 + 0x80)) = true := by
  unfold fitsFour
  split
  · rename_i h
    have h' : a.toNat = 240 := congrArg UInt8.toNat (beq_iff_eq.mp h)
    exact between_tail (by show 144 ≤ _; omega) (by show _ ≤ 191; omega)
  · split
    · rename_i h
      have h' : a.toNat = 244 := congrArg UInt8.toNat (beq_iff_eq.mp h)
      exact between_tail (by show 128 ≤ _; omega) (by show _ ≤ 143; omega)
    · exact isTail_tail n

/-! ## §2 One character -/

/-- A lead byte of one, two, three or four bytes selects the reading of as many. -/
private theorem scan_one {a : UInt8} {rest : List UInt8} (h : a.toNat < 128) :
    scan a rest = .char (Char.ofNat a.toNat) rest :=
  if_pos (UInt8.lt_iff_toNat_lt.mpr h)

private theorem scan_eq {a : UInt8} {rest : List UInt8} (h : 128 ≤ a.toNat) :
    scan a rest = if 0xC2 ≤ a && a ≤ 0xDF then scanTwo a rest
      else if 0xE0 ≤ a && a ≤ 0xEF then scanThree a rest
      else if 0xF0 ≤ a && a ≤ 0xF4 then scanFour a rest
      else .bad 1 :=
  if_neg fun h' => Nat.not_lt.mpr h (UInt8.lt_iff_toNat_lt.mp h')

private theorem scan_two {a : UInt8} {rest : List UInt8} (hl : 0xC2 ≤ a.toNat)
    (hh : a.toNat ≤ 0xDF) : scan a rest = scanTwo a rest := by
  rw [scan_eq (by omega), if_pos]
  simp only [UInt8.le_iff_toNat_le, Bool.and_eq_true, decide_eq_true_eq]
  exact ⟨hl, hh⟩

private theorem scan_three {a : UInt8} {rest : List UInt8} (hl : 0xE0 ≤ a.toNat)
    (hh : a.toNat ≤ 0xEF) : scan a rest = scanThree a rest := by
  rw [scan_eq (by omega), if_neg, if_pos]
  · simp only [UInt8.le_iff_toNat_le, Bool.and_eq_true, decide_eq_true_eq]
    exact ⟨hl, hh⟩
  · simp only [UInt8.le_iff_toNat_le, Bool.and_eq_true, decide_eq_true_eq]
    intro h
    have h' : a.toNat ≤ 223 := h.2
    omega

private theorem scan_four {a : UInt8} {rest : List UInt8} (hl : 0xF0 ≤ a.toNat)
    (hh : a.toNat ≤ 0xF4) : scan a rest = scanFour a rest := by
  rw [scan_eq (by omega), if_neg, if_neg, if_pos]
  · simp only [UInt8.le_iff_toNat_le, Bool.and_eq_true, decide_eq_true_eq]
    exact ⟨hl, hh⟩
  · simp only [UInt8.le_iff_toNat_le, Bool.and_eq_true, decide_eq_true_eq]
    intro h
    have h' : a.toNat ≤ 239 := h.2
    omega
  · simp only [UInt8.le_iff_toNat_le, Bool.and_eq_true, decide_eq_true_eq]
    intro h
    have h' : a.toNat ≤ 223 := h.2
    omega

/-- The bytes of a character are read back as that character. -/
theorem scan_utf8EncodeChar (c : Char) (rest : List UInt8) :
    ∃ a more, String.utf8EncodeChar c = a :: more ∧ scan a (more ++ rest) = .char c rest := by
  have hc : Char.ofNat c.toNat = c := Char.ofNat_toNat c
  have hvalid : c.toNat < 0xd800 ∨ 0xdfff < c.toNat ∧ c.toNat < 0x110000 := c.valid
  generalize hv : c.toNat = v at hc hvalid
  have hv' : c.val.toNat = v := hv
  unfold String.utf8EncodeChar
  simp only [hv']
  split
  · rename_i h₁
    refine ⟨_, _, rfl, ?_⟩
    have ha : (UInt8.ofNat v).toNat = v := toNat_byte (by omega)
    rw [scan_one (by omega), ha, hc]
    rfl
  · rename_i h₁
    split
    · rename_i h₂
      refine ⟨_, _, rfl, ?_⟩
      have ha : (UInt8.ofNat (v / 64 % 0x20 + 0xc0)).toNat = v / 64 + 192 := by
        rw [toNat_byte (by omega)]
        omega
      rw [scan_two (by omega) (by omega), List.cons_append, List.nil_append, scanTwo,
        if_pos (isTail_tail v), ha, tailBits_tail]
      have hn : (v / 64 + 192) % 32 * 64 + v % 64 = v := by omega
      rw [hn, hc]
    · rename_i h₂
      split
      · rename_i h₃
        refine ⟨_, _, rfl, ?_⟩
        have ha : (UInt8.ofNat (v / 4096 % 0x10 + 0xe0)).toNat = v / 64 / 64 + 224 := by
          rw [toNat_byte (by omega)]
          omega
        simp only [List.cons_append, List.nil_append]
        rw [scan_three (by omega) (by omega), scanThree,
          if_pos (fitsThree_tail ha (by omega) (by omega))]
        rw [if_pos (isTail_tail v), ha, tailBits_tail, tailBits_tail]
        have hn : ((v / 64 / 64 + 224) % 16 * 64 + v / 64 % 64) * 64 + v % 64 = v := by omega
        rw [hn, hc]
      · rename_i h₃
        refine ⟨_, _, rfl, ?_⟩
        have ha : (UInt8.ofNat (v / 262144 % 0x08 + 0xf0)).toNat = v / 4096 / 64 + 240 := by
          rw [toNat_byte (by omega)]
          omega
        simp only [List.cons_append, List.nil_append]
        rw [scan_four (by omega) (by omega), scanFour,
          if_pos (fitsFour_tail ha (by omega) (by omega))]
        rw [if_pos (isTail_tail (v / 64))]
        rw [if_pos (isTail_tail v), ha, tailBits_tail, tailBits_tail, tailBits_tail]
        have hn : (((v / 4096 / 64 + 240) % 8 * 64 + v / 4096 % 64) * 64 + v / 64 % 64) * 64
            + v % 64 = v := by omega
        rw [hn, hc]

/-! ## §3 Whole texts -/

/-- As many characters are read back as there are. -/
private theorem decodeFrom_encodeChars (cs : List Char) (fuel index : Nat)
    (h : cs.length ≤ fuel) : decodeFrom fuel index (encodeChars cs) = .ok cs := by
  induction cs generalizing fuel index with
  | nil => cases fuel <;> rfl
  | cons c cs ih =>
    obtain ⟨a, more, hbytes, hscan⟩ := scan_utf8EncodeChar c (encodeChars cs)
    have hcons : encodeChars (c :: cs) = a :: (more ++ encodeChars cs) := by
      rw [encodeChars, List.flatMap_cons, hbytes, List.cons_append]
      rfl
    cases fuel with
    | zero => exact absurd h (Nat.not_succ_le_zero _)
    | succ fuel =>
      rw [hcons, decodeFrom, hscan]
      simp only [ih fuel _ (Nat.le_of_succ_le_succ h)]

theorem encodeChars_cons (c : Char) (cs : List Char) :
    encodeChars (c :: cs) = String.utf8EncodeChar c ++ encodeChars cs :=
  List.flatMap_cons

theorem encodeChars_append (cs cs' : List Char) :
    encodeChars (cs ++ cs') = encodeChars cs ++ encodeChars cs' :=
  List.flatMap_append

/-- A text has no more characters than bytes. -/
theorem length_le_encodeChars (cs : List Char) : cs.length ≤ (encodeChars cs).length := by
  induction cs with
  | nil => exact Nat.le_refl 0
  | cons c cs ih =>
    obtain ⟨a, more, hbytes, _⟩ := scan_utf8EncodeChar c []
    rw [encodeChars_cons, List.length_append, hbytes, List.length_cons, List.length_cons]
    omega

/-- The UTF-8 form of characters is read back as these characters. -/
theorem decodeChars_encodeChars (cs : List Char) : decodeChars (encodeChars cs) = .ok cs :=
  decodeFrom_encodeChars cs _ 0 (length_le_encodeChars cs)

/-- The UTF-8 form of a text is read back as that text. -/
theorem decode_encode (s : String) : decode (encode s) = .ok s := by
  rw [decode, encode, decodeChars_encodeChars]
  show Except.ok (String.ofList s.toList) = Except.ok s
  rw [String.ofList_toList]

/-! ## §4 Bytes of a character -/

/-- A character of the first 128 is one byte. -/
theorem utf8EncodeChar_of_lt {c : Char} (h : c.toNat < 128) :
    String.utf8EncodeChar c = [UInt8.ofNat c.toNat] := by
  have hle : c.val.toNat ≤ 0x7f := Nat.le_of_lt_succ h
  rw [String.utf8EncodeChar]
  exact if_pos hle

/-- The bytes of every other character are 128 or more. -/
theorem le_toNat_of_mem_utf8EncodeChar {c : Char} (h : 128 ≤ c.toNat) {b : UInt8}
    (hb : b ∈ String.utf8EncodeChar c) : 128 ≤ b.toNat := by
  have hlead : ∀ n low, n + low < 256 → 128 ≤ low → 128 ≤ (UInt8.ofNat (n + low)).toNat := by
    intro n low hlt hlow
    rw [toNat_byte hlt]
    omega
  have htail : ∀ n, 128 ≤ (UInt8.ofNat (n % 0x40 + 0x80)).toNat := fun n => by
    rw [toNat_tail]
    omega
  have hone : ¬c.val.toNat ≤ 0x7f := Nat.not_le.mpr h
  simp only [String.utf8EncodeChar, if_neg hone] at hb
  split at hb
  · simp only [List.mem_cons, List.not_mem_nil, or_false] at hb
    rcases hb with rfl | rfl
    · exact hlead _ _ (by omega) (by decide)
    · exact htail _
  · split at hb
    · simp only [List.mem_cons, List.not_mem_nil, or_false] at hb
      rcases hb with rfl | rfl | rfl
      · exact hlead _ _ (by omega) (by decide)
      · exact htail _
      · exact htail _
    · simp only [List.mem_cons, List.not_mem_nil, or_false] at hb
      rcases hb with rfl | rfl | rfl | rfl
      · exact hlead _ _ (by omega) (by decide)
      · exact htail _
      · exact htail _
      · exact htail _

end Courier.Utf8
