import Courier.Text.Lowercase

/-!
# Small letters stay small

A text in small letters is left as it is, so a text is brought into small letters once and for all:
`lowercase_lowercase`. That no small letter is the capital of another one is a property of the table
of letters; it is checked for its runs, not for every letter of a run. A word of ASCII is written in
capitals of ASCII only, unless one of its letters is that of the dotted capital I or of the sign for
kelvins: `lowercase_eq_iff`.
-/

namespace Courier.Text

/-! ## §1 The table of letters -/

/-- Whether no small letter of one run is a capital of another one: the two lie apart, or capitals
and small letters take turns. -/
def liesApart (first last step small first' last' step' : Nat) : Bool :=
  Nat.blt (small + (last - first)) first' || Nat.blt last' small ||
    (Nat.beq step' 2 && (Nat.beq step 2 || Nat.beq first last)
      && Nat.beq ((small + first') % 2) 1)

/-- Whether the small letters of a run are characters that come after ASCII and are not the dotted
capital I. Only the sign for kelvins has its small letter in ASCII. -/
def isBeyondAscii (first last small : Nat) : Bool :=
  (Nat.beq first 0x212A && Nat.beq last 0x212A && Nat.beq small 0x6B) ||
    (Nat.ble 128 small &&
      (Nat.blt (small + (last - first)) 0x130 || Nat.blt 0x130 small) &&
      (Nat.blt (small + (last - first)) 0xD800 ||
        (Nat.blt 0xDFFF small && Nat.blt (small + (last - first)) 0x110000)))

theorem all_liesApart : (smallLetterRuns.all fun run => smallLetterRuns.all fun other =>
    liesApart run.1 run.2.1 run.2.2.1 run.2.2.2 other.1 other.2.1 other.2.2.1) = true := by
  decide +kernel

theorem all_isBeyondAscii :
    (smallLetterRuns.all fun run => isBeyondAscii run.1 run.2.1 run.2.2.2) = true := by
  decide +kernel

/-- The small letter of a capital comes from a run that has the capital. -/
theorem exists_run_of_smallLetterIn {n m : Nat} {runs : List (Nat × Nat × Nat × Nat)}
    (h : smallLetterIn n runs = some m) :
    ∃ first last step small, (first, last, step, small) ∈ runs ∧ first ≤ n ∧ n ≤ last ∧
      (n - first) % step = 0 ∧ m = small + (n - first) := by
  induction runs with
  | nil => cases h
  | cons run rest ih =>
    obtain ⟨first, last, step, small⟩ := run
    rw [smallLetterIn] at h
    split at h
    · rename_i hn
      exact ⟨first, last, step, small, List.mem_cons_self, hn.1, hn.2.1, hn.2.2,
        (Option.some.inj h).symm⟩
    · obtain ⟨first', last', step', small', hmem, hrun⟩ := ih h
      exact ⟨first', last', step', small', List.mem_cons_of_mem _ hmem, hrun⟩

/-- A small letter of the table is not a capital of the table. -/
theorem smallLetterIn_of_small {n m : Nat} (h : smallLetterIn n smallLetterRuns = some m) :
    smallLetterIn m smallLetterRuns = none := by
  obtain ⟨first, last, step, small, hrun, hfirst, hlast, hstep, hm⟩ :=
    exists_run_of_smallLetterIn h
  cases hagain : smallLetterIn m smallLetterRuns with
  | none => rfl
  | some k =>
    obtain ⟨first', last', step', small', hrun', hfirst', hlast', hstep', -⟩ :=
      exists_run_of_smallLetterIn hagain
    have hapart := List.all_eq_true.mp (List.all_eq_true.mp all_liesApart _ hrun) _ hrun'
    simp only [liesApart, Bool.or_eq_true, Bool.and_eq_true, Nat.blt_eq, Nat.beq_eq] at hapart
    rcases hapart with (hbelow | habove) | ⟨⟨rfl, hturns⟩, hparity⟩
    · omega
    · omega
    · -- both runs go by twos, or the first one has a single letter: the parities differ
      rcases hturns with rfl | rfl
      · omega
      · omega

/-! ## §2 Small characters -/

/-- A character that is its own small form, wherever it stands. -/
def IsSmall (c : Char) : Prop :=
  c ≠ capitalSigma ∧ smallLetters c = [c]

instance : DecidablePred IsSmall :=
  fun c => inferInstanceAs (Decidable (c ≠ capitalSigma ∧ smallLetters c = [c]))

theorem isSmall_toLower : ∀ n < 128, IsSmall (Char.ofNat n).toLower := by
  decide +kernel

/-- What is written for the dotted capital I, for a capital sigma and for the sign for kelvins. -/
theorem isSmall_special :
    ∀ n ∈ [0x69, 0x307, 0x3C2, 0x3C3, 0x6B], IsSmall (Char.ofNat n) := by
  decide +kernel

/-- A character that is none of those of ASCII, nor a capital. -/
theorem isSmall_of_not_capital {c : Char} (hsigma : c ≠ capitalSigma) (hascii : ¬c.toNat < 128)
    (hdotted : c.toNat ≠ 0x130) (hcapital : smallLetterIn c.toNat smallLetterRuns = none) :
    IsSmall c := by
  refine ⟨hsigma, ?_⟩
  rw [smallLetters, if_neg hascii, if_neg hdotted, hcapital]

/-- A small letter of the table is a character that comes after ASCII and is not the dotted capital
I, but for the one of the sign for kelvins. -/
theorem smallLetterIn_range {n m : Nat} (h : smallLetterIn n smallLetterRuns = some m) :
    m = 0x6B ∨ 128 ≤ m ∧ m ≠ 0x130 ∧ (Char.ofNat m).toNat = m := by
  obtain ⟨first, last, step, small, hrun, hfirst, hlast, -, hm⟩ := exists_run_of_smallLetterIn h
  have hbeyond := List.all_eq_true.mp all_isBeyondAscii _ hrun
  simp only [isBeyondAscii, Bool.or_eq_true, Bool.and_eq_true, Nat.beq_eq, Nat.blt_eq,
    Nat.ble_eq] at hbeyond
  rcases hbeyond with hkelvin | ⟨⟨hascii, hdotted⟩, hchar⟩
  · exact .inl (by omega)
  · have hvalid : m.isValidChar := by
      rw [Nat.isValidChar]
      omega
    have htoNat : (Char.ofNat m).toNat = m := by
      rw [Char.ofNat, dif_pos hvalid]
      rfl
    exact .inr ⟨by omega, by omega, htoNat⟩

theorem isSmall_of_smallLetterIn {n m : Nat} (h : smallLetterIn n smallLetterRuns = some m) :
    IsSmall (Char.ofNat m) := by
  have hcapital := smallLetterIn_of_small h
  rcases smallLetterIn_range h with rfl | ⟨hascii, hdotted, htoNat⟩
  · exact isSmall_special 0x6B (by decide)
  · have hsigma : Char.ofNat m ≠ capitalSigma := by
      intro heq
      rw [← htoNat, heq] at hcapital
      exact absurd hcapital (by decide +kernel)
    rw [← htoNat] at hascii hdotted hcapital
    exact isSmall_of_not_capital hsigma (Nat.not_lt_of_le hascii) hdotted hcapital

/-- The small form of a character is in small letters. -/
theorem isSmall_of_mem_smallLetters {c d : Char} (hsigma : c ≠ capitalSigma)
    (h : d ∈ smallLetters c) : IsSmall d := by
  unfold smallLetters at h
  split at h
  · rename_i hascii
    have hlower := isSmall_toLower c.toNat hascii
    rw [Char.ofNat_toNat] at hlower
    rw [List.mem_singleton.mp h]
    exact hlower
  · rename_i hascii
    split at h
    · simp only [List.mem_cons, List.not_mem_nil, or_false] at h
      rcases h with rfl | rfl
      · exact isSmall_special 0x69 (by decide)
      · exact isSmall_special 0x307 (by decide)
    · rename_i hdotted
      split at h
      · rename_i m hsome
        rw [List.mem_singleton.mp h]
        exact isSmall_of_smallLetterIn hsome
      · rename_i hnone
        rw [List.mem_singleton.mp h]
        exact isSmall_of_not_capital hsigma hascii hdotted hnone

theorem isSmall_smallSigma (before after : List Char) : IsSmall (smallSigma before after) := by
  unfold smallSigma
  split
  · exact isSmall_special 0x3C2 (by decide)
  · exact isSmall_special 0x3C3 (by decide)

/-! ## §3 Texts in small letters -/

theorem isSmall_of_mem_lowercaseAfter {before cs : List Char} {d : Char}
    (h : d ∈ lowercaseAfter before cs) : IsSmall d := by
  induction cs generalizing before with
  | nil => cases h
  | cons c rest ih =>
    rw [lowercaseAfter, List.mem_append] at h
    rcases h with hhead | hrest
    · split at hhead
      · rw [List.mem_singleton.mp hhead]
        exact isSmall_smallSigma before rest
      · rename_i hsigma
        exact isSmall_of_mem_smallLetters hsigma hhead
    · exact ih hrest

/-- Small characters are left as they are, whatever stands before them. -/
theorem lowercaseAfter_of_isSmall {before cs : List Char} (h : ∀ c ∈ cs, IsSmall c) :
    lowercaseAfter before cs = cs := by
  induction cs generalizing before with
  | nil => rfl
  | cons c rest ih =>
    obtain ⟨hsigma, hsmall⟩ := h c List.mem_cons_self
    have hrest : ∀ d ∈ rest, IsSmall d := fun d hd => h d (List.mem_cons_of_mem _ hd)
    rw [lowercaseAfter, if_neg hsigma, hsmall, ih hrest]
    rfl

/-- A text in small letters is left as it is. -/
theorem lowercase_lowercase (s : String) : lowercase (lowercase s) = lowercase s := by
  unfold lowercase
  rw [String.toList_ofList]
  exact congrArg String.ofList
    (lowercaseAfter_of_isSmall fun _ hmem => isSmall_of_mem_lowercaseAfter hmem)

/-! ## §4 Words of ASCII -/

/-- A small letter that only characters of ASCII are written for. -/
def IsOwn (d : Char) : Prop :=
  d.toNat < 128 ∧ d ≠ 'i' ∧ d ≠ 'k'

instance : DecidablePred IsOwn :=
  fun d => inferInstanceAs (Decidable (d.toNat < 128 ∧ d ≠ 'i' ∧ d ≠ 'k'))

theorem toLower_of_not_ascii {c : Char} (h : ¬c.toNat < 128) : c.toLower = c := by
  apply dif_neg
  rintro ⟨-, hle⟩
  have hZ : c.val.toNat ≤ 90 := UInt32.le_iff_toNat_le.mp hle
  have hval : 128 ≤ c.val.toNat := Nat.le_of_not_lt h
  omega

/-- The small form of a character, given what stands around it. -/
def smallForm (before : List Char) (c : Char) (rest : List Char) : List Char :=
  if c = capitalSigma then [smallSigma before rest] else smallLetters c

theorem smallForm_of_ascii {before rest : List Char} {c : Char} (h : c.toNat < 128) :
    smallForm before c rest = [c.toLower] := by
  have hsigma : c ≠ capitalSigma := by
    rintro rfl
    exact absurd h (by decide)
  rw [smallForm, if_neg hsigma, smallLetters, if_pos h]

/-- In the small form of any other character there is a character that is not of a word of ASCII. -/
theorem exists_not_isOwn {before rest : List Char} {c : Char} (h : ¬c.toNat < 128) :
    ∃ d ∈ smallForm before c rest, ¬IsOwn d := by
  unfold smallForm smallLetters
  rw [if_neg h]
  split
  · refine ⟨_, List.mem_singleton_self _, ?_⟩
    unfold smallSigma
    split <;> decide
  · split
    · exact ⟨'i', List.mem_cons_self, by decide⟩
    · split
      · rename_i m hsome
        refine ⟨_, List.mem_singleton_self _, ?_⟩
        rcases smallLetterIn_range hsome with rfl | ⟨hascii, -, htoNat⟩
        · decide
        · rintro ⟨hlt, -⟩
          rw [htoNat] at hlt
          exact Nat.not_lt_of_le hascii hlt
      · exact ⟨c, List.mem_singleton_self c, fun hown => h hown.1⟩

theorem lowercaseAfter_eq_iff {before cs word : List Char} (h : ∀ d ∈ word, IsOwn d) :
    lowercaseAfter before cs = word ↔ cs.map Char.toLower = word := by
  induction cs generalizing before word with
  | nil => rfl
  | cons c rest ih =>
    have hcons : lowercaseAfter before (c :: rest)
        = smallForm before c rest ++ lowercaseAfter (c :: before) rest := rfl
    rw [hcons, List.map_cons]
    by_cases hascii : c.toNat < 128
    · rw [smallForm_of_ascii hascii, List.singleton_append]
      cases word with
      | nil => simp
      | cons d word =>
        have hword : ∀ e ∈ word, IsOwn e := fun e he => h e (List.mem_cons_of_mem _ he)
        rw [List.cons.injEq, List.cons.injEq, ih hword]
    · -- such a character is in no word of ASCII, neither by its small form nor as it is
      apply iff_of_false
      · rintro rfl
        obtain ⟨d, hd, hown⟩ := @exists_not_isOwn before rest c hascii
        exact hown (h d (List.mem_append_left _ hd))
      · rintro rfl
        have hown := h c.toLower List.mem_cons_self
        rw [toLower_of_not_ascii hascii] at hown
        exact hascii hown.1

/-- A text is a word of ASCII in any case exactly if its characters are the letters of the word, each
of them a capital or a small letter of ASCII. -/
theorem lowercase_eq_iff {s word : String} (h : ∀ d ∈ word.toList, IsOwn d) :
    lowercase s = word ↔ s.toList.map Char.toLower = word.toList := by
  rw [lowercase, ← String.toList_inj, String.toList_ofList, lowercaseAfter_eq_iff h]

end Courier.Text
