import Courier.Proofs.Text.Grammar
import Courier.Settings.Value

/-!
# The grammar of binary numbers

Which texts of a variable are binary numbers, said without the reader: an optional sign, and then the
name of infinity or of what is no number, or digits with an optional point and an optional exponent.
`exists_readFloat_iff` says that the reader accepts these texts and no others. It cuts a text at the
end of the digits, at a point there, and at the end of the digits behind that; §2 says that no other
cut is possible.
-/

namespace Courier.Settings

open Numeral

/-! ## §1 The grammar -/

/-- What may follow the digits of a number: nothing, or a letter and a whole number. -/
inductive IsPower : List Char → Prop where
  | absent : IsPower []
  | power {e : Char} {cs : List Char} {n : Int} :
      e = 'e' ∨ e = 'E' → Signed cs n → IsPower (e :: cs)

/-- The names of numbers that have no digits, in any case. -/
def IsName (cs : List Char) : Prop :=
  cs.map Char.toLower ∈ ["inf".toList, "infinity".toList, "nan".toList]

/-- A number without its sign: a name, or digits with a point before, among or behind them or none,
and then an exponent or none. -/
inductive IsMagnitude : List Char → Prop where
  | name {cs : List Char} : IsName cs → IsMagnitude cs
  | whole {digits power : List Char} {n : Nat} :
      Digits digits n → IsPower power → IsMagnitude (digits ++ power)
  | pointed {whole fraction power : List Char} {n : Nat} :
      Digits (whole ++ fraction) n → IsPower power →
      IsMagnitude (whole ++ '.' :: (fraction ++ power))

/-- A number that has a sign before it or none. -/
inductive IsNumber : List Char → Prop where
  | plain {cs : List Char} : IsMagnitude cs → IsNumber cs
  | plus {cs : List Char} : IsMagnitude cs → IsNumber ('+' :: cs)
  | minus {cs : List Char} : IsMagnitude cs → IsNumber ('-' :: cs)

/-! ## §2 Where numbers are cut -/

/-- The characters are cut, and none is lost. -/
theorem spanDigits_eq (cs : List Char) : (spanDigits cs).1 ++ (spanDigits cs).2 = cs := by
  induction cs with
  | nil => rfl
  | cons c rest ih =>
    rw [spanDigits]
    split
    · exact congrArg (c :: ·) ih
    · rfl

/-- Digits end where no other one follows. -/
theorem spanDigits_append {digits rest : List Char} (hdigits : ∀ c ∈ digits, c.isDigit = true)
    (hrest : ∀ c tail, rest = c :: tail → c.isDigit = false) :
    spanDigits (digits ++ rest) = (digits, rest) := by
  induction digits with
  | nil =>
    cases rest with
    | nil => rfl
    | cons c tail => simp [spanDigits, hrest c tail rfl]
  | cons c digits ih =>
    have hc := hdigits c List.mem_cons_self
    have htail : ∀ d ∈ digits, d.isDigit = true := fun d hd => hdigits d (List.mem_cons_of_mem _ hd)
    rw [List.cons_append, spanDigits, if_pos hc, ih htail]

/-- The digits behind the point, if there is one, and what follows them. -/
def behindPoint (rest : List Char) : List Char × List Char :=
  match rest with
  | '.' :: more => spanDigits more
  | _ => ([], rest)

theorem behindPoint_cases (rest : List Char) :
    (∃ more, rest = '.' :: more ∧ behindPoint rest = spanDigits more) ∨
      behindPoint rest = ([], rest) := by
  unfold behindPoint
  split
  · exact .inl ⟨_, rfl, rfl⟩
  · exact .inr rfl

theorem isDigit_digitChar : ∀ d < 10, (digitChar d).isDigit = true := by
  decide

/-- An exponent begins neither with a digit nor with a point. -/
theorem IsPower.head_ne {power tail : List Char} {c : Char} (h : IsPower power)
    (hcons : power = c :: tail) : c.isDigit = false ∧ c ≠ '.' := by
  subst hcons
  cases h with
  | power he _ => rcases he with rfl | rfl <;> decide

theorem IsPower.spanDigits_append {digits power : List Char} (h : IsPower power)
    (hdigits : ∀ c ∈ digits, c.isDigit = true) : spanDigits (digits ++ power) = (digits, power) :=
  Settings.spanDigits_append hdigits fun _ _ hcons => (h.head_ne hcons).1

theorem IsPower.behindPoint_eq {power : List Char} (h : IsPower power) :
    behindPoint power = ([], power) := by
  unfold behindPoint
  split
  · exact absurd rfl (h.head_ne rfl).2
  · rfl

/-- A number is known by its cuts. -/
theorem isMagnitude_iff {cs : List Char} : IsMagnitude cs ↔ IsName cs ∨
    (∃ n, Digits ((spanDigits cs).1 ++ (behindPoint (spanDigits cs).2).1) n) ∧
      IsPower (behindPoint (spanDigits cs).2).2 := by
  constructor
  · intro h
    cases h with
    | name hname => exact .inl hname
    | @whole digits power n hdigits hpower =>
      have hall : ∀ c ∈ digits, c.isDigit = true := hdigits.forall_mem isDigit_digitChar
      rw [hpower.spanDigits_append hall, hpower.behindPoint_eq, List.append_nil]
      exact .inr ⟨⟨n, hdigits⟩, hpower⟩
    | @pointed whole fraction power n hdigits hpower =>
      have hall : ∀ c ∈ whole ++ fraction, c.isDigit = true := hdigits.forall_mem isDigit_digitChar
      rw [List.forall_mem_append] at hall
      have hwhole : spanDigits (whole ++ '.' :: (fraction ++ power))
          = (whole, '.' :: (fraction ++ power)) := by
        apply spanDigits_append hall.1
        rintro c tail ⟨⟩
        decide
      have hfraction : behindPoint ('.' :: (fraction ++ power)) = (fraction, power) :=
        hpower.spanDigits_append hall.2
      rw [hwhole, hfraction]
      exact .inr ⟨⟨n, hdigits⟩, hpower⟩
  · rintro (hname | ⟨⟨n, hdigits⟩, hpower⟩)
    · exact .name hname
    · have hcs := spanDigits_eq cs
      generalize spanDigits cs = span at hcs hdigits hpower
      obtain ⟨whole, rest⟩ := span
      subst hcs
      rcases behindPoint_cases rest with ⟨more, hrest, hbehind⟩ | hbehind
      · rw [hbehind] at hdigits hpower
        have hpointed := IsMagnitude.pointed hdigits hpower
        rwa [spanDigits_eq more, ← hrest] at hpointed
      · rw [hbehind, List.append_nil] at hdigits
        rw [hbehind] at hpower
        exact .whole hdigits hpower

/-- A number without its sign does not begin with one. -/
theorem IsMagnitude.ne_sign {cs rest : List Char} {c : Char} (h : IsMagnitude cs)
    (hcons : cs = c :: rest) : c ≠ '+' ∧ c ≠ '-' := by
  cases h with
  | name hname =>
    rw [IsName, hcons, List.map_cons] at hname
    constructor
    · rintro rfl
      simp at hname
    · rintro rfl
      simp at hname
  | whole hdigits _ =>
    obtain ⟨d, _, hd, rfl⟩ := hdigits.exists_cons
    rw [← (List.cons.inj hcons).1]
    exact digitChar_ne_sign hd
  | @pointed whole fraction power n hdigits _ =>
    cases whole with
    | nil =>
      rw [← (List.cons.inj hcons).1]
      decide
    | cons c' whole =>
      rw [← (List.cons.inj hcons).1]
      exact Digits.ne_sign hdigits

/-! ## §3 Numbers are read -/

theorem exists_readDigits_iff {cs : List Char} :
    (∃ n, readDigits 10 cs = some n) ↔ ∃ n, Digits cs n :=
  exists_congr fun _ => readDigits_eq_some_iff

theorem exists_readPower_iff {cs : List Char} : (∃ e, readPower cs = some e) ↔ IsPower cs := by
  constructor
  · rintro ⟨e, h⟩
    unfold readPower at h
    split at h
    · exact .absent
    · split at h
      · rename_i he
        split at h
        all_goals
          obtain ⟨_, hread, -⟩ := Option.map_eq_some_iff.mp h
          obtain ⟨n, hdigits, -⟩ := Option.bind_eq_some_iff.mp hread
          rw [readDigits_eq_some_iff] at hdigits
        · exact .power he (.minus hdigits)
        · exact .power he (.unsigned (.plus hdigits))
        · exact .power he (.unsigned (.plain hdigits))
      · cases h
  · intro h
    cases h with
    | absent => exact ⟨0, rfl⟩
    | power he hsigned =>
      cases hsigned with
      | minus hdigits =>
        simp only [readPower, if_pos he, readDigits_eq_some_iff.mpr hdigits]
        exact ⟨_, rfl⟩
      | unsigned h =>
        cases h with
        | plus hdigits =>
          simp only [readPower, if_pos he, readDigits_eq_some_iff.mpr hdigits]
          exact ⟨_, rfl⟩
        | plain hdigits =>
          simp only [readPower, if_pos he]
          split
          · exact absurd rfl hdigits.ne_sign.2
          · exact absurd rfl hdigits.ne_sign.1
          · rw [readDigits_eq_some_iff.mpr hdigits]
            exact ⟨_, rfl⟩

/-- A number is made of its digits and its exponent, if both are read. -/
theorem readMagnitude_eq (negative : Bool) (cs : List Char) : readMagnitude negative cs =
    if String.ofList (cs.map Char.toLower) = "inf" ∨
        String.ofList (cs.map Char.toLower) = "infinity" then some (Binary64.infinity negative)
    else if String.ofList (cs.map Char.toLower) = "nan" then some Binary64.nan
    else
      (readDigits 10 ((spanDigits cs).1 ++ (behindPoint (spanDigits cs).2).1)).bind fun n =>
        (readPower (behindPoint (spanDigits cs).2).2).map fun power =>
          Binary64.ofDecimal negative n (power - (behindPoint (spanDigits cs).2).1.length) := by
  unfold readMagnitude
  dsimp only
  split
  · rfl
  · split
    · rfl
    · split
      · rename_i n power hdigits hpower
        refine (Option.bind_eq_some_iff.mpr ⟨n, hdigits, ?_⟩).symm
        exact Option.map_eq_some_iff.mpr ⟨power, hpower, rfl⟩
      · rename_i hnone
        refine (Option.bind_eq_none_iff.mpr fun n hdigits => Option.map_eq_none_iff.mpr ?_).symm
        exact Option.eq_none_iff_forall_ne_some.mpr fun power => hnone n power hdigits

theorem exists_readMagnitude_iff {negative : Bool} {cs : List Char} :
    (∃ x, readMagnitude negative cs = some x) ↔ IsMagnitude cs := by
  have hname : IsName cs ↔ (String.ofList (cs.map Char.toLower) = "inf" ∨
      String.ofList (cs.map Char.toLower) = "infinity") ∨
        String.ofList (cs.map Char.toLower) = "nan" := by
    simp [IsName, ← String.toList_inj, or_assoc]
  rw [readMagnitude_eq, isMagnitude_iff, hname, ← exists_readDigits_iff, ← exists_readPower_iff]
  split
  · simp [*]
  · split
    · simp [*]
    · cases readDigits 10 ((spanDigits cs).1 ++ (behindPoint (spanDigits cs).2).1) <;>
        cases readPower (behindPoint (spanDigits cs).2).2 <;> simp [*]

/-- A text is read as a binary number exactly if it is one. -/
theorem exists_readFloat_iff {s : String} : (∃ x, readFloat s = some x) ↔ IsNumber s.toList := by
  unfold readFloat
  split
  · rename_i rest hs
    rw [exists_readMagnitude_iff, hs]
    constructor
    · exact .minus
    · intro h
      cases h with
      | plain h => exact absurd rfl (h.ne_sign rfl).2
      | minus h => exact h
  · rename_i rest hs
    rw [exists_readMagnitude_iff, hs]
    constructor
    · exact .plus
    · intro h
      cases h with
      | plain h => exact absurd rfl (h.ne_sign rfl).1
      | plus h => exact h
  · rename_i hminus hplus
    rw [exists_readMagnitude_iff]
    constructor
    · exact .plain
    · intro h
      generalize hcs : s.toList = cs at h
      cases h with
      | plain h => exact h
      | plus _ => exact absurd hcs (hplus _)
      | minus _ => exact absurd hcs (hminus _)

end Courier.Settings
