import Courier.Proofs.Text.Split
import Courier.Trace.State

/-!
# Reading back the states of vendors

The text of a state is read back as that state: neither keys nor values of its members hold the
characters that stand between them.
-/

namespace Courier.Trace

/-! ## §1 Members -/

/-- The key of a member holds neither of the characters that separate. -/
theorem isKeyChar_separators : isKeyChar '=' = false ∧ isKeyChar ',' = false := by decide

theorem Member.key_ne {m : Member} (h : m.isValid = true) {c : Char} (hc : c ∈ m.1) :
    c ≠ '=' ∧ c ≠ ',' := by
  simp only [isValid, isKey, Bool.and_eq_true, List.all_eq_true] at h
  have hkey : isKeyChar c = true := h.1.1.1.1 c hc
  constructor
  · rintro rfl
    rw [isKeyChar_separators.1] at hkey
    cases hkey
  · rintro rfl
    rw [isKeyChar_separators.2] at hkey
    cases hkey

theorem Member.value_ne {m : Member} (h : m.isValid = true) {c : Char} (hc : c ∈ m.2) :
    c ≠ '=' ∧ c ≠ ',' := by
  simp only [isValid, isValue, Bool.and_eq_true, Bool.not_eq_true', List.contains_eq_mem,
    decide_eq_false_iff_not] at h
  obtain ⟨_, ⟨hcomma, hequals⟩, _⟩ := h
  exact ⟨fun heq => hequals (heq ▸ hc), fun heq => hcomma (heq ▸ hc)⟩

/-- A member is read back from its characters. -/
theorem Member.read_chars {m : Member} (h : m.isValid = true) : read m.chars = some m := by
  have hkey : ∀ c ∈ m.1, (c != '=') = true := fun c hc => bne_iff_ne.mpr (key_ne h hc).1
  have hvalue : m.2.dropWhile (· == '=') = m.2 :=
    Text.dropWhile_of_forall fun c hc => beq_eq_false_iff_ne.mpr (value_ne h hc).1
  have hdrop : m.chars.dropWhile (· != '=') = '=' :: m.2 := by
    rw [chars, List.dropWhile_append_of_pos hkey]
    rfl
  have htake : m.chars.takeWhile (· != '=') = m.1 := by
    rw [chars, List.takeWhile_append_of_pos hkey]
    simp
  have hsame : ('=' :: m.2).dropWhile (· == '=') = m.2 := hvalue
  rw [read, hdrop]
  simp only [htake, hsame]
  exact if_pos h

/-- The text of a member holds no comma, and it is not empty. -/
theorem Member.chars_separate {m : Member} (h : m.isValid = true) :
    ',' ∉ m.chars ∧ m.chars ≠ [] := by
  refine ⟨fun hmem => ?_, by simp [chars]⟩
  rw [chars, List.mem_append, List.mem_cons] at hmem
  rcases hmem with hkey | heq | hvalue
  · exact (key_ne h hkey).2 rfl
  · cases heq
  · exact (value_ne h hvalue).2 rfl

/-! ## §2 States -/

namespace State

theorem readMembers_chars {members : List Member} (h : ∀ m ∈ members, m.isValid = true) :
    readMembers (members.map Member.chars) = some members := by
  induction members with
  | nil => rfl
  | cons m rest ih =>
    have hrest := ih fun m hm => h m (List.mem_cons_of_mem _ hm)
    rw [List.map_cons, readMembers, Member.read_chars (h m List.mem_cons_self), hrest]

/-- A state is read back from its text. -/
theorem read_text (s : State) : read s.text = s := by
  have hsplit : Text.splitEnded ',' s.text.toList = s.members.map Member.chars := by
    have hparts : ∀ part ∈ s.members.map Member.chars, ',' ∉ part ∧ part ≠ [] := by
      simp only [List.forall_mem_map]
      exact fun m hm => Member.chars_separate (s.valid m hm)
    rw [← Text.splitEnded_joinWith hparts, List.map_map]
    rfl
  have hmembers : readMembers (Text.splitEnded ',' s.text.toList) = some s.members := by
    rw [hsplit, readMembers_chars s.valid]
  have hread : read? s.text = some s := by
    unfold read?
    split
    · rename_i members hread
      obtain rfl := Option.some.inj (hread.symm.trans hmembers)
      rfl
    · rename_i hnone
      rw [hmembers] at hnone
      cases hnone
  rw [read, hread]
  rfl

end State

end Courier.Trace
