import Courier.Text.Blank

/-!
# Texts in parts

Parts that do not hold the separator are found again in the text that is made of them. A text that
is split at every separator is made again of its parts, whatever it is.
-/

namespace Courier.Text

variable {separator : Char}

/-- A part ends at the separator. -/
theorem splitEnded_append {part : List Char} (h : separator ∉ part) (rest : List Char) :
    splitEnded separator (part ++ separator :: rest) = part :: splitEnded separator rest := by
  induction part with
  | nil => simp [splitEnded]
  | cons c part ih =>
    rw [List.mem_cons, not_or] at h
    rw [List.cons_append, splitEnded, if_neg (Ne.symm h.1), ih h.2]

/-- A text without the separator is a part of its own. -/
theorem splitEnded_of_not_mem {part : List Char} (h : separator ∉ part) (hne : part ≠ []) :
    splitEnded separator part = [part] := by
  induction part with
  | nil => exact absurd rfl hne
  | cons c part ih =>
    rw [List.mem_cons, not_or] at h
    rw [splitEnded, if_neg (Ne.symm h.1)]
    cases part with
    | nil => rfl
    | cons d part => rw [ih h.2 (List.cons_ne_nil d part)]

/-- Parts that are not empty are found again in the text that is made of them. -/
theorem splitEnded_joinWith {parts : List (List Char)}
    (h : ∀ part ∈ parts, separator ∉ part ∧ part ≠ []) :
    splitEnded separator
      (joinWith (String.singleton separator) (parts.map String.ofList)).toList = parts := by
  induction parts with
  | nil => rfl
  | cons part rest ih =>
    obtain ⟨hpart, hne⟩ := h part List.mem_cons_self
    cases rest with
    | nil => simpa [joinWith] using splitEnded_of_not_mem hpart hne
    | cons next rest =>
      have hrest := ih fun p hp => h p (List.mem_cons_of_mem _ hp)
      simp only [List.map_cons, joinWith, String.toList_append, String.toList_ofList,
        String.toList_singleton, List.append_assoc, List.singleton_append] at hrest ⊢
      rw [splitEnded_append hpart, hrest]

/-- A text has at least one part. -/
theorem splitChars_ne_nil (cs : List Char) : splitChars separator cs ≠ [] := by
  cases cs with
  | nil => exact List.cons_ne_nil _ _
  | cons c rest =>
    rw [splitChars]
    split
    · exact List.cons_ne_nil _ _
    · split <;> exact List.cons_ne_nil _ _

/-- A character that is no separator belongs to the part that follows it. -/
theorem splitChars_cons_of_ne {c : Char} {rest part : List Char} {parts : List (List Char)}
    (h : c ≠ separator) (hrest : splitChars separator rest = part :: parts) :
    splitChars separator (c :: rest) = (c :: part) :: parts := by
  rw [splitChars, if_neg h, hrest]

/-- No part holds the separator. -/
theorem not_mem_of_mem_splitChars {cs part : List Char} (h : part ∈ splitChars separator cs) :
    separator ∉ part := by
  induction cs generalizing part with
  | nil =>
    rw [List.mem_singleton.mp h]
    exact List.not_mem_nil
  | cons c rest ih =>
    by_cases hc : c = separator
    · rw [splitChars, if_pos hc] at h
      rcases List.mem_cons.mp h with rfl | hrest
      · exact List.not_mem_nil
      · exact ih hrest
    · obtain ⟨first, parts, hsplit⟩ := List.exists_cons_of_ne_nil (splitChars_ne_nil rest)
      rw [splitChars_cons_of_ne hc hsplit] at h
      rw [hsplit] at ih
      rcases List.mem_cons.mp h with rfl | hrest
      · rw [List.mem_cons, not_or]
        exact ⟨Ne.symm hc, ih List.mem_cons_self⟩
      · exact ih (List.mem_cons_of_mem _ hrest)

/-- A text is made again of its parts. -/
theorem joinWith_splitChars (cs : List Char) :
    (joinWith (String.singleton separator) ((splitChars separator cs).map String.ofList)).toList
      = cs := by
  induction cs with
  | nil => rfl
  | cons c rest ih =>
    obtain ⟨part, parts, hsplit⟩ := List.exists_cons_of_ne_nil (splitChars_ne_nil rest)
    by_cases hc : c = separator
    · rw [splitChars, if_pos hc, hsplit]
      rw [hsplit] at ih
      simp only [List.map_cons, joinWith, String.toList_append, String.toList_ofList,
        String.toList_singleton, List.nil_append, List.singleton_append] at ih ⊢
      rw [ih, hc]
    · rw [splitChars_cons_of_ne hc hsplit]
      rw [hsplit] at ih
      cases parts with
      | nil =>
        simp only [List.map_cons, List.map_nil, joinWith, String.toList_ofList] at ih ⊢
        rw [ih]
      | cons next parts =>
        simp only [List.map_cons, joinWith, String.toList_append, String.toList_ofList,
          List.cons_append] at ih ⊢
        rw [ih]

theorem joinWith_splitAt (s : String) :
    joinWith (String.singleton separator) (splitAt separator s) = s := by
  rw [← String.toList_inj]
  exact joinWith_splitChars s.toList

theorem not_mem_of_mem_splitAt {s part : String} (h : part ∈ splitAt separator s) :
    separator ∉ part.toList := by
  obtain ⟨cs, hcs, rfl⟩ := List.mem_map.mp h
  rw [String.toList_ofList]
  exact not_mem_of_mem_splitChars hcs

/-- Two cuts of one text, where what is before the second one does not hold the separator of the
first. The cuts are the same, or the first one is in what is after the second one. -/
theorem cut_eq_or {other : Char} {before after before' after' : List Char}
    (h : separator ∉ before')
    (heq : before ++ separator :: after = before' ++ other :: after') :
    (before = before' ∧ separator = other ∧ after = after') ∨
      ∃ between, before = before' ++ other :: between ∧
        after' = between ++ separator :: after := by
  rcases List.append_eq_append_iff.mp heq with ⟨between, hbefore, hafter⟩ | ⟨between, hbefore, hafter⟩
  · cases between with
    | nil =>
      rw [List.append_nil] at hbefore
      rw [List.nil_append, List.cons.injEq] at hafter
      exact .inl ⟨hbefore.symm, hafter.1, hafter.2⟩
    | cons c between =>
      -- the separator would stand in `before'`
      rw [List.cons_append, List.cons.injEq] at hafter
      rw [hbefore, ← hafter.1] at h
      exact absurd (List.mem_append_right _ List.mem_cons_self) h
  · cases between with
    | nil =>
      rw [List.append_nil] at hbefore
      rw [List.nil_append, List.cons.injEq] at hafter
      exact .inl ⟨hbefore, hafter.1.symm, hafter.2.symm⟩
    | cons c between =>
      rw [List.cons_append, List.cons.injEq] at hafter
      rw [← hafter.1] at hbefore
      exact .inr ⟨between, hbefore, hafter.2⟩

/-- Nothing is dropped if the characters to be dropped do not occur. -/
theorem dropWhile_of_forall {p : Char → Bool} {cs : List Char} (h : ∀ c ∈ cs, p c = false) :
    cs.dropWhile p = cs := by
  cases cs with
  | nil => rfl
  | cons c rest => simp [h c List.mem_cons_self]

/-- A text without blanks is not trimmed. -/
theorem trimChars_of_forall {cs : List Char} (h : ∀ c ∈ cs, isBlank c = false) :
    trimChars cs = cs := by
  have hreverse : ∀ c ∈ cs.reverse, isBlank c = false := fun c hc => h c (List.mem_reverse.mp hc)
  rw [trimChars, dropWhile_of_forall h, dropWhile_of_forall hreverse, List.reverse_reverse]

end Courier.Text
