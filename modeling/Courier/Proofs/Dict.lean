import Courier.Dict

/-!
# Laws of dictionaries

A dictionary is made again from its entries, in whatever order they come, and from as many of their
values as a function keeps. Pairs that are put into a dictionary one after the other are found there
under their keys, and a dictionary is known by what is found in it.
-/

namespace Courier.Dict

universe u v

variable {α : Type u} {β : Type v}

/-- Dictionaries with the same entries are equal. -/
@[ext] theorem ext {a b : Dict α} (h : a.entries = b.entries) : a = b := by
  cases a
  cases b
  cases h
  rfl

/-- An entry whose key comes after all others is put at the end. -/
private theorem insertEntry_of_last {key : String} {value : α} {entries : List (String × α)}
    (h : ∀ e ∈ entries, e.1 < key) :
    insertEntry key value entries = entries ++ [(key, value)] := by
  induction entries with
  | nil => rfl
  | cons head rest ih =>
    obtain ⟨k, w⟩ := head
    have hk : k < key := h (k, w) List.mem_cons_self
    have hlt : ¬key < k := fun hlt => String.lt_irrefl k (String.lt_trans hk hlt)
    have hne : ¬key = k := fun heq => String.lt_irrefl k (heq ▸ hk)
    rw [insertEntry, if_neg hlt, if_neg hne, ih fun e he => h e (List.mem_cons_of_mem _ he)]
    rfl

/-- Entries in order, whose keys come after all others, are put at the end. -/
private theorem entries_insertAll (d : Dict α) (pairs : List (String × α))
    (h : (d.entries ++ pairs).Pairwise (fun a b => a.1 < b.1)) :
    (d.insertAll pairs).entries = d.entries ++ pairs := by
  induction pairs generalizing d with
  | nil => exact (List.append_nil _).symm
  | cons p rest ih =>
    have hlast : ∀ e ∈ d.entries, e.1 < p.1 := by
      intro e he
      exact (List.pairwise_append.mp h).2.2 e he p List.mem_cons_self
    have hinsert : (d.insert p.1 p.2).entries = d.entries ++ [p] := insertEntry_of_last hlast
    have hrest : ((d.insert p.1 p.2).entries ++ rest).Pairwise (fun a b => a.1 < b.1) := by
      rw [hinsert, List.append_assoc]
      exact h
    have hih := ih (d.insert p.1 p.2) hrest
    rw [hinsert, List.append_assoc] at hih
    exact hih

/-- The dictionary of entries that are in order has these entries. -/
theorem entries_ofList {pairs : List (String × α)}
    (h : pairs.Pairwise (fun a b => a.1 < b.1)) : (ofList pairs).entries = pairs :=
  entries_insertAll empty pairs h

/-- The dictionary of the entries of a dictionary is that dictionary. -/
theorem ofList_toList (d : Dict α) : ofList d.toList = d :=
  ext (entries_ofList d.sorted)

/-- Values that were changed are kept as they are if the function that keeps them undoes the
change. -/
theorem filterMap_map {f : String → α → β} {g : String → β → Option α}
    (h : ∀ key value, g key (f key value) = some value) (d : Dict α) :
    (d.map f).filterMap g = d := by
  have hentries : ((d.map f).entries.filterMap fun p => (g p.1 p.2).map fun b => (p.1, b))
      = d.entries := by
    rw [map, List.filterMap_map]
    have hsome : (fun p : String × β => (g p.1 p.2).map fun b => (p.1, b))
        ∘ (fun p : String × α => (p.1, f p.1 p.2)) = some := by
      funext p
      simp only [Function.comp_apply, h, Option.map_some]
    rw [hsome, List.filterMap_some]
  rw [filterMap, hentries]
  exact ofList_toList d

/-! ## Look-ups -/

variable {key : String} {value : α} {pairs : List (String × α)}

theorem insertAll_cons (d : Dict α) (p : String × α) (rest : List (String × α)) :
    d.insertAll (p :: rest) = (d.insert p.1 p.2).insertAll rest := rfl

theorem insertAll_append (d : Dict α) (earlier later : List (String × α)) :
    d.insertAll (earlier ++ later) = (d.insertAll earlier).insertAll later := by
  simp [insertAll]

/-- Pairs with other keys make no difference. -/
theorem get?_insertAll_of_not_mem (d : Dict α) (h : key ∉ pairs.map Prod.fst) :
    (d.insertAll pairs).get? key = d.get? key := by
  induction pairs generalizing d with
  | nil => rfl
  | cons p rest ih =>
    rw [List.map_cons, List.mem_cons, not_or] at h
    rw [insertAll_cons, ih _ h.2, get?_insert, if_neg (Ne.symm h.1)]

/-- A pair is found under its key if no other pair has this key. -/
theorem get?_insertAll_of_mem (d : Dict α) (hnodup : (pairs.map Prod.fst).Nodup)
    (h : (key, value) ∈ pairs) : (d.insertAll pairs).get? key = some value := by
  induction pairs generalizing d with
  | nil => cases h
  | cons p rest ih =>
    rw [List.map_cons, List.nodup_cons] at hnodup
    rw [insertAll_cons]
    rcases List.mem_cons.mp h with rfl | hrest
    · rw [get?_insertAll_of_not_mem _ hnodup.1, get?_insert, if_pos rfl]
    · exact ih _ hnodup.2 hrest

/-- An entry is one of the pairs that were put in, or was there before. -/
theorem mem_toList_insertAll {d : Dict α} {e : String × α} (h : e ∈ (d.insertAll pairs).toList) :
    e ∈ pairs ∨ e ∈ d.toList := by
  induction pairs generalizing d with
  | nil => exact .inr h
  | cons p rest ih =>
    rw [insertAll_cons] at h
    rcases ih h with hrest | hinsert
    · exact .inl (List.mem_cons_of_mem _ hrest)
    · rcases mem_toList_insert hinsert with rfl | hd
      · exact .inl List.mem_cons_self
      · exact .inr hd

/-- An entry of the dictionary of pairs is one of them. -/
theorem mem_of_mem_ofList {e : String × α} (h : e ∈ (ofList pairs).toList) : e ∈ pairs := by
  rcases mem_toList_insertAll h with hpairs | hempty
  · exact hpairs
  · cases hempty

/-- No two entries of a dictionary have the same key. -/
theorem nodup_keys (d : Dict α) : (d.toList.map Prod.fst).Nodup := by
  rw [List.Nodup, List.pairwise_map]
  apply d.sorted.imp
  intro a b (hlt : a.1 < b.1) (heq : a.1 = b.1)
  rw [heq] at hlt
  exact String.lt_irrefl _ hlt

/-- What is found under a key is an entry. -/
theorem mem_toList_of_get? {d : Dict α} (h : d.get? key = some value) :
    (key, value) ∈ d.toList := by
  unfold get? at h
  unfold toList
  generalize d.entries = entries at h ⊢
  induction entries with
  | nil => cases h
  | cons entry rest ih =>
    rw [lookupEntry] at h
    split at h
    · rename_i hkey
      obtain rfl := Option.some.inj h
      rw [← hkey]
      exact List.mem_cons_self
    · exact List.mem_cons_of_mem _ (ih h)

/-- An entry is found under its key. -/
theorem get?_of_mem_toList {d : Dict α} (h : (key, value) ∈ d.toList) :
    d.get? key = some value := by
  have hfound : (ofList d.toList).get? key = some value :=
    get?_insertAll_of_mem empty d.nodup_keys h
  rwa [ofList_toList] at hfound

theorem get?_eq_some_iff {d : Dict α} : d.get? key = some value ↔ (key, value) ∈ d.toList :=
  ⟨mem_toList_of_get?, get?_of_mem_toList⟩

/-- The entries on which a function has a value stay in order. -/
theorem toList_filterMap (f : String → α → Option β) (d : Dict α) :
    (d.filterMap f).toList = d.toList.filterMap fun p => (f p.1 p.2).map fun b => (p.1, b) := by
  apply entries_ofList
  rw [List.pairwise_filterMap]
  apply d.sorted.imp
  intro p q hlt p' hp q' hq
  obtain ⟨_, _, rfl⟩ := Option.map_eq_some_iff.mp hp
  obtain ⟨_, _, rfl⟩ := Option.map_eq_some_iff.mp hq
  exact hlt

/-- Where the values of a dictionary are kept as a function says, what is found under a key depends
only on what was found there. -/
theorem get?_filterMap (f : String → α → Option β) (d : Dict α) (key : String) :
    (d.filterMap f).get? key = (d.get? key).bind (f key) := by
  ext b
  rw [get?_eq_some_iff, toList_filterMap, List.mem_filterMap, Option.bind_eq_some_iff]
  constructor
  · rintro ⟨⟨k, a⟩, hmem, hkeep⟩
    obtain ⟨b', hb, he⟩ := Option.map_eq_some_iff.mp hkeep
    cases he
    exact ⟨a, get?_of_mem_toList hmem, hb⟩
  · rintro ⟨a, hget, hb⟩
    exact ⟨(key, a), mem_toList_of_get? hget, by rw [hb]; rfl⟩

/-- Dictionaries in which the same values are found are equal. -/
theorem ext_get? {a b : Dict α} (h : ∀ key, a.get? key = b.get? key) : a = b := by
  have hmem : ∀ e, e ∈ a.entries ↔ e ∈ b.entries := by
    intro e
    constructor
    · intro he
      apply mem_toList_of_get?
      rw [← h]
      exact get?_of_mem_toList he
    · intro he
      apply mem_toList_of_get?
      rw [h]
      exact get?_of_mem_toList he
  have hnodup : ∀ d : Dict α, d.entries.Nodup := by
    intro d
    apply List.Pairwise.of_map Prod.fst _ d.nodup_keys
    intro e e' hne heq
    exact hne (congrArg Prod.fst heq)
  have hperm : a.entries.Perm b.entries :=
    (List.perm_ext_iff_of_nodup (hnodup a) (hnodup b)).mpr hmem
  -- the order of the keys leaves one arrangement only
  refine ext (hperm.eq_of_pairwise (fun e e' _ _ hlt hgt => ?_) a.sorted b.sorted)
  exact absurd (String.lt_trans hlt hgt) (String.lt_irrefl _)

/-! ## Dictionaries set over others -/

/-- Where the entries of a dictionary are set over another one, in any order, they are found; under
all other keys stands what stood there before. -/
theorem get?_insertAll_of_perm (d : Dict α) {other : Dict α} (h : pairs.Perm other.toList)
    (key : String) : (d.insertAll pairs).get? key = (other.get? key).or (d.get? key) := by
  cases hother : other.get? key with
  | some value =>
    have hkeys : (pairs.map Prod.fst).Nodup :=
      (h.map Prod.fst).nodup_iff.mpr other.nodup_keys
    have hmem : (key, value) ∈ pairs := h.mem_iff.mpr (mem_toList_of_get? hother)
    rw [get?_insertAll_of_mem d hkeys hmem, Option.some_or]
  | none =>
    have hnot : key ∉ pairs.map Prod.fst := by
      intro hkey
      obtain ⟨⟨k, value⟩, hpair, rfl⟩ := List.mem_map.mp hkey
      rw [get?_of_mem_toList (h.mem_iff.mp hpair)] at hother
      cases hother
    rw [get?_insertAll_of_not_mem d hnot, Option.none_or]

/-- A dictionary is made again from its entries in any order. -/
theorem ofList_of_perm {d : Dict α} (h : pairs.Perm d.toList) : ofList pairs = d := by
  apply ext_get?
  intro key
  rw [ofList, get?_insertAll_of_perm empty h, get?_empty, Option.or_none]

end Courier.Dict
