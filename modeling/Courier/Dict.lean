/-!
# Dictionaries

A finite map from texts to values. Its entries are kept in the order of their keys (code point
order, which is also the order of their bytes), one entry a key, so that two dictionaries with the
same entries are equal. Headers, client settings, field tables and queues are all of this kind.
-/

namespace Courier

universe u v

/-- A finite map from texts to values, with its entries in the order of their keys. -/
structure Dict (α : Type u) where
  entries : List (String × α)
  sorted : entries.Pairwise (fun a b => a.1 < b.1)

namespace Dict

variable {α : Type u} {β : Type v}

/-! ## §1 Entries -/

/-- Puts an entry at its place, in the place of the entry with the same key if there is one. -/
def insertEntry (key : String) (value : α) : List (String × α) → List (String × α)
  | [] => [(key, value)]
  | (k, w) :: rest =>
    if key < k then (key, value) :: (k, w) :: rest
    else if key = k then (key, value) :: rest
    else (k, w) :: insertEntry key value rest

/-- The value of the first entry with the key. -/
def lookupEntry (key : String) : List (String × α) → Option α
  | [] => none
  | (k, w) :: rest => if k = key then some w else lookupEntry key rest

private theorem lt_of_not_lt {a b : String} (h : ¬a < b) (hne : a ≠ b) : b < a := by
  rcases Std.Trichotomous.rel_or_eq_or_rel_swap (r := (· < · : String → String → Prop)) (a := a)
    (b := b) with h' | h' | h'
  · exact absurd h' h
  · exact absurd h' hne
  · exact h'

private theorem mem_insertEntry {key : String} {value : α} {entries : List (String × α)}
    {e : String × α} (h : e ∈ insertEntry key value entries) :
    e = (key, value) ∨ e ∈ entries := by
  induction entries with
  | nil => simpa [insertEntry] using h
  | cons head rest ih =>
    obtain ⟨k, w⟩ := head
    simp only [insertEntry] at h
    split at h
    · simpa using h
    · split at h
      · simp only [List.mem_cons] at h ⊢
        rcases h with h | h
        · exact .inl h
        · exact .inr (.inr h)
      · simp only [List.mem_cons] at h ⊢
        rcases h with h | h
        · exact .inr (.inl h)
        · rcases ih h with h | h
          · exact .inl h
          · exact .inr (.inr h)

private theorem sorted_insertEntry (key : String) (value : α) {entries : List (String × α)}
    (h : entries.Pairwise (fun a b => a.1 < b.1)) :
    (insertEntry key value entries).Pairwise (fun a b => a.1 < b.1) := by
  induction entries with
  | nil => simp [insertEntry]
  | cons head rest ih =>
    obtain ⟨k, w⟩ := head
    have hrest := (List.pairwise_cons.1 h).2
    have hhead := (List.pairwise_cons.1 h).1
    simp only [insertEntry]
    split
    · rename_i hlt
      refine List.pairwise_cons.2 ⟨fun e he => ?_, h⟩
      rcases List.mem_cons.1 he with he | he
      · exact he ▸ hlt
      · exact String.lt_trans hlt (hhead e he)
    · rename_i hnlt
      split
      · rename_i heq
        exact List.pairwise_cons.2 ⟨fun e he => heq ▸ hhead e he, hrest⟩
      · rename_i hne
        refine List.pairwise_cons.2 ⟨fun e he => ?_, ih hrest⟩
        rcases mem_insertEntry he with he | he
        · exact he ▸ lt_of_not_lt hnlt hne
        · exact hhead e he

/-! ## §2 Operations -/

def empty : Dict α := ⟨[], List.Pairwise.nil⟩

instance : Inhabited (Dict α) := ⟨empty⟩

instance : EmptyCollection (Dict α) := ⟨empty⟩

def insert (d : Dict α) (key : String) (value : α) : Dict α :=
  ⟨insertEntry key value d.entries, sorted_insertEntry key value d.sorted⟩

def get? (d : Dict α) (key : String) : Option α :=
  lookupEntry key d.entries

def contains (d : Dict α) (key : String) : Bool :=
  (d.get? key).isSome

/-- Sets the values of the pairs, one after the other, so that the last of several pairs with one
key wins. -/
def insertAll (d : Dict α) (pairs : List (String × α)) : Dict α :=
  pairs.foldl (fun acc p => acc.insert p.1 p.2) d

/-- The dictionary of the pairs; the last of several pairs with one key wins. -/
def ofList (pairs : List (String × α)) : Dict α :=
  empty.insertAll pairs

def toList (d : Dict α) : List (String × α) := d.entries

def keys (d : Dict α) : List String := d.entries.map Prod.fst

/-- Changes every value by a function that knows its key. -/
def map (f : String → α → β) (d : Dict α) : Dict β :=
  ⟨d.entries.map fun p => (p.1, f p.1 p.2), by
    rw [List.pairwise_map]
    exact d.sorted⟩

/-- Keeps the entries on which the function has a value, with that value. -/
def filterMap (f : String → α → Option β) (d : Dict α) : Dict β :=
  ofList (d.entries.filterMap fun p => (f p.1 p.2).map fun b => (p.1, b))

instance [BEq α] : BEq (Dict α) := ⟨fun a b => a.entries == b.entries⟩

instance [DecidableEq α] : DecidableEq (Dict α) := fun a b =>
  if h : a.entries = b.entries then
    .isTrue (by cases a; cases b; cases h; rfl)
  else
    .isFalse fun e => h (e ▸ rfl)

instance [Repr α] : Repr (Dict α) := ⟨fun d n => reprPrec d.entries n⟩

/-! ## §3 Look-up laws -/

@[simp] theorem get?_empty (key : String) : (empty : Dict α).get? key = none := rfl

private theorem lookupEntry_insertEntry (key key' : String) (value : α)
    (entries : List (String × α)) (h : entries.Pairwise (fun a b => a.1 < b.1)) :
    lookupEntry key' (insertEntry key value entries)
      = if key = key' then some value else lookupEntry key' entries := by
  induction entries with
  | nil => simp [insertEntry, lookupEntry]
  | cons head rest ih =>
    obtain ⟨k, w⟩ := head
    simp only [insertEntry]
    split
    · simp [lookupEntry]
    · split
      · rename_i heq
        subst heq
        by_cases hk : key = key' <;> simp [lookupEntry, hk]
      · rename_i hne
        simp only [lookupEntry, ih (List.pairwise_cons.1 h).2]
        by_cases hk : k = key'
        · subst hk
          simp [hne]
        · simp [hk]

theorem get?_insert (d : Dict α) (key key' : String) (value : α) :
    (d.insert key value).get? key' = if key = key' then some value else d.get? key' :=
  lookupEntry_insertEntry key key' value d.entries d.sorted

theorem mem_toList_insert {d : Dict α} {key : String} {value : α} {e : String × α}
    (h : e ∈ (d.insert key value).toList) : e = (key, value) ∨ e ∈ d.toList :=
  mem_insertEntry h

end Dict

end Courier
