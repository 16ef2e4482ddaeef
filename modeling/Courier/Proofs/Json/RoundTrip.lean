import Courier.Encoding
import Courier.Proofs.Dict
import Courier.Proofs.Json.Scalar

/-!
# Bodies that are read back

A value without binary numbers is read back from the bytes that are written for it, as long as it
nests lists and objects no deeper than the reader allows, and it is refused as too deep otherwise:
`readValue_chars`. This is an induction on the depth that is allowed, since the loops over items and
fields take the reader of what they hold, which is the reader with one level less. From it follows
what encodings and decodings of bodies have to do with each other: `body_roundtrip`.

Bytes are given by their numbers: 44 is the comma and 58 the colon, 91 and 93 are the brackets of
lists and 123 and 125 the braces of objects.
-/

namespace Courier.Json

/-! ## §1 Exact values -/

/-- A value without binary numbers: its whole numbers fit 64 bits with or without sign, and the
fields of its objects are in the order of their names, one field a name. -/
inductive IsExact : Json → Prop where
  | null : IsExact .null
  | bool (b : Bool) : IsExact (.bool b)
  | int {n : Int} (hlow : leastInt ≤ n) (hhigh : n ≤ greatestInt) : IsExact (.int n)
  | text (s : String) : IsExact (.text s)
  | list {items : List Json} (h : ∀ v ∈ items, IsExact v) : IsExact (.list items)
  | object {fields : List (String × Json)} (hsorted : fields.Pairwise fun a b => a.1 < b.1)
      (h : ∀ p ∈ fields, IsExact p.2) : IsExact (.object fields)

/-- Fields in any order make an exact object. -/
theorem IsExact.ofFields {fields : List (String × Json)} (h : ∀ p ∈ fields, IsExact p.2) :
    IsExact (ofFields fields) := by
  refine .object (Dict.ofList fields).sorted fun p hp => ?_
  exact h p (Dict.mem_of_mem_ofList hp)

mutual

/-- How deep lists and objects nest in a value. -/
def levels : Json → Nat
  | .list items => levelsOfItems items + 1
  | .object fields => levelsOfFields fields + 1
  | .null | .bool _ | .int _ | .float _ | .text _ => 0

def levelsOfItems : List Json → Nat
  | [] => 0
  | v :: rest => max (levels v) (levelsOfItems rest)

def levelsOfFields : List (String × Json) → Nat
  | [] => 0
  | (_, v) :: rest => max (levels v) (levelsOfFields rest)

end

theorem levelsOfItems_lt_iff {items : List Json} {n : Nat} (hn : 0 < n) :
    levelsOfItems items < n ↔ ∀ v ∈ items, levels v < n := by
  induction items with
  | nil => simp [levelsOfItems, hn]
  | cons v rest ih => rw [levelsOfItems, Nat.max_lt, ih, List.forall_mem_cons]

theorem levelsOfFields_lt_iff {fields : List (String × Json)} {n : Nat} (hn : 0 < n) :
    levelsOfFields fields < n ↔ ∀ p ∈ fields, levels p.2 < n := by
  induction fields with
  | nil => simp [levelsOfFields, hn]
  | cons p rest ih => rw [levelsOfFields, Nat.max_lt, ih, List.forall_mem_cons]

/-! ## §2 Reading and refusing -/

/-- What is read if it fits, and is refused as too deep if it does not. -/
structure Settles {α : Type} (fits : Prop) (r : Except ReadError (α × Cursor)) (v : α)
    (rest : List UInt8) : Prop where
  read : fits → Leaves r v rest
  refused : ¬fits → ∃ e, r = .error e ∧ e.fault = .tooDeep

section Settles

variable {α β : Type} {fits fitsMore : Prop} {r : Except ReadError (α × Cursor)} {v : α} {w : β}
  {more rest : List UInt8} {k : α × Cursor → Except ReadError (β × Cursor)}

theorem Leaves.settles (h : Leaves r v rest) (hfits : fits) : Settles fits r v rest :=
  ⟨fun _ => h, fun hnot => absurd hfits hnot⟩

theorem settles_tooDeep {e : ReadError} (hfault : e.fault = .tooDeep) (hnot : ¬fits) :
    Settles fits (.error e) v rest :=
  ⟨fun hfits => absurd hfits hnot, fun _ => ⟨e, rfl, hfault⟩⟩

/-- A value is settled and then what comes after it, where both have to fit. -/
theorem Settles.bind (h : Settles fits r v more)
    (hmore : ∀ c, c.rest = more → Settles fitsMore (k (v, c)) w rest) :
    Settles (fits ∧ fitsMore) (r.bind k) w rest := by
  by_cases hfits : fits
  · obtain ⟨c, rfl, hrest⟩ := h.read hfits
    have hsettled := hmore c hrest
    exact ⟨fun hboth => hsettled.read hboth.2,
      fun hnot => hsettled.refused fun hfitsMore => hnot ⟨hfits, hfitsMore⟩⟩
  · -- the first value is refused, and nothing after it is read
    obtain ⟨e, rfl, hfault⟩ := h.refused hfits
    exact settles_tooDeep hfault fun hboth => hfits hboth.1

/-- What was settled stays so when it is carried on to another value. -/
theorem Settles.andThen (h : Settles fits r v more)
    (hnext : ∀ c, c.rest = more → Leaves (k (v, c)) w rest) : Settles fits (r.bind k) w rest := by
  have hboth : Settles (fits ∧ True) (r.bind k) w rest :=
    h.bind fun c hc => (hnext c hc).settles trivial
  rwa [and_true] at hboth

theorem Settles.map (h : Settles fits r v rest) (f : α → β) :
    Settles fits (r.map fun p => (f p.1, p.2)) (f v) rest := by
  apply h.andThen (k := fun p => .ok (f p.1, p.2))
  exact fun c hc => ⟨c, rfl, hc⟩

end Settles

/-- The bytes begin with one that may follow a value. -/
def EndsValue (rest : List UInt8) : Prop :=
  ∀ b ∈ rest.head?, b = 44 ∨ b = 93 ∨ b = 125

theorem endsValue_cons {b : UInt8} (hb : b = 44 ∨ b = 93 ∨ b = 125) (rest : List UInt8) :
    EndsValue (b :: rest) := by
  intro b' hb'
  obtain rfl := Option.some.inj hb'
  exact hb

theorem EndsValue.endsNumber {rest : List UInt8} (h : EndsValue rest) : EndsNumber rest := by
  intro b hb
  rcases h b hb with rfl | rfl | rfl <;> decide

/-- The reader settles the value wherever it is written before something that may follow it. -/
def Settled (fits : Json → Prop) (item : Reader Json) (v : Json) : Prop :=
  ∀ c rest, c.rest = Utf8.encodeChars (chars v) ++ rest → EndsValue rest →
    Settles (fits v) (item c) v rest

/-- What is written for a value begins with a byte that is no space and closes no list. -/
theorem exists_chars {v : Json} (hv : IsExact v) : ∃ b bytes,
    Utf8.encodeChars (chars v) = b :: bytes ∧ Cursor.isSpace b = false ∧ b ≠ 93 := by
  have hnumber : ∀ b ∈ numberStarts, Cursor.isSpace b = false ∧ b ≠ 93 :=
    forall_mem_numberStarts (by decide)
  cases hv with
  | null => exact ⟨110, _, rfl, by decide, by decide⟩
  | bool b => cases b <;> exact ⟨_, _, rfl, by decide, by decide⟩
  | @int n _ _ =>
    obtain ⟨b, bytes, hbytes, hb⟩ := exists_ofInt n
    exact ⟨b, bytes, hbytes, hnumber b hb⟩
  | text s => exact ⟨34, _, rfl, by decide, by decide⟩
  | list _ => exact ⟨91, _, rfl, by decide, by decide⟩
  | object _ _ => exact ⟨123, _, rfl, by decide, by decide⟩

/-! ## §3 Lists -/

section Lists

variable {fits : Json → Prop} {item : Reader Json} {c : Cursor} {rest : List UInt8}

theorem anotherItem_close (hc : c.rest = 93 :: rest) (first : Bool) :
    anotherItem first c = .ok (false, c) := by
  rw [anotherItem, Cursor.skipSpaces_of_cons hc (by decide), hc]
  rfl

theorem anotherItem_first {b : UInt8} (hc : c.rest = b :: rest)
    (hspace : Cursor.isSpace b = false) (hb : b ≠ 93) : anotherItem true c = .ok (true, c) := by
  rw [anotherItem, Cursor.skipSpaces_of_cons hc hspace, hc]
  simp only [if_neg hb, if_pos]

theorem anotherItem_comma {b : UInt8} (hc : c.rest = 44 :: b :: rest)
    (hspace : Cursor.isSpace b = false) (hb : b ≠ 93) :
    anotherItem false c = .ok (true, c.next) := by
  have hnext : c.next.rest = b :: rest := Cursor.rest_next hc
  have hclose : ¬(44 : UInt8) = 93 := by decide
  rw [anotherItem, Cursor.skipSpaces_of_cons hc (by decide), hc]
  simp only [if_neg hclose, if_pos, Cursor.skipSpaces_of_cons hnext hspace, hnext, if_neg hb]
  rfl

/-- The loop over the items ends at the closing bracket. -/
theorem readItems_close (hc : c.rest = 93 :: rest) (fuel : Nat) (first : Bool) :
    Settles (∀ v ∈ [], fits v) (readItems item (fuel + 1) first c) [] (93 :: rest) := by
  rw [readItems, anotherItem_close hc]
  exact Leaves.settles ⟨c, rfl, hc⟩ nofun

/-- One turn of the loop over the items of a list. -/
theorem readItems_turn {first : Bool} {c₁ : Cursor} (h : anotherItem first c = .ok (true, c₁))
    (fuel : Nat) : readItems item (fuel + 1) first c
      = (item c₁).bind fun p => (readItems item fuel false p.2).map fun q => (p.1 :: q.1, q.2) := by
  rw [readItems, h]
  cases hitem : item c₁ with
  | error e => simp only [hitem, Except.bind]
  | ok p =>
    cases hmore : readItems item fuel false p.2 <;>
      simp [hitem, hmore, Except.bind, Except.map]

/-- What follows the items after one of a list ends a value. -/
theorem endsValue_moreItemsChars (items : List Json) (rest : List UInt8) :
    EndsValue (Utf8.encodeChars (moreItemsChars items) ++ 93 :: rest) := by
  cases items with
  | nil => exact endsValue_cons (.inr (.inl rfl)) rest
  | cons v items => exact endsValue_cons (.inl rfl) _

/-- An item is settled, and the items after it. -/
theorem readItems_item {first : Bool} {c₁ : Cursor} {v : Json} {items : List Json} {fuel : Nat}
    (hanother : anotherItem first c = .ok (true, c₁)) (hv : Settled fits item v)
    (hc₁ : c₁.rest = Utf8.encodeChars (chars v)
      ++ (Utf8.encodeChars (moreItemsChars items) ++ 93 :: rest))
    (hmore : ∀ c₂, c₂.rest = Utf8.encodeChars (moreItemsChars items) ++ 93 :: rest →
      Settles (∀ w ∈ items, fits w) (readItems item fuel false c₂) items (93 :: rest)) :
    Settles (∀ w ∈ v :: items, fits w) (readItems item (fuel + 1) first c) (v :: items)
      (93 :: rest) := by
  rw [List.forall_mem_cons, readItems_turn hanother]
  apply (hv c₁ _ hc₁ (endsValue_moreItemsChars items rest)).bind
  intro c₂ hc₂
  exact (hmore c₂ hc₂).map (v :: ·)

/-- The items after one of a list are settled if each of them is. -/
theorem readItems_moreItemsChars {items : List Json} {fuel : Nat}
    (hitems : ∀ v ∈ items, IsExact v ∧ Settled fits item v)
    (hc : c.rest = Utf8.encodeChars (moreItemsChars items) ++ 93 :: rest)
    (hfuel : c.rest.length < fuel) :
    Settles (∀ v ∈ items, fits v) (readItems item fuel false c) items (93 :: rest) := by
  induction fuel generalizing items c with
  | zero => exact absurd hfuel (Nat.not_lt_zero _)
  | succ fuel ih =>
    cases items with
    | nil => exact readItems_close hc fuel false
    | cons v items =>
      rw [List.forall_mem_cons] at hitems
      obtain ⟨⟨hexact, hsettled⟩, hmore⟩ := hitems
      have hc' : c.rest = 44 :: (Utf8.encodeChars (chars v)
          ++ (Utf8.encodeChars (moreItemsChars items) ++ 93 :: rest)) := by
        rw [hc, moreItemsChars, Utf8.encodeChars_append, List.append_assoc]
        rfl
      -- the item after the comma does not begin with the closing bracket
      obtain ⟨b, bytes, hbytes, hspace, hclose⟩ := exists_chars hexact
      have hanother : anotherItem false c = .ok (true, c.next) := by
        rw [hbytes] at hc'
        exact anotherItem_comma hc' hspace hclose
      apply readItems_item hanother hsettled (Cursor.rest_next hc')
      intro c₂ hc₂
      apply ih hmore hc₂
      rw [hc', List.length_cons, List.length_append] at hfuel
      rw [hc₂]
      omega

theorem closeList_of_close (hc : c.rest = 93 :: rest) : closeList c = .ok c.next := by
  rw [closeList, Cursor.skipSpaces_of_cons hc (by decide), hc]
  rfl

theorem readList_eq : readList item c = (readItems item (c.rest.length + 1) true c.next).bind
    fun p => (closeList p.2).map fun c => (p.1, c) := by
  rw [readList]
  cases readItems item (c.rest.length + 1) true c.next with
  | error e => rfl
  | ok p => cases hclose : closeList p.2 <;> simp [hclose, Except.bind, Except.map]

/-- A list is settled if each of its items is. -/
theorem readList_chars {items : List Json} (hitems : ∀ v ∈ items, IsExact v ∧ Settled fits item v)
    (hc : c.rest = Utf8.encodeChars (chars (.list items)) ++ rest) :
    Settles (∀ v ∈ items, fits v) (readList item c) items rest := by
  have hc' : c.rest = 91 :: (Utf8.encodeChars (itemsChars items) ++ 93 :: rest) := by
    rw [hc, chars, Utf8.encodeChars_append, List.append_assoc]
    rfl
  have hnext : c.next.rest = Utf8.encodeChars (itemsChars items) ++ 93 :: rest :=
    Cursor.rest_next hc'
  have hloop : Settles (∀ v ∈ items, fits v) (readItems item (c.rest.length + 1) true c.next) items
      (93 :: rest) := by
    cases items with
    | nil => exact readItems_close hnext c.rest.length true
    | cons v items =>
      rw [List.forall_mem_cons] at hitems
      obtain ⟨⟨hexact, hsettled⟩, hmore⟩ := hitems
      rw [itemsChars, Utf8.encodeChars_append, List.append_assoc] at hnext hc'
      obtain ⟨b, bytes, hbytes, hspace, hclose⟩ := exists_chars hexact
      have hanother : anotherItem true c.next = .ok (true, c.next) := by
        rw [hbytes] at hnext
        exact anotherItem_first hnext hspace hclose
      apply readItems_item hanother hsettled hnext
      intro c₂ hc₂
      apply readItems_moreItemsChars hmore hc₂
      simp only [hc', hc₂, List.length_cons, List.length_append]
      omega
  rw [readList_eq]
  apply hloop.andThen
  intro c₂ hc₂
  rw [closeList_of_close hc₂]
  exact ⟨c₂.next, rfl, Cursor.rest_next hc₂⟩

end Lists

/-! ## §4 Objects -/

section Objects

variable {fits : Json → Prop} {value : Reader Json} {c : Cursor} {rest : List UInt8}

theorem anotherField_close (hc : c.rest = 125 :: rest) (first : Bool) :
    anotherField first c = .ok (false, c) := by
  rw [anotherField, Cursor.skipSpaces_of_cons hc (by decide), hc]
  rfl

theorem anotherField_first (hc : c.rest = 34 :: rest) : anotherField true c = .ok (true, c) := by
  rw [anotherField, Cursor.skipSpaces_of_cons hc (by decide), hc]
  rfl

theorem anotherField_comma (hc : c.rest = 44 :: 34 :: rest) :
    anotherField false c = .ok (true, c.next) := by
  have hnext : c.next.rest = 34 :: rest := Cursor.rest_next hc
  have hclose : ¬(44 : UInt8) = 125 := by decide
  rw [anotherField, Cursor.skipSpaces_of_cons hc (by decide), hc]
  simp only [if_neg hclose, if_pos, Cursor.skipSpaces_of_cons hnext (by decide), hnext]
  rfl

theorem readColon_of_colon (hc : c.rest = 58 :: rest) : readColon c = .ok c.next := by
  rw [readColon, Cursor.skipSpaces_of_cons hc (by decide), hc]
  rfl

/-- The loop over the fields ends at the closing brace. -/
theorem readFields_close (hc : c.rest = 125 :: rest) (fuel : Nat) (first : Bool) :
    Settles (∀ p ∈ ([] : List (String × Json)), fits p.2) (readFields value (fuel + 1) first c) []
      (125 :: rest) := by
  rw [readFields, anotherField_close hc]
  exact Leaves.settles ⟨c, rfl, hc⟩ nofun

/-- One turn of the loop over the fields of an object. -/
theorem readFields_turn {first : Bool} {c₁ c₂ c₃ : Cursor} {name : String}
    (hanother : anotherField first c = .ok (true, c₁)) (hname : readText c₁ = .ok (name, c₂))
    (hcolon : readColon c₂ = .ok c₃) (fuel : Nat) : readFields value (fuel + 1) first c
      = (value c₃).bind fun p =>
        (readFields value fuel false p.2).map fun q => ((name, p.1) :: q.1, q.2) := by
  simp only [readFields, hanother, hname, hcolon]
  cases hvalue : value c₃ with
  | error e => rfl
  | ok p =>
    cases hmore : readFields value fuel false p.2 <;> simp [hmore, Except.bind, Except.map]

/-- What follows the fields after one of an object ends a value. -/
theorem endsValue_moreFieldsChars (fields : List (String × Json)) (rest : List UInt8) :
    EndsValue (Utf8.encodeChars (moreFieldsChars fields) ++ 125 :: rest) := by
  cases fields with
  | nil => exact endsValue_cons (.inr (.inr rfl)) rest
  | cons p fields => exact endsValue_cons (.inl rfl) _

/-- The bytes of a field. -/
def fieldBytes (p : String × Json) : List UInt8 :=
  Utf8.encodeChars (textChars p.1) ++ 58 :: Utf8.encodeChars (chars p.2)

/-- A field is settled, and the fields after it. -/
theorem readFields_field {first : Bool} {c₁ : Cursor} {p : String × Json}
    {fields : List (String × Json)} {fuel : Nat}
    (hanother : anotherField first c = .ok (true, c₁)) (hv : Settled fits value p.2)
    (hc₁ : c₁.rest = fieldBytes p ++ (Utf8.encodeChars (moreFieldsChars fields) ++ 125 :: rest))
    (hmore : ∀ c₂, c₂.rest = Utf8.encodeChars (moreFieldsChars fields) ++ 125 :: rest →
      Settles (∀ q ∈ fields, fits q.2) (readFields value fuel false c₂) fields (125 :: rest)) :
    Settles (∀ q ∈ p :: fields, fits q.2) (readFields value (fuel + 1) first c) (p :: fields)
      (125 :: rest) := by
  rw [fieldBytes, List.append_assoc] at hc₁
  obtain ⟨c₂, hname, hc₂⟩ := readText_textChars hc₁
  have hc₃ := Cursor.rest_next hc₂
  rw [List.forall_mem_cons, readFields_turn hanother hname (readColon_of_colon hc₂)]
  apply (hv c₂.next _ hc₃ (endsValue_moreFieldsChars fields rest)).bind
  intro c₄ hc₄
  exact (hmore c₄ hc₄).map (p :: ·)

/-- The fields after one of an object are settled if the value of each of them is. -/
theorem readFields_moreFieldsChars {fields : List (String × Json)} {fuel : Nat}
    (hfields : ∀ p ∈ fields, Settled fits value p.2)
    (hc : c.rest = Utf8.encodeChars (moreFieldsChars fields) ++ 125 :: rest)
    (hfuel : c.rest.length < fuel) :
    Settles (∀ p ∈ fields, fits p.2) (readFields value fuel false c) fields (125 :: rest) := by
  induction fuel generalizing fields c with
  | zero => exact absurd hfuel (Nat.not_lt_zero _)
  | succ fuel ih =>
    cases fields with
    | nil => exact readFields_close hc fuel false
    | cons p fields =>
      rw [List.forall_mem_cons] at hfields
      obtain ⟨hsettled, hmore⟩ := hfields
      have hc' : c.rest = 44 :: (fieldBytes p
          ++ (Utf8.encodeChars (moreFieldsChars fields) ++ 125 :: rest)) := by
        rw [hc, moreFieldsChars, Utf8.encodeChars_append, Utf8.encodeChars_append, fieldBytes,
          List.append_assoc]
        rfl
      have hanother : anotherField false c = .ok (true, c.next) := anotherField_comma hc'
      apply readFields_field hanother hsettled (Cursor.rest_next hc')
      intro c₂ hc₂
      apply ih hmore hc₂
      rw [hc', List.length_cons, List.length_append] at hfuel
      rw [hc₂]
      omega

theorem closeObject_of_close (hc : c.rest = 125 :: rest) : closeObject c = .ok c.next := by
  rw [closeObject, Cursor.skipSpaces_of_cons hc (by decide), hc]
  rfl

theorem readObject_eq : readObject value c
    = (readFields value (c.rest.length + 1) true c.next).bind
      fun p => (closeObject p.2).map fun c => (p.1, c) := by
  rw [readObject]
  cases readFields value (c.rest.length + 1) true c.next with
  | error e => rfl
  | ok p => cases hclose : closeObject p.2 <;> simp [hclose, Except.bind, Except.map]

/-- An object is settled if the value of each of its fields is. -/
theorem readObject_chars {fields : List (String × Json)}
    (hfields : ∀ p ∈ fields, Settled fits value p.2)
    (hc : c.rest = Utf8.encodeChars (chars (.object fields)) ++ rest) :
    Settles (∀ p ∈ fields, fits p.2) (readObject value c) fields rest := by
  have hc' : c.rest = 123 :: (Utf8.encodeChars (fieldsChars fields) ++ 125 :: rest) := by
    rw [hc, chars, Utf8.encodeChars_append, List.append_assoc]
    rfl
  have hnext : c.next.rest = Utf8.encodeChars (fieldsChars fields) ++ 125 :: rest :=
    Cursor.rest_next hc'
  have hloop : Settles (∀ p ∈ fields, fits p.2) (readFields value (c.rest.length + 1) true c.next)
      fields (125 :: rest) := by
    cases fields with
    | nil => exact readFields_close hnext c.rest.length true
    | cons p fields =>
      rw [List.forall_mem_cons] at hfields
      obtain ⟨hsettled, hmore⟩ := hfields
      have hfirst : Utf8.encodeChars (fieldsChars (p :: fields)) ++ 125 :: rest
          = fieldBytes p ++ (Utf8.encodeChars (moreFieldsChars fields) ++ 125 :: rest) := by
        rw [fieldsChars, Utf8.encodeChars_append, Utf8.encodeChars_append, List.append_assoc]
        rfl
      rw [hfirst] at hnext hc'
      have hanother : anotherField true c.next = .ok (true, c.next) := anotherField_first hnext
      apply readFields_field hanother hsettled hnext
      intro c₂ hc₂
      apply readFields_moreFieldsChars hmore hc₂
      simp only [hc', hc₂, List.length_cons, List.length_append]
      omega
  rw [readObject_eq]
  apply hloop.andThen
  intro c₂ hc₂
  rw [closeObject_of_close hc₂]
  exact ⟨c₂.next, rfl, Cursor.rest_next hc₂⟩

end Objects

/-! ## §5 Values and documents -/

section Values

variable {c : Cursor} {rest : List UInt8}

theorem readScalar_null (hc : c.rest = Utf8.encodeChars (chars .null) ++ rest) :
    Leaves (readScalar 110 c) .null rest := by
  have hc' : c.rest = 110 :: (afterN ++ rest) := hc
  exact (readWord_append (Cursor.rest_next hc')).map fun _ => Json.null

theorem readScalar_true (hc : c.rest = Utf8.encodeChars (chars (.bool true)) ++ rest) :
    Leaves (readScalar 116 c) (.bool true) rest := by
  have hc' : c.rest = 116 :: (afterT ++ rest) := hc
  exact (readWord_append (Cursor.rest_next hc')).map fun _ => Json.bool true

theorem readScalar_false (hc : c.rest = Utf8.encodeChars (chars (.bool false)) ++ rest) :
    Leaves (readScalar 102 c) (.bool false) rest := by
  have hc' : c.rest = 102 :: (afterF ++ rest) := hc
  exact (readWord_append (Cursor.rest_next hc')).map fun _ => Json.bool false

theorem readScalar_text {s : String} (hc : c.rest = Utf8.encodeChars (chars (.text s)) ++ rest) :
    Leaves (readScalar 34 c) (.text s) rest :=
  (readText_textChars hc).map Json.text

theorem readScalar_int {n : Int} (hlow : leastInt ≤ n) (hhigh : n ≤ greatestInt) {b : UInt8}
    (hb : b ∈ numberStarts) (hc : c.rest = Utf8.encodeChars (chars (.int n)) ++ rest)
    (hrest : EndsNumber rest) : Leaves (readScalar b c) (.int n) rest := by
  have hstarts : ∀ b ∈ numberStarts, b ≠ 110 ∧ b ≠ 116 ∧ b ≠ 102 ∧ b ≠ 34 ∧
      (b = 45 ∨ (digit? b).isSome) := forall_mem_numberStarts (by decide)
  obtain ⟨hn, ht, hf, hquote, hnumber⟩ := hstarts b hb
  obtain ⟨c', hread, hrest'⟩ := readNumber_ofInt hlow hhigh hc hrest
  refine ⟨c', ?_, hrest'⟩
  rw [readScalar, if_neg hn, if_neg ht, if_neg hf, if_neg hquote, if_pos hnumber, hread]
  rfl

/-- A value without levels is settled if it is read as a scalar. -/
theorem readValue_scalar {v : Json} (hv : IsExact v) (hlevels : levels v = 0) {b : UInt8}
    {bytes : List UInt8} (hbytes : Utf8.encodeChars (chars v) = b :: bytes)
    (hb : b ≠ 91 ∧ b ≠ 123) (hc : c.rest = Utf8.encodeChars (chars v) ++ rest)
    (hleaves : Leaves (readScalar b c) v rest) (depth : Nat) :
    Settles (levels v < depth + 1) (readValue (depth + 1) c) v rest := by
  obtain ⟨b', bytes', hbytes', hspace, _⟩ := exists_chars hv
  rw [hbytes, List.cons.injEq] at hbytes'
  obtain ⟨rfl, rfl⟩ := hbytes'
  rw [hbytes] at hc
  have hread : readValue (depth + 1) c = readScalar b c := by
    rw [readValue, Cursor.skipSpaces_of_cons hc hspace, hc]
    simp only [List.cons_append, if_neg hb.1, if_neg hb.2]
  rw [hread]
  exact hleaves.settles (hlevels ▸ Nat.succ_pos depth)

/-- A list is settled if its items are with one level less. -/
theorem readValue_list {items : List Json} {depth : Nat}
    (hitems : ∀ v ∈ items, IsExact v ∧ Settled (fun w => levels w < depth) (readValue depth) v)
    (hc : c.rest = Utf8.encodeChars (chars (.list items)) ++ rest) :
    Settles (levels (.list items) < depth + 1) (readValue (depth + 1) c) (.list items) rest := by
  have hcons : c.rest = 91 :: (Utf8.encodeChars (itemsChars items ++ [']']) ++ rest) := hc
  have hread : readValue (depth + 1) c = if depth = 0 then .error (c.peekFault .tooDeep)
      else (readList (readValue depth) c).map fun r => (.list r.1, r.2) := by
    rw [readValue, Cursor.skipSpaces_of_cons hcons (by decide), hcons]
    rfl
  rw [hread, levels, Nat.add_lt_add_iff_right]
  cases depth with
  | zero => exact settles_tooDeep rfl (Nat.not_lt_zero _)
  | succ depth =>
    rw [levelsOfItems_lt_iff (Nat.succ_pos depth), if_neg (Nat.succ_ne_zero depth)]
    exact (readList_chars hitems hc).map Json.list

/-- An object is settled if the values of its fields are with one level less. -/
theorem readValue_object {fields : List (String × Json)} {depth : Nat}
    (hsorted : fields.Pairwise fun a b => a.1 < b.1)
    (hfields : ∀ p ∈ fields, Settled (fun w => levels w < depth) (readValue depth) p.2)
    (hc : c.rest = Utf8.encodeChars (chars (.object fields)) ++ rest) :
    Settles (levels (.object fields) < depth + 1) (readValue (depth + 1) c) (.object fields)
      rest := by
  have hcons : c.rest = 123 :: (Utf8.encodeChars (fieldsChars fields ++ ['\x7d']) ++ rest) := hc
  have hread : readValue (depth + 1) c = if depth = 0 then .error (c.peekFault .tooDeep)
      else (readObject (readValue depth) c).map fun r => (ofFields r.1, r.2) := by
    rw [readValue, Cursor.skipSpaces_of_cons hcons (by decide), hcons]
    rfl
  -- fields that are in order already stay as they are
  have hfieldsOf : ofFields fields = .object fields :=
    congrArg Json.object (Dict.entries_ofList hsorted)
  rw [hread, levels, Nat.add_lt_add_iff_right, ← hfieldsOf]
  cases depth with
  | zero => exact settles_tooDeep rfl (Nat.not_lt_zero _)
  | succ depth =>
    rw [levelsOfFields_lt_iff (Nat.succ_pos depth), if_neg (Nat.succ_ne_zero depth)]
    exact (readObject_chars hfields hc).map ofFields

end Values

/-- A value is settled wherever it is written before something that may follow it: it is read if it
nests less deep than the depth that is allowed, and refused otherwise. -/
theorem readValue_chars {v : Json} (hv : IsExact v) (depth : Nat) :
    Settled (fun w => levels w < depth) (readValue depth) v := by
  induction depth generalizing v with
  | zero =>
    intro c rest _ _
    exact settles_tooDeep rfl (Nat.not_lt_zero _)
  | succ depth ih =>
    intro c rest hc hrest
    cases hv with
    | null => exact readValue_scalar .null rfl rfl (by decide) hc (readScalar_null hc) depth
    | bool b =>
      cases b with
      | true => exact readValue_scalar (.bool _) rfl rfl (by decide) hc (readScalar_true hc) depth
      | false => exact readValue_scalar (.bool _) rfl rfl (by decide) hc (readScalar_false hc) depth
    | @int n hlow hhigh =>
      obtain ⟨b, bytes, hbytes, hb⟩ := exists_ofInt n
      have hne : ∀ b ∈ numberStarts, b ≠ 91 ∧ b ≠ 123 := forall_mem_numberStarts (by decide)
      have hread := readScalar_int hlow hhigh hb hc hrest.endsNumber
      exact readValue_scalar (.int hlow hhigh) rfl hbytes (hne b hb) hc hread depth
    | text s => exact readValue_scalar (.text s) rfl rfl (by decide) hc (readScalar_text hc) depth
    | list hitems => exact readValue_list (fun v hv => ⟨hitems v hv, ih (hitems v hv)⟩) hc
    | object hsorted hfields =>
      exact readValue_object hsorted (fun p hp => ih (hfields p hp)) hc

/-- A document is read back, or refused as too deep. -/
theorem readAll_renderBytes {v : Json} (hv : IsExact v) :
    (levels v < allowedDepth → Shape.value.readAll v.renderBytes = .ok v) ∧
      (allowedDepth ≤ levels v →
        ∃ e, Shape.value.readAll v.renderBytes = .error e ∧ e.fault = .tooDeep) := by
  have hrest : (Cursor.start v.renderBytes).rest = Utf8.encodeChars (chars v) ++ [] :=
    (List.append_nil _).symm
  have hsettled := readValue_chars hv allowedDepth (Cursor.start v.renderBytes) [] hrest nofun
  constructor
  · intro hlt
    obtain ⟨c, hread, hend⟩ := hsettled.read hlt
    have hspaces : c.skipSpaces.rest = [] := by rw [Cursor.skipSpaces, hend]; rfl
    simp only [Shape.readAll, Shape.value, readDocument, hread, hspaces]
  · intro hle
    obtain ⟨e, hread, hfault⟩ := hsettled.refused (Nat.not_lt.mpr hle)
    refine ⟨e, ?_, hfault⟩
    simp only [Shape.readAll, Shape.value, readDocument, hread]

end Courier.Json

namespace Courier

/-! ## §6 Bodies -/

/-- A value without binary numbers can always be published as a JSON document, and the document is
read back as that value if it nests at most 127 deep; any other is refused as too deep. The encoding
of texts writes what is no text in the same way, and a text so that it is read back as a text. -/
theorem body_roundtrip :
    (∀ v : Json, v.IsExact → ∃ bytes, Encoding.json.encode v = .ok bytes ∧
      ∀ d : Delivery, d.body = bytes →
        (v.levels ≤ 127 → d.json .value = .ok v) ∧
        (127 < v.levels → ∃ e : Json.ReadError, e.fault = .tooDeep ∧
          d.json .value = .error (.decoding e.message))) ∧
    (∀ v : Json, v.text? = none → Encoding.text.encode v = Encoding.json.encode v) ∧
    (∀ s : String, ∃ bytes, Encoding.text.encode (.text s) = .ok bytes ∧
      ∀ d : Delivery, d.body = bytes → d.text = .ok s) := by
  refine ⟨fun v hv => ⟨_, rfl, fun d hbody => ?_⟩, fun v hv => ?_, fun s => ⟨_, rfl, ?_⟩⟩
  · obtain ⟨hread, hrefused⟩ := Json.readAll_renderBytes hv
    rw [Delivery.json, hbody]
    constructor
    · intro hlevels
      rw [hread (Nat.lt_succ_of_le hlevels)]
    · intro hlevels
      obtain ⟨e, herror, hfault⟩ := hrefused hlevels
      rw [herror]
      exact ⟨e, hfault, rfl⟩
  · cases v with
    | text s => cases hv
    | _ => rfl
  · intro d hbody
    rw [Delivery.text, hbody, Utf8.decode_encode]

/-- An object with the least whole number and a text with characters that are escaped. -/
def escapedBody : Json :=
  .object [("a", .list [.int Json.leastInt, .bool true]), ("b", .text "\"\n\x01é")]

theorem body_roundtrip_escapedBody : ∃ bytes, Encoding.json.encode escapedBody = .ok bytes ∧
    ∀ d : Delivery, d.body = bytes → d.json .value = .ok escapedBody := by
  have hexact : escapedBody.IsExact := by
    apply Json.IsExact.object
    · decide
    · rw [List.forall_mem_cons, List.forall_mem_singleton]
      refine ⟨.list ?_, .text _⟩
      rw [List.forall_mem_cons, List.forall_mem_singleton]
      exact ⟨.int (by decide) (by decide), .bool true⟩
  obtain ⟨bytes, hbytes, hread⟩ := body_roundtrip.1 escapedBody hexact
  exact ⟨bytes, hbytes, fun d hd => (hread d hd).1 (by decide)⟩

end Courier
