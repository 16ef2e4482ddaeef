import Mathlib.Data.List.Permutation
import Courier.Kafka.Records
import Courier.Proofs.Dict
import Courier.Proofs.Text.Utf8

/-!
# Headers in records

What is read from a record is what its envelope says of itself, with the headers of the caller put
over it: all of them are read back, and they win over headers of the envelope with the same keys.
`callers_headers_survive` says so for every order in which the headers of the caller may come.
-/

namespace Courier.Kafka

/-! ## §1 Headers of texts -/

/-- The header of a text is read back as that text. -/
theorem RecordHeader.pair?_ofText (key text : String) :
    pair? (ofText key text) = some (key, text) := by
  simp [pair?, ofText, Utf8.decode_encode, Except.toOption]

/-- Headers of texts are read back as the texts that were written, the last one of a key winning. -/
theorem readHeaders_ofText (pairs : List (String × String)) :
    readHeaders (pairs.map fun p => .ofText p.1 p.2) = Dict.ofList pairs := by
  have hpairs : (pairs.map fun p => RecordHeader.ofText p.1 p.2).filterMap RecordHeader.pair?
      = pairs := by
    rw [List.filterMap_map]
    have hsome : RecordHeader.pair? ∘ (fun p : String × String => RecordHeader.ofText p.1 p.2)
        = some := by
      funext p
      exact RecordHeader.pair?_ofText p.1 p.2
    rw [hsome, List.filterMap_some]
  rw [readHeaders, hpairs]

/-- The pairs that an envelope gives to its record before those of the caller. -/
def ownPairs (e : Envelope) : List (String × String) :=
  [(contentTypeHeader, e.contentType), (messageIdHeader, e.id)]
    ++ (e.kind.map fun kind => (kindHeader, kind)).toList

theorem ownHeaders_eq (e : Envelope) :
    ownHeaders e = (ownPairs e).map fun p => .ofText p.1 p.2 := by
  cases hkind : e.kind <;> simp [ownHeaders, ownPairs, hkind]

/-- What an envelope says of itself stands under three keys at most. -/
theorem get?_ownPairs (e : Envelope) (key : String) : (Dict.ofList (ownPairs e)).get? key
    = if kindHeader = key then e.kind
      else if messageIdHeader = key then some e.id
      else if contentTypeHeader = key then some e.contentType
      else none := by
  cases hkind : e.kind with
  | none =>
    have hown : ownPairs e = [(contentTypeHeader, e.contentType), (messageIdHeader, e.id)] := by
      rw [ownPairs, hkind]
      rfl
    rw [hown, Dict.ofList, Dict.insertAll_cons, Dict.insertAll_cons]
    show ((Dict.empty.insert contentTypeHeader e.contentType).insert messageIdHeader e.id).get? key
      = _
    rw [Dict.get?_insert, Dict.get?_insert, Dict.get?_empty]
    -- no entry is made for a kind that is not set
    by_cases hkey : kindHeader = key
    · subst hkey
      rfl
    · rw [if_neg hkey]
  | some kind =>
    have hown : ownPairs e = [(contentTypeHeader, e.contentType), (messageIdHeader, e.id),
        (kindHeader, kind)] := by
      rw [ownPairs, hkind]
      rfl
    rw [hown, Dict.ofList, Dict.insertAll_cons, Dict.insertAll_cons, Dict.insertAll_cons]
    show (((Dict.empty.insert contentTypeHeader e.contentType).insert messageIdHeader e.id).insert
      kindHeader kind).get? key = _
    rw [Dict.get?_insert, Dict.get?_insert, Dict.get?_insert, Dict.get?_empty]

theorem contains_ownPairs (e : Envelope) (key : String) :
    (Dict.ofList (ownPairs e)).contains key = true ↔ key = contentTypeHeader ∨
      key = messageIdHeader ∨ (key = kindHeader ∧ e.kind.isSome = true) := by
  have htype : kindHeader ≠ contentTypeHeader := by decide
  have hid : kindHeader ≠ messageIdHeader := by decide
  rw [Dict.contains, get?_ownPairs]
  by_cases hkind : kindHeader = key
  · subst hkind
    simp [htype, hid]
  · rw [if_neg hkind]
    by_cases hkey : messageIdHeader = key
    · simp [← hkey]
    · rw [if_neg hkey]
      by_cases hcontent : contentTypeHeader = key
      · simp [← hcontent]
      · simp [hcontent, Ne.symm hkind, Ne.symm hkey, Ne.symm hcontent]

/-! ## §2 Headers in any order -/

/-- The headers of a record that an envelope is sent as: those of its own, and after them those of
the caller in any order. -/
inductive Writes (e : Envelope) : List RecordHeader → Prop where
  | inAnyOrder {pairs : List (String × String)} (h : pairs.Perm e.headers.toList) :
      Writes e (ownHeaders e ++ pairs.map fun p => .ofText p.1 p.2)

theorem writes_recordHeaders (e : Envelope) : Writes e (recordHeaders e) :=
  .inAnyOrder (.refl _)

/-- What is read from a record is what the envelope says of itself, with the headers of the caller
put over it. -/
theorem Writes.get?_readHeaders {e : Envelope} {records : List RecordHeader} (h : Writes e records)
    (key : String) : (readHeaders records).get? key
      = (e.headers.get? key).or ((Dict.ofList (ownPairs e)).get? key) := by
  cases h with
  | inAnyOrder horder =>
    rw [ownHeaders_eq, ← List.map_append, readHeaders_ofText, Dict.ofList, Dict.insertAll_append,
      Dict.get?_insertAll_of_perm _ horder]
    rfl

/-- The headers of the caller are read back from a record. -/
theorem get?_readHeaders {e : Envelope} {key value : String} (h : e.headers.get? key = some value) :
    (readHeaders (recordHeaders e)).get? key = some value := by
  rw [(writes_recordHeaders e).get?_readHeaders, h, Option.some_or]

/-! ## §3 Headers of the caller -/

/-- In whatever order the headers of the caller are written, the same headers are read back. Each
header of the caller is among them with its value, and the others are those of the envelope: the
type of its content, its number and its kind, if it has one. -/
theorem callers_headers_survive {e : Envelope} {records : List RecordHeader}
    (h : Writes e records) :
    readHeaders records = readHeaders (recordHeaders e) ∧
    (∀ key value, e.headers.get? key = some value →
      (readHeaders records).get? key = some value) ∧
    ∀ key, (readHeaders records).contains key = true ↔ e.headers.contains key = true ∨
      key = contentTypeHeader ∨ key = messageIdHeader ∨
      (key = kindHeader ∧ e.kind.isSome = true) := by
  refine ⟨?_, ?_, ?_⟩
  · -- both are the caller's headers over those of the envelope, key by key
    apply Dict.ext_get?
    intro key
    rw [h.get?_readHeaders, (writes_recordHeaders e).get?_readHeaders]
  · intro key value hvalue
    rw [h.get?_readHeaders, hvalue, Option.some_or]
  · intro key
    rw [Dict.contains, h.get?_readHeaders, Option.isSome_or, Bool.or_eq_true]
    exact or_congr Iff.rfl (contains_ownPairs e key)

/-- An order with the headers of a delivery that it follows from, which has a kind of its own. -/
def forwardedOrder : Envelope where
  id := "id-8"
  destination := "orders"
  key := some "42"
  kind := some "order.paid"
  headers := Dict.ofList [("kind", "order.created"), ("tenant", "acme")]
  body := none
  contentType := jsonContentType
  ttl := none

/-- The headers of its record, with those of the delivery written from the last to the first. -/
def forwardedHeaders : List RecordHeader :=
  ownHeaders forwardedOrder ++ [.ofText "tenant" "acme", .ofText "kind" "order.created"]

/-- The headers of the delivery are read back, also the one with the name of a header that the
envelope has itself. -/
theorem callers_headers_survive_forwardedOrder : Writes forwardedOrder forwardedHeaders ∧
    (readHeaders forwardedHeaders).get? "kind" = some "order.created" ∧
    (readHeaders forwardedHeaders).contains "message-id" = true := by
  have hentries : forwardedOrder.headers.toList
      = [("kind", "order.created"), ("tenant", "acme")] := by cbv
  have horder : [("tenant", "acme"), ("kind", "order.created")].Perm
      forwardedOrder.headers.toList := by
    rw [hentries]
    exact .swap _ _ []
  have hwrites : Writes forwardedOrder forwardedHeaders := .inAnyOrder horder
  obtain ⟨-, hcaller, hkeys⟩ := callers_headers_survive hwrites
  have hkind : forwardedOrder.headers.get? "kind" = some "order.created" := by cbv
  exact ⟨hwrites, hcaller "kind" _ hkind, (hkeys "message-id").mpr (.inr (.inr (.inl rfl)))⟩

end Courier.Kafka
