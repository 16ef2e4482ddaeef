import Courier.Kafka.Delivery
import Courier.Proofs.Kafka.Records

/-!
# What a record says of its message

The type of its content, its number and its kind are headers of a record like all others, and a
header of the caller with the same name stands in their place: `metadata_of_record`. So a message
that carries on the headers of an earlier delivery may carry on its kind, too, which
`not_metadata_as_written` shows.
-/

namespace Courier.Kafka

/-- The delivery of an envelope, whatever order the headers of the caller were written in: it has
what the envelope has, and the headers that are read from the record. -/
theorem delivery_ofEnvelope (e : Envelope) (records : List RecordHeader) :
    Record.delivery { Record.ofEnvelope e with headers := some records } =
      { destination := e.destination
        key := e.key
        kind := (readHeaders records).get? kindHeader
        headers := readHeaders records
        body := e.body.getD []
        redelivered := false } := by
  have hkey : (e.key.map Utf8.encode).bind (fun bytes => (Utf8.decode bytes).toOption)
      = e.key := by
    cases e.key with
    | none => rfl
    | some key =>
      rw [Option.map_some, Option.bind_some, Utf8.decode_encode]
      rfl
  simp only [Record.delivery, Record.ofEnvelope, headersOf, hkey]

/-- Type, number and kind of a message are read from its record as they were written, except that
headers of the caller with these names stand in their place. If the caller has no header that is
named like the kind, the kind of the delivery is that of the message. -/
theorem metadata_of_record {e : Envelope} {records : List RecordHeader} (h : Writes e records) :
    (readHeaders records).get? contentTypeHeader
      = (e.headers.get? contentTypeHeader).or (some e.contentType) ∧
    (readHeaders records).get? messageIdHeader
      = (e.headers.get? messageIdHeader).or (some e.id) ∧
    (readHeaders records).get? kindHeader = (e.headers.get? kindHeader).or e.kind ∧
    (e.headers.get? kindHeader = none →
      (Record.delivery { Record.ofEnvelope e with headers := some records }).kind = e.kind) := by
  have htype : (Dict.ofList (ownPairs e)).get? contentTypeHeader = some e.contentType :=
    get?_ownPairs e contentTypeHeader
  have hid : (Dict.ofList (ownPairs e)).get? messageIdHeader = some e.id :=
    get?_ownPairs e messageIdHeader
  have hown : (Dict.ofList (ownPairs e)).get? kindHeader = e.kind := by
    rw [get?_ownPairs, if_pos rfl]
  have hkind : (readHeaders records).get? kindHeader = (e.headers.get? kindHeader).or e.kind := by
    rw [h.get?_readHeaders, hown]
  refine ⟨?_, ?_, hkind, fun hnone => ?_⟩
  · rw [h.get?_readHeaders, htype]
  · rw [h.get?_readHeaders, hid]
  · rw [delivery_ofEnvelope, hkind, hnone, Option.none_or]

/-- An order whose caller names a type of its own. -/
def typedOrder : Envelope :=
  { forwardedOrder with headers := Dict.ofList [("content-type", "text/csv"), ("tenant", "acme")] }

/-- The caller's type stands in the place of that of the encoder; number and kind are left. -/
theorem metadata_of_typedOrder : Writes typedOrder (recordHeaders typedOrder) ∧
    typedOrder.headers.get? kindHeader = none ∧
    (readHeaders (recordHeaders typedOrder)).get? contentTypeHeader = some "text/csv" ∧
    (readHeaders (recordHeaders typedOrder)).get? messageIdHeader = some "id-8" ∧
    (Record.ofEnvelope typedOrder).delivery.kind = some "order.paid" := by
  have hwrites := writes_recordHeaders typedOrder
  have hnone : typedOrder.headers.get? kindHeader = none := by cbv
  have hcsv : typedOrder.headers.get? contentTypeHeader = some "text/csv" := by cbv
  have hplain : typedOrder.headers.get? messageIdHeader = none := by cbv
  obtain ⟨htype, hid, -, hkind⟩ := metadata_of_record hwrites
  rw [hcsv] at htype
  rw [hplain] at hid
  exact ⟨hwrites, hnone, htype, hid, hkind hnone⟩

/-- Not every message is read with its own metadata: a forwarded order is read with the kind of the
delivery that it follows from. -/
theorem not_metadata_as_written : ¬∀ e : Envelope,
    (readHeaders (recordHeaders e)).get? contentTypeHeader = some e.contentType ∧
    (readHeaders (recordHeaders e)).get? messageIdHeader = some e.id ∧
    (readHeaders (recordHeaders e)).get? kindHeader = e.kind ∧
    (Record.ofEnvelope e).delivery.kind = e.kind := by
  intro h
  obtain ⟨-, -, hkind, -⟩ := h forwardedOrder
  have hcreated : (readHeaders (recordHeaders forwardedOrder)).get? kindHeader
      = some "order.created" :=
    get?_readHeaders (by cbv)
  rw [hcreated] at hkind
  exact absurd hkind (by decide)

end Courier.Kafka
