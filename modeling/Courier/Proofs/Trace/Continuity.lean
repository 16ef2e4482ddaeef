import Mathlib
import Courier.Amqp.Properties
import Courier.Proofs.Amqp.Table
import Courier.Proofs.Kafka.Records
import Courier.Proofs.Text.Numeral
import Courier.Proofs.Trace.State
import Courier.Publisher.Envelope

/-!
# Traces that go on

A trace context that is published in the headers of the World Wide Web Consortium is found again by
the consumer, whatever headers the message had before and whichever broker carries them:
`trace_continues`. The text that names the span and the text of the state are each read back, and
nothing that happens to headers on the way changes what stands under the two keys.
-/

namespace Courier.Trace

/-! ## §1 The text that names a span -/

/-- A digit is neither a dash nor a blank nor a capital. -/
theorem digitChar_plain : ∀ d < 16, Numeral.digitChar d ≠ '-' ∧
    Text.isBlank (Numeral.digitChar d) = false ∧ (Numeral.digitChar d).isUpper = false := by
  decide

theorem hasCapital_hex (width n : Nat) : Propagator.hasCapital (Numeral.hex width n) = false := by
  have hupper : ∀ c ∈ Numeral.hexDigits width n, c.isUpper = false :=
    Numeral.forall_mem_hexDigits (fun d hd => (digitChar_plain d hd).2.2) width n
  rw [Propagator.hasCapital, Numeral.hex, String.toList_ofList, List.any_eq_false]
  intro c hc
  rw [hupper c hc]
  exact Bool.false_ne_true

/-- The version, the numbers and the flags of a context, each as it is written. -/
def parentParts (c : Context) : List (List Char) :=
  [Numeral.hexDigits 2 0, Numeral.hexDigits 32 c.traceId.toNat,
    Numeral.hexDigits 16 c.spanId.toNat,
    Numeral.hexDigits 2 (c.flags &&& Propagator.sampledFlag).toNat]

theorem parentText_eq (c : Context) : Propagator.parentText c
    = Text.joinWith (String.singleton '-') ((parentParts c).map String.ofList) := by
  rw [← String.toList_inj]
  simp only [Propagator.parentText, parentParts, Text.joinWith, Context.traceText,
    Context.spanText, Numeral.hex, List.map_cons, List.map_nil, String.toList_append,
    String.toList_ofList, String.toList_singleton, List.append_assoc]
  rfl

/-- The parts of the text are found again: it holds dashes only between them, and no blanks. -/
theorem splitEnded_parentText (c : Context) :
    Text.splitEnded '-' (Text.trimChars (Propagator.parentText c).toList) = parentParts c := by
  have hparts : ∀ part ∈ parentParts c, '-' ∉ part ∧ part ≠ [] := by
    have hpart : ∀ width n, '-' ∉ Numeral.hexDigits (width + 1) n
        ∧ Numeral.hexDigits (width + 1) n ≠ [] := by
      intro width n
      refine ⟨fun hmem => ?_, Numeral.hexDigits_ne_nil width n⟩
      obtain ⟨d, hd, heq⟩ := Numeral.exists_digitChar_of_mem hmem
      exact (digitChar_plain d hd).1 heq.symm
    simp only [parentParts, List.forall_mem_cons]
    exact ⟨hpart 1 _, hpart 31 _, hpart 15 _, hpart 1 _, nofun⟩
  have hblank : ∀ ch ∈ (Propagator.parentText c).toList, Text.isBlank ch = false := by
    have hdigits : ∀ width n, ∀ ch ∈ Numeral.hexDigits width n, Text.isBlank ch = false :=
      Numeral.forall_mem_hexDigits (fun d hd => (digitChar_plain d hd).2.1)
    have hdash : Text.isBlank '-' = false := by decide
    simp only [parentText_eq, parentParts, Text.joinWith, List.map_cons, List.map_nil,
      String.toList_append, String.toList_ofList, String.toList_singleton, List.forall_mem_append,
      List.forall_mem_singleton]
    exact ⟨⟨hdigits _ _, hdash⟩, ⟨hdigits _ _, hdash⟩, ⟨hdigits _ _, hdash⟩, hdigits _ _⟩
  rw [Text.trimChars_of_forall hblank, parentText_eq, Text.splitEnded_joinWith hparts]

theorem readTraceId_traceText (c : Context) : readTraceId c.traceText = some c.traceId := by
  have hlt : c.traceId.toNat < 16 ^ 32 := Nat.lt_of_lt_of_eq c.traceId.isLt (by decide)
  have hlimit : c.traceId.toNat < 1 <<< 128 := Nat.lt_of_lt_of_eq c.traceId.isLt (by decide)
  rw [readTraceId, Context.traceText, Numeral.readHex_hex hlt hlimit, Option.map_some,
    BitVec.ofNat_toNat, BitVec.setWidth_eq]

theorem readSpanId_spanText (c : Context) : readSpanId c.spanText = some c.spanId := by
  have hlt : c.spanId.toNat < 16 ^ 16 := Nat.lt_of_lt_of_eq c.spanId.isLt (by decide)
  have hlimit : c.spanId.toNat < 1 <<< 64 := Nat.lt_of_lt_of_eq c.spanId.isLt (by decide)
  rw [readSpanId, Context.spanText, Numeral.readHex_hex hlt hlimit, Option.map_some,
    BitVec.ofNat_toNat, BitVec.setWidth_eq]

/-- A context names its span by the two numbers and the flag that travels. -/
theorem readParent_parentText (c : Context) : Propagator.readParent (Propagator.parentText c)
    = some (c.traceId, c.spanId, c.flags &&& Propagator.sampledFlag) := by
  have hflag : (c.flags &&& Propagator.sampledFlag).toNat ≤ 1 := by
    rw [UInt8.toNat_and]
    exact Nat.and_le_right
  have hversion : Numeral.readHex 256 (Numeral.hex 2 0) = some 0 :=
    Numeral.readHex_hex (by decide) (by decide)
  have hflags : Numeral.readHex 256 (Numeral.hex 2 (c.flags &&& Propagator.sampledFlag).toNat)
      = some (c.flags &&& Propagator.sampledFlag).toNat :=
    Numeral.readHex_hex (by omega) (by omega)
  rw [Propagator.readParent, splitEnded_parentText]
  show Propagator.readParts [Numeral.hex 2 0, c.traceText, c.spanText,
    Numeral.hex 2 (c.flags &&& Propagator.sampledFlag).toNat] = _
  have htrace : Propagator.hasCapital c.traceText = false := hasCapital_hex 32 _
  have hspan : Propagator.hasCapital c.spanText = false := hasCapital_hex 16 _
  -- the flags are masked when they are read, too, which changes nothing any more
  generalize hf : c.flags &&& Propagator.sampledFlag = f at hflag hflags ⊢
  have hmask : f &&& Propagator.sampledFlag = f := by
    rw [← hf, UInt8.and_assoc, UInt8.and_self]
  have hsmall : ¬f.toNat > 2 := by omega
  simp only [Propagator.readParts, hversion, htrace, hspan, readTraceId_traceText,
    readSpanId_spanText, hflags, UInt8.ofNat_toNat, hmask]
  simp [hsmall]

/-! ## §2 Headers on their way -/

/-- What a consumer reads of the headers of an envelope. -/
inductive Carries (e : Envelope) : Headers → Prop where
  /-- Headers in the field table of an AMQP message. -/
  | table : Carries e (Amqp.Table.headersOf (some (Amqp.Properties.ofEnvelope e).headers))
  /-- Headers in a Kafka record, after what the envelope says of itself. -/
  | record : Carries e (Kafka.headersOf (some (Kafka.recordHeaders e)))

/-- A header is found by the consumer as it was in the envelope. -/
theorem Carries.get? {e : Envelope} {headers : Headers} (h : Carries e headers)
    {key value : String} (hget : e.headers.get? key = some value) :
    headers.get? key = some value := by
  cases h with
  | table =>
    show (Amqp.Table.toHeaders (Amqp.Table.ofHeaders e.headers)).get? key = some value
    rw [Amqp.Table.toHeaders_ofHeaders]
    exact hget
  | record => exact Kafka.get?_readHeaders hget

/-! ## §3 Setting and finding contexts -/

namespace Propagator

/-- The two keys are in small letters already. -/
theorem lowercase_headers :
    Text.lowercase parentHeader = parentHeader ∧ Text.lowercase stateHeader = stateHeader := by
  constructor <;> cbv

/-- The pairs of a context stand under the two keys, whatever was set there before. -/
theorem get?_injectInto {c : Context} (h : c.isValid = true) (headers : Headers) :
    (w3c.injectInto c headers).get? parentHeader = some (parentText c) ∧
      (w3c.injectInto c headers).get? stateHeader = some c.state.text := by
  have hpairs : w3c.inject c = [(parentHeader, parentText c), (stateHeader, c.state.text)] :=
    if_pos h
  have hinto : w3c.injectInto c headers
      = (headers.insert parentHeader (parentText c)).insert stateHeader c.state.text := by
    obtain ⟨hparent, hstate⟩ := lowercase_headers
    rw [injectInto, setPairs, hpairs, List.map_cons, List.map_cons, hparent, hstate]
    rfl
  -- the state is set last, and not over the span
  have hne : stateHeader ≠ parentHeader := by decide
  rw [hinto, Dict.get?_insert, Dict.get?_insert, Dict.get?_insert, if_neg hne, if_pos rfl,
    if_pos rfl]
  exact ⟨rfl, rfl⟩

/-- The context of a span whose text and state stand under the two keys. -/
theorem extractFrom_eq {c : Context} (h : c.isValid = true) {headers : Headers}
    (hparent : headers.get? parentHeader = some (parentText c))
    (hstate : headers.get? stateHeader = some c.state.text) :
    w3c.extractFrom headers = { c with flags := c.flags &&& sampledFlag, remote := true } := by
  have hvalid : Context.isValid { c with flags := c.flags &&& sampledFlag, remote := true }
      = true := h
  simp only [extractFrom, w3c, hparent, hstate, Option.bind_some, readParent_parentText,
    Option.getD_some, State.read_text]
  exact if_pos hvalid

end Propagator

/-! ## §4 Traces that go on -/

/-- What is left of a context after it has travelled: its numbers, its state and the one flag that
travels. -/
def Context.travelled (c : Context) : Context :=
  { c with flags := c.flags &&& Propagator.sampledFlag, remote := true }

/-- Whether every span that is started under a context that names a span belongs to its trace, as the
makers of tracers promise. -/
def Tracer.KeepsTraces (t : Tracer) : Prop :=
  ∀ number name (parent : Context), parent.isValid = true →
    (t.start number name parent).traceId = parent.traceId

theorem Tracer.keepsTraces_counting : counting.KeepsTraces :=
  fun _ _ _ hvalid => if_pos hvalid

/-- A message whose body can be encoded makes an envelope, and whichever broker carries it, the
consumer finds the context that it was published under: with the numbers and the state of that
context and the one flag that travels. The span of the consumer is started by its tracer under what
was found, so it belongs to the same trace if the tracer keeps to traces. -/
theorem trace_continues (setup : Publisher.Setup) (hsetup : setup.telemetry.propagator = .w3c)
    {c : Context} (hc : c.isValid = true) (m : Message) {body : Option (List UInt8)}
    (hbody : setup.encodeBody m.body = .ok body) (number : Nat) :
    ∃ e, setup.envelope c number m = .ok e ∧ ∀ headers, Carries e headers →
      ∀ consumer : Telemetry, consumer.propagator = .w3c →
        consumer.extract headers = c.travelled ∧
          ∀ name count,
            consumer.consumerSpan headers name count
              = ⟨name, c.travelled, consumer.tracer.start count name c.travelled⟩ ∧
            (consumer.tracer.KeepsTraces →
              (consumer.consumerSpan headers name count).context.traceId = c.traceId) := by
  have hinject : ∀ own : Headers,
      setup.telemetry.inject c own = Propagator.w3c.injectInto c own := by
    intro own
    rw [Telemetry.inject, hsetup]
  rw [Publisher.Setup.envelope, hbody]
  refine ⟨_, rfl, fun headers hcarries consumer hconsumer => ?_⟩
  obtain ⟨hparent, hstate⟩ := Propagator.get?_injectInto hc (m.headers.getD Dict.empty)
  rw [← hinject] at hparent hstate
  have hextract : consumer.extract headers = c.travelled := by
    rw [Telemetry.extract, hconsumer]
    exact Propagator.extractFrom_eq hc (hcarries.get? hparent) (hcarries.get? hstate)
  have hspan : ∀ name count, consumer.consumerSpan headers name count
      = ⟨name, c.travelled, consumer.tracer.start count name c.travelled⟩ := by
    intro name count
    rw [Telemetry.consumerSpan, hextract]
  refine ⟨hextract, fun name count => ⟨hspan name count, fun hkeeps => ?_⟩⟩
  -- what was found names a span as the context itself does
  have hvalid : c.travelled.isValid = true := hc
  rw [hspan name count]
  exact hkeeps count name c.travelled hvalid

/-- A sampled context with a second flag that does not travel, and with one vendor's state. -/
def vendorContext : Context :=
  ⟨0xa0b, 0xc0d, 3, State.read "vendor=1", false⟩

/-- A message that was traced before, by headers in letters of either case. -/
def tracedMessage : Message :=
  (((Message.new "orders").setHeader "TraceParent" "old").setHeader "traceparent" "older").setText
    "paid"

/-- JSON bodies, and contexts in the form of the World Wide Web Consortium. -/
def tracedSetup : Publisher.Setup where
  encoding := Encoding.json
  telemetry := ⟨.w3c, .silent⟩
  defaultTtl := none
  envelopeId := Numeral.ofNat

/-- A message that was traced before is published under a context of its own, which is the one that
is found in the record that carries it; the span of a consumer that counts its spans belongs to the
trace of this context. -/
theorem trace_continues_tracedMessage :
    ∃ e, tracedSetup.envelope vendorContext 1 tracedMessage = .ok e ∧
      Telemetry.consumerSpan ⟨.w3c, .counting⟩ (Kafka.headersOf (some (Kafka.recordHeaders e)))
          "orders" 5
        = ⟨"orders", ⟨0xa0b, 0xc0d, 1, State.read "vendor=1", true⟩,
            ⟨0xa0b, 5, 1, State.empty, false⟩⟩ ∧
      (Telemetry.consumerSpan ⟨.w3c, .counting⟩ (Kafka.headersOf (some (Kafka.recordHeaders e)))
        "orders" 5).context.traceId = vendorContext.traceId := by
  obtain ⟨e, he, hfound⟩ :=
    trace_continues tracedSetup rfl (by decide : vendorContext.isValid = true) tracedMessage rfl 1
  obtain ⟨hstarted, hkeeps⟩ := (hfound _ .record ⟨.w3c, .counting⟩ rfl).2 "orders" 5
  exact ⟨e, he, hstarted, hkeeps Tracer.keepsTraces_counting⟩

end Courier.Trace
