import Courier.Proofs.Subscriber.Turn

/-!
# Runs of a listening call

A run is what comes to a listening call, one input after the other, each under circumstances of its
own; nothing is assumed of how these follow on each other. The history of a run is what passes
between the call and its source, its handler and the clock.
-/

namespace Courier.Subscriber

universe u

variable {η : Type u} {s : Setup}

/-! ## §1 Histories -/

/-- An input and the circumstances it comes in: whether the subscriber is closed, the time, and the
number of the next span. -/
structure Moment (η : Type u) where
  isClosed : Bool
  now : Instant
  span : Nat
  input : Input η

/-- An entry of a history. -/
inductive Entry (η : Type u) where
  | came (input : Input η)
  | asked (request : Request η)
deriving DecidableEq, Repr

/-- The entries for an input and for what is asked for in answer to it. -/
def Entry.turn (input : Input η) (asked : List (Request η)) : List (Entry η) :=
  .came input :: asked.map .asked

/-! ## §2 Runs -/

/-- Where a run takes a listening call, and its history; nothing if some input does not fit. -/
def Setup.run (s : Setup) : Stage η → List (Moment η) → Option (Stage η × List (Entry η))
  | stage, [] => some (stage, [])
  | stage, m :: rest =>
    match s.listen m.isClosed m.now m.span stage m.input with
    | none => none
    | some (next, events) =>
      (s.run next rest).map fun r => (r.1, Entry.turn m.input (requests events) ++ r.2)

theorem Setup.run_cons {stage last : Stage η} {m : Moment η} {rest : List (Moment η)}
    {history : List (Entry η)} (h : s.run stage (m :: rest) = some (last, history)) :
    ∃ next asked tail, s.Turns m.isClosed m.now m.span stage m.input next asked ∧
      s.run next rest = some (last, tail) ∧ history = Entry.turn m.input asked ++ tail := by
  simp only [run] at h
  cases hl : s.listen m.isClosed m.now m.span stage m.input with
  | none => simp [hl] at h
  | some effect =>
    obtain ⟨next, events⟩ := effect
    simp only [hl, Option.map_eq_some_iff] at h
    obtain ⟨⟨last', tail⟩, hr, he⟩ := h
    cases he
    exact ⟨next, requests events, tail, turns_of_listen hl, hr, rfl⟩

/-- What holds at the beginning of a run and is kept by each of its turns holds at its end. -/
theorem Setup.run_invariant {P : Stage η → List (Entry η) → Prop} {moments : List (Moment η)}
    (step : ∀ m ∈ moments, ∀ stage next asked before, P stage before →
      s.Turns m.isClosed m.now m.span stage m.input next asked →
      P next (before ++ Entry.turn m.input asked))
    {stage last : Stage η} {before after : List (Entry η)} (start : P stage before)
    (h : s.run stage moments = some (last, after)) : P last (before ++ after) := by
  induction moments generalizing stage before after with
  | nil =>
    simp only [run, Option.some.injEq, Prod.mk.injEq] at h
    obtain ⟨rfl, rfl⟩ := h
    rw [List.append_nil]
    exact start
  | cons m rest ih =>
    obtain ⟨next, asked, tail, ht, hr, rfl⟩ := run_cons h
    have hnext := step m List.mem_cons_self stage next asked before start ht
    have hlast := ih (fun m' hm' => step m' (List.mem_cons_of_mem _ hm')) hnext hr
    rwa [List.append_assoc] at hlast

/-! ## §3 A run for examples -/

/-- A subscriber to orders with the standard options. -/
def Setup.ofOrders (redelivery : Redelivery) : Setup :=
  ⟨"orders", .standard, redelivery, .off⟩

/-- A subscriber to orders whose sessions are never to be stale. -/
def Setup.lasting : Setup :=
  { Setup.ofOrders .inPlace with
    options := { Options.standard with staleTimeout := Duration.max } }

def order : Delivery := ⟨"orders", none, none, Dict.empty, [], false⟩

/-- An order whose first try fails and whose copy is handled, before the call is closed. -/
def retriedOrder : List (Moment Nat) :=
  [⟨false, 0, 1, .turn⟩, ⟨false, 0, 1, .opened (.ok ())⟩,
    ⟨false, 5, 1, .read (.ok (some (order, 7)))⟩,
    ⟨false, 5, 2, .handled (.error (.retry (.text "busy")))⟩,
    ⟨false, 1000000005, 2, .elapsed⟩, ⟨false, 1000000005, 2, .settled (.ok ())⟩,
    ⟨false, 1000000006, 2, .read (.ok (some (order.recordAttempts 1, 8)))⟩,
    ⟨false, 1000000006, 3, .handled (.ok ())⟩, ⟨true, 1000000006, 3, .settled (.ok ())⟩,
    ⟨true, 1000000006, 3, .stop⟩, ⟨true, 1000000006, 3, .closed (.ok ())⟩]

/-- The history of `retriedOrder`. -/
def retriedOrderHistory : List (Entry Nat) :=
  Entry.turn .turn [.openSource 10]
    ++ Entry.turn (.opened (.ok ())) [.read]
    ++ Entry.turn (.read (.ok (some (order, 7)))) [.handle .none order]
    ++ Entry.turn (.handled (.error (.retry (.text "busy")))) [.sleep (Duration.ofSeconds 1)]
    ++ Entry.turn .elapsed [.settle .republish 7 (order.recordAttempts 1)]
    ++ Entry.turn (.settled (.ok ())) [.read]
    ++ Entry.turn (.read (.ok (some (order.recordAttempts 1, 8))))
      [.handle .none (order.recordAttempts 1)]
    ++ Entry.turn (.handled (.ok ())) [.settle .ack 8 (order.recordAttempts 1)]
    ++ Entry.turn (.settled (.ok ())) [.read]
    ++ Entry.turn .stop [.closeSource]
    ++ Entry.turn (.closed (.ok ())) []

theorem run_retriedOrder :
    (Setup.ofOrders .republish).run .queued retriedOrder = some (.returned, retriedOrderHistory) :=
  rfl

end Courier.Subscriber
