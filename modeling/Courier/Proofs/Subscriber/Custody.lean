import Courier.Proofs.Subscriber.Run

/-!
# Custody of deliveries and sources

What a listening call owes to its surroundings: a delivery that it has taken is settled once, with
the handle it came with, before anything else is read and before the source is closed; the handler
is called for that delivery only; and a source that was opened is closed before another is opened.
`Custody` is this protocol as an automaton over histories, and every run of a listening call follows
it.
-/

namespace Courier.Subscriber

universe u

variable {η : Type u}

/-! ## §1 The protocol -/

/-- What is in the hands of a listening call. -/
inductive Custody (η : Type u) where
  /-- No source. -/
  | released
  | opening
  /-- A source is open, and no delivery is pending. -/
  | idle
  | reading
  /-- A delivery is pending. -/
  | holding (delivery : Delivery) (handle : η)
  /-- The handler works on the pending delivery. -/
  | handling (delivery : Delivery) (handle : η)
  | settling
  | closing

namespace Custody

/-- What may come and what may be asked for next. -/
inductive Next : Custody η → Entry η → Custody η → Prop where
  | turn : Next .released (.came .turn) .released
  | sleep (wait : Duration) : Next .released (.asked (.sleep wait)) .released
  | slept : Next .released (.came .elapsed) .released
  | leave : Next .released (.came .stop) .released
  | openSource (prefetch : Nat) : Next .released (.asked (.openSource prefetch)) .opening
  | opened : Next .opening (.came (.opened (.ok ()))) .idle
  | refused (e : BrokerError) : Next .opening (.came (.opened (.error e))) .released
  | read : Next .idle (.asked .read) .reading
  | delivered (d : Delivery) (h : η) :
      Next .reading (.came (.read (.ok (some (d, h))))) (.holding d h)
  | dry : Next .reading (.came (.read (.ok none))) .idle
  | failed (e : BrokerError) : Next .reading (.came (.read (.error e))) .idle
  | stale : Next .reading (.came .elapsed) .idle
  | interrupted : Next .reading (.came .stop) .idle
  | handle (d : Delivery) (h : η) (context : Trace.Context) :
      Next (.holding d h) (.asked (.handle context d)) (.handling d h)
  | handled (d : Delivery) (h : η) (result : Except HandlerError Unit) :
      Next (.handling d h) (.came (.handled result)) (.holding d h)
  | pause (d : Delivery) (h : η) (wait : Duration) :
      Next (.holding d h) (.asked (.sleep wait)) (.holding d h)
  | paused (d : Delivery) (h : η) : Next (.holding d h) (.came .elapsed) (.holding d h)
  | stop (d : Delivery) (h : η) : Next (.holding d h) (.came .stop) (.holding d h)
  | settle (d : Delivery) (h : η) (x : Settlement) (d' : Delivery) :
      Next (.holding d h) (.asked (.settle x h d')) .settling
  | settled (result : Except BrokerError Unit) : Next .settling (.came (.settled result)) .idle
  | close : Next .idle (.asked .closeSource) .closing
  | closed (result : Except BrokerError Unit) : Next .closing (.came (.closed result)) .released

/-- A history that keeps to the protocol, from one custody to another. -/
inductive Follows : Custody η → List (Entry η) → Custody η → Prop where
  | nil (c : Custody η) : Follows c [] c
  | cons {c c' c'' : Custody η} {entry : Entry η} {rest : List (Entry η)} :
      Next c entry c' → Follows c' rest c'' → Follows c (entry :: rest) c''

theorem Follows.append {c c' c'' : Custody η} {a b : List (Entry η)} (ha : Follows c a c')
    (hb : Follows c' b c'') : Follows c (a ++ b) c'' := by
  induction ha with
  | nil _ => exact hb
  | cons hn _ ih => exact .cons hn (ih hb)

theorem Follows.silent {c c' : Custody η} {input : Input η} (h : Next c (.came input) c') :
    Follows c (Entry.turn input []) c' :=
  .cons h (.nil c')

theorem Follows.answered {c c' c'' : Custody η} {input : Input η} {request : Request η}
    (h : Next c (.came input) c') (h' : Next c' (.asked request) c'') :
    Follows c (Entry.turn input [request]) c'' :=
  .cons h (.cons h' (.nil c''))

theorem Follows.split {c c'' : Custody η} {a b : List (Entry η)} (h : Follows c (a ++ b) c'') :
    ∃ c', Follows c a c' ∧ Follows c' b c'' := by
  induction a generalizing c with
  | nil => exact ⟨c, .nil c, h⟩
  | cons entry rest ih =>
    cases h with
    | cons hn hrest =>
      obtain ⟨c', ha, hb⟩ := ih hrest
      exact ⟨c', .cons hn ha, hb⟩

end Custody

/-! ## §2 What the protocol says about a delivery -/

/-- Entries that leave a pending delivery pending. -/
inductive Entry.Keeps (d : Delivery) : Entry η → Prop where
  | handle (context : Trace.Context) : Keeps d (.asked (.handle context d))
  | handled (result : Except HandlerError Unit) : Keeps d (.came (.handled result))
  | sleep (wait : Duration) : Keeps d (.asked (.sleep wait))
  | slept : Keeps d (.came .elapsed)
  | stop : Keeps d (.came .stop)

/-- A delivery that is pending, whether the handler works on it or not, is settled with its own
handle before anything else happens than tries and pauses. -/
theorem Custody.Follows.settles {c : Custody η} {d : Delivery} {h : η} {after : List (Entry η)}
    (hf : Follows c after .released) (hc : c = .holding d h ∨ c = .handling d h) :
    ∃ between x d' rest, after = between ++ .asked (.settle x h d') :: rest ∧
      (∀ entry ∈ between, entry.Keeps d) ∧ Follows .settling rest .released := by
  -- on what follows, for both custodies at once: an answer of the handler leads from one to the other
  induction after generalizing c with
  | nil =>
    -- the end of a call that has released everything is not reached with a delivery in hand
    cases hf
    rcases hc with hc | hc <;> cases hc
  | cons entry rest ih =>
    have keep : ∀ c', c' = .holding d h ∨ c' = .handling d h → Follows c' rest .released →
        entry.Keeps d → ∃ between x d' rest',
          entry :: rest = between ++ .asked (.settle x h d') :: rest' ∧
          (∀ entry ∈ between, entry.Keeps d) ∧ Follows .settling rest' .released := by
      intro c' hc' hrest hk
      obtain ⟨between, x, d', rest', rfl, hkeeps, hlast⟩ := ih hrest hc'
      refine ⟨entry :: between, x, d', rest', rfl, ?_, hlast⟩
      intro e he
      rcases List.mem_cons.mp he with rfl | he
      · exact hk
      · exact hkeeps e he
    cases hf with
    | cons hn hrest =>
      rcases hc with rfl | rfl
      · cases hn with
        | handle _ _ context => exact keep _ (.inr rfl) hrest (.handle context)
        | pause _ _ wait => exact keep _ (.inl rfl) hrest (.sleep wait)
        | paused _ _ => exact keep _ (.inl rfl) hrest .slept
        | stop _ _ => exact keep _ (.inl rfl) hrest .stop
        | settle _ _ x d' => exact ⟨[], x, d', rest, rfl, nofun, hrest⟩
      · cases hn with
        | handled _ _ result => exact keep _ (.inl rfl) hrest (.handled result)

/-- A delivery in a history that keeps to the protocol is settled with its own handle before
anything else happens than tries and pauses. -/
theorem Custody.Follows.settles_delivered {d : Delivery} {h : η} {before after : List (Entry η)}
    (hf : Follows .released (before ++ .came (.read (.ok (some (d, h)))) :: after) .released) :
    ∃ between x d' rest, after = between ++ .asked (.settle x h d') :: rest ∧
      (∀ entry ∈ between, entry.Keeps d) ∧ Follows .settling rest .released := by
  obtain ⟨c, _, hlast⟩ := hf.split
  cases hlast with
  | cons hn hrest =>
    cases hn with
    | delivered _ _ => exact hrest.settles (.inl rfl)

/-! ## §3 Every run keeps to the protocol -/

/-- What is in the hands of a listening call at a stage. -/
def Stage.custody : Stage η → Custody η
  | .queued | .pausing _ | .returned => .released
  | .opening => .opening
  | .reading _ _ => .reading
  | .handling job => .handling job.delivery job.handle
  | .waiting job _ => .holding job.delivery job.handle
  | .settling _ _ => .settling
  | .leaving _ => .closing
  | .crashed => .idle

variable {s : Setup}

/-- Every turn keeps to the protocol. -/
theorem Setup.Turns.custody {closed : Bool} {now : Instant} {span : Nat} {stage next : Stage η}
    {input : Input η} {asked : List (Request η)}
    (h : s.Turns closed now span stage input next asked) :
    Custody.Follows stage.custody (Entry.turn input asked) next.custody := by
  cases h with
  | dismiss _ => exact .silent .turn
  | enter _ => exact .answered .turn (.openSource _)
  | await _ _ => exact .answered .opened .read
  | overflow _ => exact .silent .opened
  | refused e => exact .answered (.refused e) (.sleep _)
  | halt _ _ _ => exact .answered .interrupted .close
  | stale _ _ _ _ => exact .answered .stale .close
  | take _ _ d h _ _ => exact .answered (.delivered d h) (.handle d h _)
  | dry _ _ _ _ => exact .answered .dry .close
  | fault _ _ e _ _ => exact .answered (.failed e) .close
  | decide job result x _ => exact .answered (.handled _ _ result) (.settle _ _ x _)
  | defer job result wait _ => exact .answered (.handled _ _ result) (.pause _ _ wait)
  | again job _ _ _ => exact .answered (.paused _ _) (.handle _ _ _)
  | copy job _ _ _ => exact .answered (.paused _ _) (.settle _ _ .republish _)
  | giveBack job _ _ => exact .answered (.stop _ _) (.settle _ _ .requeue _)
  | goOn job x result _ _ _ => exact .answered (.settled result) .read
  | goOnOverflow job x result _ _ => exact .silent (.settled result)
  | giveUp job x result _ _ => exact .answered (.settled result) .close
  | finish result => exact .silent (.closed result)
  | restart result => exact .answered (.closed result) (.sleep _)
  | retire _ _ _ => exact .silent .slept
  | reopen _ _ _ => exact .answered .slept (.openSource _)
  | interrupt _ _ => exact .silent .leave

/-- A call breaks off only at an instant after which the clock cannot count the deadline. -/
theorem Setup.Turns.overflow_of_crashed {closed : Bool} {now : Instant} {span : Nat}
    {stage : Stage η} {input : Input η} {asked : List (Request η)}
    (h : s.Turns closed now span stage input .crashed asked) :
    now.add? s.options.staleTimeout = none := by
  cases h with
  | overflow hn => exact hn
  | goOnOverflow _ _ _ _ hn => exact hn

/-- Whatever comes to a listening call and whenever it is closed, its history keeps to the protocol
of custody from its beginning on. A call that has returned has released its source. Only a clock
that cannot count a deadline breaks a call off, and then no delivery is pending. -/
theorem custody_of_run {moments : List (Moment η)} {stage : Stage η} {history : List (Entry η)}
    (h : s.run .queued moments = some (stage, history)) :
    ∃ c, Custody.Follows .released history c ∧
      (stage = .returned → c = .released) ∧
      (stage = .crashed →
        c = .idle ∧ ∃ m ∈ moments, m.now.add? s.options.staleTimeout = none) := by
  -- what is in hand is a matter of the stage alone, so the stage carries the invariant
  let P : Stage η → List (Entry η) → Prop := fun stage history =>
    Custody.Follows .released history stage.custody ∧
      (stage = .crashed → ∃ m ∈ moments, m.now.add? s.options.staleTimeout = none)
  have step : ∀ m ∈ moments, ∀ stage next asked before, P stage before →
      s.Turns m.isClosed m.now m.span stage m.input next asked →
      P next (before ++ Entry.turn m.input asked) := by
    intro m hm stage next asked before hP ht
    refine ⟨hP.1.append ht.custody, ?_⟩
    intro hcrashed
    subst hcrashed
    exact ⟨m, hm, ht.overflow_of_crashed⟩
  have start : P .queued [] := ⟨.nil _, nofun⟩
  obtain ⟨hfollows, hcrash⟩ := Setup.run_invariant step start h
  refine ⟨stage.custody, hfollows, ?_, ?_⟩
  · intro hs
    rw [hs]
    rfl
  · intro hs
    exact ⟨by rw [hs]; rfl, hcrash hs⟩

/-- The run of `retriedOrder` returns, and it has kept to the protocol. -/
theorem custody_of_retriedOrder :
    (Setup.ofOrders .republish).run .queued retriedOrder = some (.returned, retriedOrderHistory) ∧
      Custody.Follows .released retriedOrderHistory .released := by
  refine ⟨run_retriedOrder, ?_⟩
  obtain ⟨c, hfollows, hreturned, _⟩ := custody_of_run run_retriedOrder
  rw [hreturned rfl] at hfollows
  exact hfollows

/-- With the longest duration as the time after which a session is stale, a call breaks off as soon as
its source is open: the source is not closed, and nothing that comes is answered any more. -/
theorem leaves_source_open :
    ∃ history, Setup.lasting.run .queued
        ([⟨false, 0, 1, .turn⟩, ⟨false, 0, 1, .opened (.ok ())⟩] : List (Moment Nat))
          = some (.crashed, history) ∧
      Custody.Follows .released history .idle ∧ .asked .closeSource ∉ history ∧
      ∀ m : Moment Nat, Setup.lasting.listen m.isClosed m.now m.span .crashed m.input = none := by
  refine ⟨_, rfl, ?_, by decide, fun _ => rfl⟩
  exact .cons .turn (.cons (.openSource 10) (.cons .opened (.nil _)))

end Courier.Subscriber
