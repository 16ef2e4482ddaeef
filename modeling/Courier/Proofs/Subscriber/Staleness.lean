import Courier.Proofs.Subscriber.Run
import Courier.Proofs.Subscriber.Time

/-!
# Staleness

A session is stale when nothing was brought to it for long enough. Only the time in which the next
delivery is awaited counts for this: it begins with the session or with the end of a dispatch, and
however long the handler, the pauses and the settlements take, none of it is counted. A wait ends
with what the source brings before the deadline, or at the deadline, and in no other way
(`punctual_of_run`).
-/

namespace Courier.Subscriber

universe u

variable {η : Type u}

/-! ## §1 Waits for a delivery -/

/-- Whether a session begins or a dispatch ends with an act. -/
def Act.IsIdle (act : Act η) : Prop :=
  act.input = .opened (.ok ()) ∨ ∃ result, act.input = .settled result

/-- Whether the next delivery is awaited from an act on. -/
def Act.Awaits (act : Act η) : Prop := .read ∈ act.asked

/-- Whether an act ends a session that is stale. -/
def Act.IsStale (act : Act η) : Prop := act.input = .elapsed ∧ .closeSource ∈ act.asked

/-- What is asked for when the source brings something: a delivery is handed to the handler, in some
context, and after the end of the stream or a failure the source is closed. -/
def answerTo (context : Trace.Context) :
    Except BrokerError (Option (Delivery × η)) → Request η
  | .ok (some (d, _)) => .handle context d
  | .ok none | .error _ => .closeSource

/-- What is said of an act that comes after others, given how long a session may be silent. -/
structure Act.IsTimely (timeout : Duration) (before : List (Act η)) (act : Act η) : Prop where
  /-- A delivery is awaited only from the beginning of a session or the end of a dispatch on. -/
  since : act.Awaits → act.IsIdle
  /-- From then on it is awaited, unless the session is over or no clock can count the deadline. -/
  begins : act.IsIdle → act.Awaits ∨ act.asked = [.closeSource] ∨
    act.asked = [] ∧ act.now.add? timeout = none
  /-- A wait ends with what the source brings, or with the session. -/
  ends : ∀ start earlier, before = start :: earlier → start.Awaits →
    act.IsStale ∨ ∃ result, act.input = .read result
  /-- What the source brings was awaited, it comes before the deadline, and it is acted on. -/
  brought : ∀ result, act.input = .read result → ∃ start earlier, before = start :: earlier ∧
    start.Awaits ∧ act.now < start.now.after timeout ∧
    ∃ context, act.asked = [answerTo context result]
  /-- A session is stale when a delivery was awaited, at the deadline and at no other time. -/
  stale : act.IsStale → ∃ start earlier, before = start :: earlier ∧ start.Awaits ∧
    act.now = start.now.after timeout

/-- How far a call at a stage has waited. -/
def Stage.HasWaited (timeout : Duration) (clock : Instant) (acts : List (Act η)) :
    Stage η → Prop
  | .reading since deadline => (∃ start before, acts = start :: before ∧ start.Awaits ∧
      start.now = since) ∧ deadline = since.after timeout ∧ clock ≤ deadline
  | _ => ∀ start before, acts = start :: before → ¬start.Awaits

/-! ## §2 Turns -/

variable {setup : Setup} {clock : Instant} {closed : Bool} {span : Nat} {stage next : Stage η}
  {input : Input η} {asked : List (Request η)} {before : List (Act η)}

/-- An act that has nothing to do with a wait. -/
private theorem timely_apart {timeout : Duration} {act : Act η}
    (hbefore : ∀ start earlier, before = start :: earlier → ¬start.Awaits)
    (hidle : ¬act.IsIdle) (hawaits : ¬act.Awaits) (hstale : ¬act.IsStale)
    (hread : ∀ result, act.input ≠ .read result) : act.IsTimely timeout before where
  since h := absurd h hawaits
  begins h := absurd h hidle
  ends start earlier he h := absurd h (hbefore start earlier he)
  brought result h := absurd h (hread result)
  stale h := absurd h hstale

/-- An act with which a session begins or a dispatch ends. -/
private theorem timely_idle {timeout : Duration} {act : Act η}
    (hbefore : ∀ start earlier, before = start :: earlier → ¬start.Awaits) (hidle : act.IsIdle)
    (hasked : act.Awaits ∨ act.asked = [.closeSource] ∨
      act.asked = [] ∧ act.now.add? timeout = none) : act.IsTimely timeout before where
  since _ := hidle
  begins _ := hasked
  ends start earlier he h := absurd h (hbefore start earlier he)
  brought result h := by
    rcases hidle with hi | ⟨_, hi⟩ <;> rw [h] at hi <;> cases hi
  stale h := by
    rcases hidle with hi | ⟨_, hi⟩ <;> rw [h.1] at hi <;> cases hi

/-- An act that brings something to a call that waits. -/
private theorem timely_read {timeout : Duration} {since deadline : Instant}
    {result : Except BrokerError (Option (Delivery × η))} {asked : List (Request η)}
    (hstage : (Stage.reading since deadline : Stage η).HasWaited timeout clock before)
    (hawaits : .read ∉ asked) (hlt : clock < deadline)
    (hasked : ∃ context, asked = [answerTo context result]) :
    (Act.mk clock (.read result) asked).IsTimely timeout before := by
  obtain ⟨⟨start, earlier, hbefore, hstart, rfl⟩, rfl, _⟩ := hstage
  refine ⟨fun h => absurd h hawaits, by simp [Act.IsIdle], fun _ _ _ _ => .inr ⟨_, rfl⟩, ?_, ?_⟩
  · rintro _ ⟨⟩
    exact ⟨start, earlier, hbefore, hstart, hlt, hasked⟩
  · exact fun hstale => nomatch hstale.1

/-- Every turn of a call is timely. -/
theorem Setup.Turns.timely (h : setup.Turns false clock span stage input next asked)
    (hstage : stage.HasWaited setup.options.staleTimeout clock before) :
    (Act.mk clock input asked).IsTimely setup.options.staleTimeout before := by
  cases h with
  | await => exact timely_idle hstage (.inl rfl) (.inl List.mem_cons_self)
  | overflow hn => exact timely_idle hstage (.inl rfl) (.inr (.inr ⟨rfl, hn⟩))
  | goOn job x result => exact timely_idle hstage (.inr ⟨result, rfl⟩) (.inl List.mem_cons_self)
  | goOnOverflow job x result _ hn =>
    exact timely_idle hstage (.inr ⟨result, rfl⟩) (.inr (.inr ⟨rfl, hn⟩))
  | giveUp job x result => exact timely_idle hstage (.inr ⟨result, rfl⟩) (.inr (.inl rfl))
  | stale since deadline _ hle =>
    obtain ⟨⟨start, earlier, hbefore, hstart, rfl⟩, rfl, hclock⟩ := hstage
    have hstale : (Act.mk clock .elapsed [.closeSource] : Act η).IsStale :=
      ⟨rfl, List.mem_cons_self⟩
    refine ⟨by simp [Act.Awaits], by simp [Act.IsIdle], fun _ _ _ _ => .inl hstale, nofun, ?_⟩
    -- the clock has come to the deadline, and it has not passed it
    exact fun _ => ⟨start, earlier, hbefore, hstart, Nat.le_antisymm hclock hle⟩
  | take since deadline d handle _ hlt =>
    exact timely_read hstage (by simp) hlt ⟨_, rfl⟩
  | dry since deadline _ hlt | fault since deadline e _ hlt =>
    exact timely_read hstage (by simp) hlt ⟨.none, rfl⟩
  | dismiss hc | halt _ _ hc | giveBack _ _ hc | retire _ hc _ | interrupt _ hc => cases hc
  | _ => refine timely_apart hstage ?_ ?_ ?_ ?_ <;> simp [Act.IsIdle, Act.Awaits, Act.IsStale]

/-- After a turn a call waits for a delivery exactly if it has asked for one. -/
theorem Setup.Turns.hasWaited (h : setup.Turns closed clock span stage input next asked) :
    next.HasWaited setup.options.staleTimeout clock (⟨clock, input, asked⟩ :: before) := by
  cases h with
  | await deadline hd | goOn _ _ _ deadline _ hd =>
    obtain rfl := Instant.eq_after_of_add? hd
    exact ⟨⟨_, before, rfl, List.mem_cons_self, rfl⟩, rfl, Nat.le_add_right _ _⟩
  | _ =>
    intro start earlier he
    cases he
    simp [Act.Awaits]

/-! ## §3 Runs -/

variable {history : List (Beat η)} {s : Subscriber η} {t : Nat}

/-- In every run in time the acts of a call are timely, and the call has waited as long as they
say. -/
theorem TimedRun.timely (h : TimedRun setup clock history s) (hopen : s.isClosed = false)
    (hat : s.IsAt t stage) :
    (∀ act before, act :: before <:+ acts t history →
      act.IsTimely setup.options.staleTimeout before) ∧
    stage.HasWaited setup.options.staleTimeout clock (acts t history) := by
  refine h.acting (P := fun clock acts stage => (∀ act before, act :: before <:+ acts →
    act.IsTimely setup.options.staleTimeout before) ∧
      stage.HasWaited setup.options.staleTimeout clock acts) hopen hat ?_ ?_ ?_
  · intro clock
    refine ⟨fun act before hsuffix => ?_, fun start before he => ?_⟩
    · cases List.suffix_nil.mp hsuffix
    · cases he
  · intro clock acts stage ⟨hacts, hstage⟩ hdue
    refine ⟨hacts, ?_⟩
    cases stage with
    | reading since deadline => exact ⟨hstage.1, hstage.2.1, hdue deadline rfl⟩
    | _ => exact hstage
  · intro clock acts span stage input next asked ⟨hacts, hstage⟩ hturn
    refine ⟨fun act before hsuffix => ?_, hturn.hasWaited⟩
    rcases List.suffix_cons_iff.mp hsuffix with he | hsuffix
    · cases he
      exact hturn.timely hstage
    · exact hacts act before hsuffix

/-- Every act of a call is timely. -/
theorem TimedRun.isTimely {act : Act η} (h : TimedRun setup clock history s)
    (hopen : s.isClosed = false) (hsuffix : act :: before <:+ acts t history) :
    act.IsTimely setup.options.staleTimeout before := by
  have hne : acts t history ≠ [] := by
    intro hnil
    rw [hnil] at hsuffix
    cases List.suffix_nil.mp hsuffix
  obtain ⟨stage, hat⟩ := h.run.exists_stage hne
  exact (h.timely hopen hat).1 act before hsuffix

/-- A call that awaits a delivery is at the stage of it, and its deadline is not passed. -/
theorem TimedRun.awaiting {start : Act η} (h : TimedRun setup clock history s)
    (hopen : s.isClosed = false) (hacts : acts t history = start :: before)
    (hstart : start.Awaits) :
    s.IsBusyAt t (.reading start.now (start.now.after setup.options.staleTimeout)) ∧
      clock ≤ start.now.after setup.options.staleTimeout := by
  obtain ⟨stage, hat⟩ := h.run.exists_stage (hacts ▸ List.cons_ne_nil _ _)
  have hwaited := (h.timely hopen hat).2
  cases stage with
  | reading since deadline =>
    obtain ⟨⟨start', before', hacts', _, rfl⟩, rfl, hclock⟩ := hwaited
    rw [hacts] at hacts'
    cases hacts'
    exact ⟨⟨h.run.orderly.turn t _ hat rfl, hat⟩, hclock⟩
  | _ => exact absurd hstart (hwaited start before hacts)

/-- Before the deadline of a wait, whatever the source brings can come and is acted on, and the
session cannot be stale. -/
def IsOpenTo (setup : Setup) (now : Instant) (s : Subscriber η) (t : Nat) : Prop :=
  s.step setup now (.input t .elapsed) = none ∧
    ∀ result, ∃ s' events, s.step setup now (.input t (.read result)) = some (s', events) ∧
      ∃ context, requests events = [answerTo context result]

/-- At the deadline of a wait, the session can only end, and no time passes until it has. -/
def IsOverdue (setup : Setup) (now : Instant) (s : Subscriber η) (t : Nat) : Prop :=
  (∀ result, s.step setup now (.input t (.read result)) = none) ∧ ¬s.Rests setup now ∧
    ∃ s' events, s.step setup now (.input t .elapsed) = some (s', events) ∧
      requests events = [.closeSource] ∧ s'.IsAt t (.leaving .restart)

/-- What is said of the waits of a call in time. -/
structure Punctual (setup : Setup) (clock : Instant) (history : List (Beat η)) (s : Subscriber η)
    (t : Nat) : Prop where
  timely : ∀ act before, act :: before <:+ acts t history →
    act.IsTimely setup.options.staleTimeout before
  /-- The deadline of a wait is not passed. -/
  lasts : ∀ start before, acts t history = start :: before → start.Awaits →
    clock ≤ start.now.after setup.options.staleTimeout
  openTo : ∀ start before, acts t history = start :: before → start.Awaits →
    clock < start.now.after setup.options.staleTimeout → s.IsOpenTo setup clock t
  overdue : ∀ start before, acts t history = start :: before → start.Awaits →
    clock = start.now.after setup.options.staleTimeout → s.IsOverdue setup clock t

theorem IsBusyAt.isOpenTo {since deadline : Instant} (hb : s.IsBusyAt t (.reading since deadline))
    (hopen : s.isClosed = false) (hlt : clock < deadline) : s.IsOpenTo setup clock t := by
  refine ⟨?_, fun result => ?_⟩
  · have hnone : setup.listen s.isClosed clock (s.taken + 1) (.reading since deadline)
        (.elapsed : Input η) = none := by
      rw [hopen]
      exact if_neg (by simpa using hlt)
    exact hb.step_eq_none hnone
  · have hl : setup.listen s.isClosed clock (s.taken + 1) (.reading since deadline) (.read result)
        = some (setup.received (s.taken + 1) result) := by
      rw [hopen]
      exact if_pos (decide_eq_true hlt)
    generalize setup.received (s.taken + 1) result = effect at hl
    obtain ⟨next, events⟩ := effect
    refine ⟨_, events, hb.step hl, ?_⟩
    have hturn := turns_of_listen hl
    generalize requests events = asked at hturn
    cases hturn with
    | take => exact ⟨_, rfl⟩
    | dry => exact ⟨.none, rfl⟩
    | fault => exact ⟨.none, rfl⟩

theorem IsBusyAt.isOverdue {since : Instant} (hb : s.IsBusyAt t (.reading since clock))
    (hopen : s.isClosed = false) : s.IsOverdue setup clock t := by
  have hl : setup.listen s.isClosed clock (s.taken + 1) (.reading since clock) (.elapsed : Input η)
      = some (setup.stale clock since) := by
    rw [hopen]
    exact if_pos (decide_eq_true (Nat.le_refl clock))
  have hstep := hb.step hl
  refine ⟨fun result => ?_, fun hrest => ?_, _, _, hstep, rfl, task_set hb.stage⟩
  · have hnone : setup.listen s.isClosed clock (s.taken + 1) (.reading since clock) (.read result)
        = none := by
      rw [hopen]
      exact if_neg (by simp)
    exact hb.step_eq_none hnone
  · rw [hrest (.input t .elapsed) rfl] at hstep
    cases hstep

/-- However a run goes on, as long as the end is not signalled: the next delivery is awaited from
the beginning of a session and from the end of each dispatch on; a wait ends with what the source
brings strictly before its deadline, which is acted on, or with the session at the deadline, and no
session is stale at another time. So no session is stale if each wait is shorter than the time after
which a session is. -/
theorem punctual_of_run (h : TimedRun setup clock history s) (hopen : s.isClosed = false) (t : Nat) :
    Punctual setup clock history s t ∧
    ((∀ act start before, act :: start :: before <:+ acts t history → start.Awaits →
        act.now < start.now.after setup.options.staleTimeout) →
      ∀ act ∈ acts t history, ¬act.IsStale) := by
  have htimely : ∀ act before, act :: before <:+ acts t history →
      act.IsTimely setup.options.staleTimeout before := fun _ _ => h.isTimely hopen
  refine ⟨⟨htimely, fun start before hacts hstart => (h.awaiting hopen hacts hstart).2, ?_, ?_⟩, ?_⟩
  · intro start before hacts hstart hlt
    exact (h.awaiting hopen hacts hstart).1.isOpenTo hopen hlt
  · intro start before hacts hstart hclock
    have hb := (h.awaiting hopen hacts hstart).1
    rw [← hclock] at hb
    exact hb.isOverdue hopen
  · intro hshort act hact hstale
    obtain ⟨later, before, hsplit⟩ := List.append_of_mem hact
    have hsuffix : act :: before <:+ acts t history := ⟨later, hsplit.symm⟩
    obtain ⟨start, earlier, rfl, hstart, hnow⟩ := (htimely act before hsuffix).stale hstale
    exact Nat.lt_irrefl _ (hnow ▸ hshort act start earlier hsuffix hstart)

/-- A call to which an order comes after five seconds, and which works on it until the 400th. -/
def slowOrder : List (Act Nat) :=
  [⟨700000000000, .elapsed, [.closeSource]⟩, ⟨400000000000, .settled (.ok ()), [.read]⟩,
    ⟨400000000000, .handled (.ok ()), [.settle .ack 7 order]⟩,
    ⟨5000000000, .read (.ok (some (order, 7))), [.handle .none order]⟩,
    ⟨0, .opened (.ok ()), [.read]⟩, ⟨0, .turn, [.openSource 10]⟩]

/-- With the standard options the session is stale five minutes after the order was settled, though
the handler alone has worked for longer. -/
theorem stale_after_slow_order :
    ∃ history s, TimedRun (Setup.ofOrders .inPlace) 700000000000 history s ∧ s.isClosed = false ∧
      Punctual (Setup.ofOrders .inPlace) 700000000000 history s 0 ∧ acts 0 history = slowOrder := by
  have hopened : TimedRun (η := Nat) (Setup.ofOrders .inPlace) 0 _ _ :=
    ((TimedRun.new.step .listen rfl).step (.input 0 .turn) rfl).step
      (.input 0 (.opened (.ok ()))) rfl
  -- time passes while the order is awaited, while it is handled, and when it is settled
  have hread : TimedRun (Setup.ofOrders .inPlace) 5000000000 _ _ :=
    (hopened.wait (by decide) fun now _ hlt => rests_of_due
      (show IsBusyAt _ 0 (.reading 0 300000000000) from ⟨rfl, rfl⟩) rfl nofun
      (by rintro _ ⟨⟩; exact Nat.lt_trans hlt (by decide))).step
      (.input 0 (.read (.ok (some (order, 7))))) rfl
  have hsettled : TimedRun (Setup.ofOrders .inPlace) 400000000000 _ _ :=
    ((hread.wait (by decide) fun now _ _ => rests_of_handling
      (show IsBusyAt _ 0 (.handling ⟨order, 7, 0, 1, .none⟩) from ⟨rfl, rfl⟩)).step
      (.input 0 (.handled (.ok ()))) rfl).step (.input 0 (.settled (.ok ()))) rfl
  have hstale : TimedRun (Setup.ofOrders .inPlace) 700000000000 _ _ :=
    (hsettled.wait (by decide) fun now _ hlt => rests_of_due
      (show IsBusyAt _ 0 (.reading 400000000000 700000000000) from ⟨rfl, rfl⟩) rfl nofun
      (by rintro _ ⟨⟩; exact hlt)).step (.input 0 .elapsed) rfl
  exact ⟨_, _, hstale, rfl, (punctual_of_run hstale rfl 0).1, rfl⟩

end Courier.Subscriber
