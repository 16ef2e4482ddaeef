import Courier.Proofs.Subscriber.Run
import Courier.Proofs.Subscriber.Time

/-!
# Shutdown of a listening call

The end is signalled at an instant, wherever the calls that listen are then. From there on no source
is opened and nothing is read, and a call that waits to try a delivery again gives the delivery back
at this instant, closes its source and returns. `HandsBack` is the whole of what such a call does;
how giving back and closing end makes no difference to it.
-/

namespace Courier.Subscriber

universe u

variable {η : Type u}

/-! ## §1 After the signal -/

variable {setup : Setup} {clock now : Instant} {earlier later history : List (Beat η)}
  {signal : Beat η} {s s' : Subscriber η} {t : Nat} {closed : Bool} {span : Nat}
  {stage next : Stage η} {input : Input η} {asked : List (Request η)}

/-- What holds right after a step of a run in time, and is kept while time passes and by each later
step, holds at the end of the run. -/
theorem TimedRun.since {P : Instant → List (Beat η) → Subscriber η → Prop}
    (h : TimedRun setup clock (later ++ signal :: earlier) s)
    (hhere : TimedRun setup signal.now (signal :: earlier) signal.after →
      P signal.now [] signal.after)
    (hpass : ∀ {clock later s}, TimedRun setup clock (later ++ signal :: earlier) s →
      s.Rests setup clock → P clock later s → P (clock + 1) later s)
    (hstep : ∀ {clock later s s' label events},
      TimedRun setup clock (later ++ signal :: earlier) s →
      Move setup clock s label (requests events) s' → P clock later s →
      P clock (⟨clock, label, events, s'⟩ :: later) s') : P clock later s := by
  generalize hhistory : later ++ signal :: earlier = history at h
  induction h generalizing later with
  | new => exact absurd hhistory (List.append_ne_nil_of_right_ne_nil _ (List.cons_ne_nil _ _))
  | pass hrun hrest ih =>
    subst hhistory
    exact hpass hrun hrest (ih rfl)
  | step label hrun hlabel ih =>
    cases later with
    | nil =>
      cases hhistory
      exact hhere (hrun.step label hlabel)
    | cons beat later =>
      obtain ⟨rfl, rfl⟩ := List.cons.inj hhistory
      exact hstep hrun (move_of_step hlabel) (ih rfl)

/-- After the end was signalled a turn opens no source and reads nothing. -/
theorem Setup.Turns.of_closed (h : setup.Turns true now span stage input next asked) :
    (∀ prefetch, .openSource prefetch ∉ asked) ∧ ∀ result, input ≠ .read result := by
  cases h with
  | enter hc | stale _ _ hc | take _ _ _ _ hc | dry _ _ hc | fault _ _ _ hc | reopen _ hc => cases hc
  | _ => exact ⟨by simp, nofun⟩

theorem Move.of_closed {label : Label η} (h : Move setup now s label asked s')
    (hclosed : s.isClosed = true) :
    (∀ prefetch, .openSource prefetch ∉ asked) ∧ ∀ t result, label ≠ .input t (.read result) := by
  cases h with
  | listen | close | depart => exact ⟨fun _ => List.not_mem_nil, nofun⟩
  | turn t input stage next _ _ _ hturn =>
    rw [hclosed] at hturn
    obtain ⟨hopens, hreads⟩ := hturn.of_closed
    refine ⟨hopens, fun u result hlabel => ?_⟩
    cases hlabel
    exact hreads result rfl

/-- A closed subscriber on which at most one call is at work. -/
structure IsLeftTo (s : Subscriber η) (t : Nat) : Prop where
  closed : s.isClosed = true
  quiet : ∀ u stage, s.IsAt u stage → stage.isActive = true → u = t

theorem IsBusyAt.isLeftTo (hb : s.IsBusyAt t stage) (ho : s.Orderly) (hclosed : s.isClosed = true) :
    s.IsLeftTo t :=
  ⟨hclosed, fun u stage hu hactive => Lock.isHeldBy_unique hb.turn (ho.turn u stage hu hactive)⟩

/-- The other calls come to nothing. -/
theorem IsLeftTo.move {label : Label η} (hs : s.IsLeftTo t) (h : Move setup now s label asked s') :
    s'.IsLeftTo t ∧ ((∀ input, label ≠ .input t input) → asked = []) := by
  -- the turn of another call is its first one, and it returns at once
  have hother : ∀ {u stage input next asked}, u ≠ t → s.IsAt u stage →
      setup.Turns s.isClosed now (s.taken + 1) stage input next asked →
      next = .returned ∧ asked = [] := by
    intro u stage input next asked hne hat hturn
    rcases hturn.isActive_or_queued with hactive | rfl
    · exact absurd (hs.quiet u stage hat hactive) hne
    · rw [hs.closed] at hturn
      exact ⟨hturn.of_queued.1, hturn.of_queued.2.1⟩
  refine ⟨⟨h.isClosed hs.closed, fun u next hnext hactive => ?_⟩, fun hne => ?_⟩
  · refine Classical.byContradiction fun hu => ?_
    rcases h.came hnext with hold | rfl | ⟨_, stage, _, hat, hturn⟩
    · exact hu (hs.quiet u next hold hactive)
    · cases hactive
    · rw [(hother hu hat hturn).1] at hactive
      cases hactive
  · cases h with
    | listen | close | depart => rfl
    | turn u input stage next _ _ hat hturn =>
      have hu : u ≠ t := by
        rintro rfl
        exact hne input rfl
      exact (hother hu hat hturn).2

/-! ## §2 Giving back -/

/-- What comes to a call, and what it asks for, after the end was signalled at an instant while it
waited to try a delivery again; the last act first. The stage is the one that the call comes to. -/
inductive HandsBack (signalled : Instant) (job : Job η) (wake : Instant) :
    List (Act η) → Stage η → Prop where
  | waits : HandsBack signalled job wake [] (.waiting job wake)
  | requeues : HandsBack signalled job wake
      [⟨signalled, .stop, [.settle .requeue job.handle job.delivery]⟩] (.settling job .requeue)
  | closes (u : Instant) (requeued : Except BrokerError Unit) : HandsBack signalled job wake
      [⟨u, .settled requeued, [.closeSource]⟩,
        ⟨signalled, .stop, [.settle .requeue job.handle job.delivery]⟩] (.leaving .shutdown)
  | returns (u v : Instant) (requeued released : Except BrokerError Unit) :
      HandsBack signalled job wake
        [⟨v, .closed released, []⟩, ⟨u, .settled requeued, [.closeSource]⟩,
          ⟨signalled, .stop, [.settle .requeue job.handle job.delivery]⟩] .returned

variable {signalled wake : Instant} {job : Job η} {before : List (Act η)}

theorem HandsBack.turn (h : HandsBack signalled job wake before stage)
    (hfirst : before = [] → now = signalled) (hlt : signalled < wake)
    (hturn : setup.Turns true now span stage input next asked) :
    HandsBack signalled job wake (⟨now, input, asked⟩ :: before) next := by
  cases h with
  | waits =>
    obtain rfl := hfirst rfl
    cases hturn with
    | again _ _ _ hle | copy _ _ _ hle => exact absurd hle (Nat.not_le_of_lt hlt)
    | giveBack => exact .requeues
  | requeues =>
    cases hturn with
    | goOn _ _ _ _ he | goOnOverflow _ _ _ he => cases he
    | giveUp _ _ result _ he =>
      cases he
      exact .closes now result
  | closes u requeued =>
    cases hturn with
    | finish result => exact .returns u now requeued result
  | returns => cases hturn

/-- What holds of a call, and of the others, from the instant on at which the end was signalled while
it waited to try a delivery again. -/
structure GivesBack (signal : Beat η) (t : Nat) (job : Job η) (wake clock : Instant)
    (later : List (Beat η)) (s : Subscriber η) : Prop where
  left : s.IsLeftTo t
  back : ∃ stage, s.IsAt t stage ∧ HandsBack signal.now job wake (acts t later) stage
  /-- No time passes before the delivery is given back. -/
  prompt : acts t later = [] → clock = signal.now
  /-- Nothing is asked for but by the call itself. -/
  alone : ∀ beat ∈ later, (∀ input, beat.label ≠ .input t input) → requests beat.events = []

theorem GivesBack.pass (h : GivesBack signal t job wake clock later s)
    (hrun : TimedRun setup clock history s) (hrest : s.Rests setup clock) :
    GivesBack signal t job wake (clock + 1) later s := by
  refine ⟨h.left, h.back, fun hnil => ?_, h.alone⟩
  -- the call does not rest as long as it waits
  obtain ⟨stage, hstage, hback⟩ := h.back
  rw [hnil] at hback
  cases hback
  have hturn := hrun.run.orderly.turn t _ hstage rfl
  exact absurd hrest (not_rests_of_waiting ⟨hturn, hstage⟩ h.left.closed)

theorem GivesBack.move {label : Label η} {events : List (Event η)}
    (h : GivesBack signal t job wake clock later s) (hlt : signal.now < wake)
    (hm : Move setup clock s label (requests events) s') :
    GivesBack signal t job wake clock (⟨clock, label, events, s'⟩ :: later) s' := by
  obtain ⟨hleft, hasked⟩ := h.left.move hm
  obtain ⟨stage, hstage, hback⟩ := h.back
  have halone : ∀ beat ∈ (⟨clock, label, events, s'⟩ : Beat η) :: later,
      (∀ input, beat.label ≠ .input t input) → requests beat.events = [] := by
    intro beat hbeat
    rcases List.mem_cons.mp hbeat with rfl | hbeat
    · exact hasked
    · exact h.alone beat hbeat
  by_cases hlabel : ∃ input, label = .input t input
  · obtain ⟨input, rfl⟩ := hlabel
    obtain ⟨stage', next, hstage', hnext, hturn⟩ := hm.of_input
    obtain rfl := hstage.unique hstage'
    rw [h.left.closed] at hturn
    have hback' := hback.turn h.prompt hlt hturn
    rw [← acts_input t clock input events s' later] at hback'
    refine ⟨hleft, ⟨next, hnext, hback'⟩, fun hnil => ?_, halone⟩
    rw [acts_input] at hnil
    cases hnil
  · have hacts : acts t (⟨clock, label, events, s'⟩ :: later) = acts t later :=
      acts_of_ne fun input hinput => hlabel ⟨input, hinput⟩
    have hstays := hm.stays (fun input hinput => hlabel ⟨input, hinput⟩) hstage
    rw [← hacts] at hback
    exact ⟨hleft, ⟨stage, hstays, hback⟩, fun hnil => h.prompt (hacts.symm.trans hnil), halone⟩

/-- The end is signalled while a call still has to wait to try a delivery again. -/
theorem TimedRun.givesBack (h : TimedRun setup clock (later ++ signal :: earlier) s)
    (hsignal : signal.label = .close) (hat : signal.after.IsAt t (.waiting job wake))
    (hlt : signal.now < wake) : GivesBack signal t job wake clock later s := by
  refine h.since (P := GivesBack signal t job wake) (fun hrun => ?_)
    (fun hrun hrest hback => hback.pass hrun hrest) (fun _ hm hback => hback.move hlt hm)
  have hclosed := hrun.run.isClosed_of_close List.mem_cons_self hsignal
  have hturn := hrun.run.orderly.turn t _ hat rfl
  have hleft := IsBusyAt.isLeftTo ⟨hturn, hat⟩ hrun.run.orderly hclosed
  exact ⟨hleft, ⟨_, hat, .waits⟩, fun _ => rfl, fun _ hbeat => absurd hbeat List.not_mem_nil⟩

/-! ## §3 The return -/

/-- Whether a run can go on at once until a call returns, with nothing more coming to it than the
signal and the ends of giving back and of closing. -/
def CanReturn (setup : Setup) (clock : Instant) (history : List (Beat η)) (t : Nat)
    (requeued released : Except BrokerError Unit) : Prop :=
  ∃ rest s, TimedRun setup clock (rest ++ history) s ∧ s.IsAt t .returned ∧
    ∀ beat ∈ rest, beat.label = .input t .stop ∨ beat.label = .input t (.settled requeued) ∨
      beat.label = .input t (.closed released)

variable {requeued released : Except BrokerError Unit}

theorem CanReturn.of_cons {beat : Beat η}
    (h : CanReturn setup clock (beat :: history) t requeued released)
    (hbeat : beat.label = .input t .stop ∨ beat.label = .input t (.settled requeued) ∨
      beat.label = .input t (.closed released)) :
    CanReturn setup clock history t requeued released := by
  obtain ⟨rest, s, hrun, hreturned, hrest⟩ := h
  rw [List.append_cons] at hrun
  refine ⟨rest ++ [beat], s, hrun, hreturned, fun other hother => ?_⟩
  rcases List.mem_append.mp hother with hother | hother
  · exact hrest other hother
  · rw [List.mem_singleton.mp hother]
    exact hbeat

theorem rests_of_leaving {ending : Ending} (hb : s.IsBusyAt t (.leaving ending)) :
    s.Rests setup now := by
  refine hb.rests fun input hown => ?_
  cases input with
  | turn | stop | elapsed => rfl
  | _ => cases hown

theorem TimedRun.canReturn_of_leaving (h : TimedRun setup clock history s)
    (hb : s.IsBusyAt t (.leaving .shutdown)) :
    CanReturn setup clock history t requeued released := by
  obtain ⟨events, hl⟩ : ∃ events, setup.listen s.isClosed clock (s.taken + 1) (.leaving .shutdown)
      (.closed released) = some (.returned, events) := ⟨_, rfl⟩
  refine ⟨[_], _, h.step _ (hb.step hl), task_set hb.stage, fun beat hbeat => ?_⟩
  rw [List.mem_singleton.mp hbeat]
  exact .inr (.inr rfl)

theorem TimedRun.canReturn_of_settling (h : TimedRun setup clock history s)
    (hb : s.IsBusyAt t (.settling job .requeue)) :
    CanReturn setup clock history t requeued released := by
  obtain ⟨events, hl⟩ : ∃ events, setup.listen s.isClosed clock (s.taken + 1)
      (.settling job .requeue) (.settled requeued) = some (.leaving .shutdown, events) := ⟨_, rfl⟩
  obtain ⟨_, hrun, hb', _⟩ := h.goTo hb hl rfl
  exact (hrun.canReturn_of_leaving hb').of_cons (.inr (.inl rfl))

theorem TimedRun.canReturn_of_waiting (h : TimedRun setup clock history s)
    (hb : s.IsBusyAt t (.waiting job wake)) (hclosed : s.isClosed = true) :
    CanReturn setup clock history t requeued released := by
  have hl : setup.listen s.isClosed clock (s.taken + 1) (.waiting job wake) .stop
      = some (settle job .requeue) := by
    rw [hclosed]
    rfl
  obtain ⟨_, hrun, hb', _⟩ := h.goTo hb hl rfl
  exact (hrun.canReturn_of_settling hb').of_cons (.inl rfl)

/-- A call that gives a delivery back can return at once, however giving back and closing end. -/
theorem TimedRun.canReturn (h : TimedRun setup clock history s)
    (hback : GivesBack signal t job wake clock later s) :
    CanReturn setup clock history t requeued released := by
  obtain ⟨stage, hat, hstage⟩ := hback.back
  have hb : stage.isActive = true → s.IsBusyAt t stage :=
    fun hactive => ⟨h.run.orderly.turn t stage hat hactive, hat⟩
  generalize acts t later = before at hstage
  cases hstage with
  | waits => exact h.canReturn_of_waiting (hb rfl) hback.left.closed
  | requeues => exact h.canReturn_of_settling (hb rfl)
  | closes => exact h.canReturn_of_leaving (hb rfl)
  | returns => exact ⟨[], s, h, hat, fun _ hbeat => absurd hbeat List.not_mem_nil⟩

/-- After the end was signalled no source is opened and nothing is read, whatever comes to the calls
and whatever is ready to be read. If a call waits at this instant to try a delivery again, and still
has to wait, it gives the delivery back before any time passes, closes its source and returns:
nothing else is asked for by any call, and from wherever it has come to it can return at once, however
giving back and closing end. -/
theorem shutdown_of_run (h : TimedRun setup clock (later ++ signal :: earlier) s)
    (hsignal : signal.label = .close) :
    (∀ beat ∈ later, (∀ prefetch, .asked (.openSource prefetch) ∉ beat.events) ∧
      ∀ t result, beat.label ≠ .input t (.read result)) ∧
    ∀ t job wake, signal.after.IsAt t (.waiting job wake) → signal.now < wake →
      GivesBack signal t job wake clock later s ∧
      ∀ requeued released,
        CanReturn setup clock (later ++ signal :: earlier) t requeued released := by
  refine ⟨?_, fun t job wake hat hlt => ?_⟩
  · refine h.since
      (P := fun _ later _ => ∀ beat ∈ later,
        (∀ prefetch, Event.asked (.openSource prefetch) ∉ beat.events) ∧
          ∀ t result, beat.label ≠ .input t (.read result))
      (fun _ => ?_) (fun _ _ hlater => hlater) (fun hrun hm hlater => ?_)
    · exact fun _ hbeat => absurd hbeat List.not_mem_nil
    · have hclosed := hrun.run.isClosed_of_close
        (List.mem_append_right _ List.mem_cons_self) hsignal
      obtain ⟨hopens, hreads⟩ := hm.of_closed hclosed
      intro beat hbeat
      rcases List.mem_cons.mp hbeat with rfl | hbeat
      · exact ⟨fun prefetch hopen => hopens prefetch (mem_requests hopen), hreads⟩
      · exact hlater beat hbeat
  · have hback := h.givesBack hsignal hat hlt
    exact ⟨hback, fun _ _ => h.canReturn hback⟩

/-- A subscriber to orders that tries again after an hour, as often as it takes. -/
def Setup.unhurried : Setup :=
  { Setup.ofOrders .inPlace with
    options :=
      { Options.standard with
        limit := .unlimited
        backoff := fun _ => ⟨Duration.ofSeconds 3600, false⟩ } }

/-- The signal is given a minute after a try has failed. The delivery is given back then, an hour
before its next try, and the call returns though both giving back and closing fail. -/
theorem shutdown_of_unhurried :
    ∃ later signal earlier s, TimedRun (η := Nat) Setup.unhurried 61000000000
        (later ++ signal :: earlier) s ∧
      signal.label = .close ∧ signal.now = 60000000000 ∧
      signal.after.IsAt 0 (.waiting ⟨order, 7, 1, 1, .none⟩ 3600000000000) ∧ s.IsAt 0 .returned ∧
      GivesBack signal 0 ⟨order, 7, 1, 1, .none⟩ 3600000000000 61000000000 later s ∧
      acts 0 later =
        [⟨61000000000, .closed (.error (.channel "gone")), []⟩,
          ⟨60000000000, .settled (.error .requeuing), [.closeSource]⟩,
          ⟨60000000000, .stop, [.settle .requeue 7 order]⟩] := by
  have hfailed : TimedRun (η := Nat) Setup.unhurried 0 _ _ :=
    ((((TimedRun.new.step .listen rfl).step (.input 0 .turn) rfl).step
      (.input 0 (.opened (.ok ()))) rfl).step (.input 0 (.read (.ok (some (order, 7))))) rfl).step
      (.input 0 (.handled (.error (.retry (.text "busy"))))) rfl
  have hclosed : TimedRun Setup.unhurried 60000000000 _ _ :=
    (hfailed.wait (by decide) fun now _ hlt => rests_of_waiting
      (show IsBusyAt _ 0 (.waiting ⟨order, 7, 1, 1, .none⟩ 3600000000000) from ⟨rfl, rfl⟩) rfl
      (Nat.lt_trans hlt (by decide))).step .close rfl
  have hback : TimedRun Setup.unhurried 60000000000 _ _ :=
    (hclosed.step (.input 0 .stop) rfl).step (.input 0 (.settled (.error .requeuing))) rfl
  -- the source takes a second to close
  have hreturned : TimedRun Setup.unhurried 61000000000 ([_, _, _] ++ _ :: _) _ :=
    (hback.wait (by decide) fun now _ _ => rests_of_leaving
      (show IsBusyAt _ 0 (.leaving .shutdown) from ⟨rfl, rfl⟩)).step
      (.input 0 (.closed (.error (.channel "gone")))) rfl
  exact ⟨_, _, _, _, hreturned, rfl, rfl, rfl, rfl,
    ((shutdown_of_run hreturned rfl).2 0 _ _ rfl (by decide)).1, rfl⟩

end Courier.Subscriber
