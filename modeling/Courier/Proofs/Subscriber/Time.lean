import Courier.Proofs.Subscriber.System
import Courier.Simulation.World

/-!
# Listening in time

A `TimedRun` says when time passes: while every call waits for something that is still to come. So a
call that waits for an instant goes on when that instant has come, and neither earlier nor later
(`TimedRun.lt_due`). The clock counts nanoseconds, and timers are exact. A timer that counts whole
milliseconds, as that of the simulated broker does, rings in the first one that is not before the
instant: less than a millisecond later, and not later at all if the instant is a whole millisecond
(`listen_elapsed_in_millis`). What comes to one call, with the instants and with what the call asks
for in answer, is the list of its `acts`; `TimedRun.acting` derives what is said about them from the
passing of time and the turns of the call.
-/

namespace Courier.Subscriber

universe u

variable {η : Type u}

/-! ## §1 Time -/

/-- Whether an input comes of itself: from other calls and from the clock, not from a source or the
handler. -/
def Input.isOwn : Input η → Bool
  | .turn | .stop | .elapsed => true
  | _ => false

/-- Whether a label stands for a step that calls take of themselves. -/
def Label.isOwn : Label η → Bool
  | .input _ i => i.isOwn
  | .turn _ => true
  | .listen | .close => false

/-- At an instant no call can go on by itself. -/
def Rests (setup : Setup) (now : Instant) (s : Subscriber η) : Prop :=
  ∀ label : Label η, label.isOwn = true → s.step setup now label = none

/-- The runs of a new subscriber with a clock. Sources, the handler and the callers take any time,
but time passes only while no call can go on by itself. -/
inductive TimedRun (setup : Setup) : Instant → List (Beat η) → Subscriber η → Prop where
  | new : TimedRun setup 0 [] .new
  | pass {clock : Instant} {history : List (Beat η)} {s : Subscriber η} :
      TimedRun setup clock history s → s.Rests setup clock → TimedRun setup (clock + 1) history s
  | step {clock : Instant} {history : List (Beat η)} {s s' : Subscriber η} {events : List (Event η)}
      (label : Label η) : TimedRun setup clock history s →
      s.step setup clock label = some (s', events) →
      TimedRun setup clock (⟨clock, label, events, s'⟩ :: history) s'

variable {setup : Setup} {clock now : Instant} {history : List (Beat η)} {s s' : Subscriber η}

theorem TimedRun.run (h : TimedRun setup clock history s) : Run setup .new history s := by
  induction h with
  | new => exact .refl
  | pass _ _ ih => exact ih
  | step label _ hstep ih => exact .step _ label ih hstep

theorem TimedRun.le_clock (h : TimedRun setup clock history s) :
    ∀ beat ∈ history, beat.now ≤ clock := by
  induction h with
  | new => exact nofun
  | pass _ _ ih => exact fun beat hbeat => Nat.le_succ_of_le (ih beat hbeat)
  | step label _ _ ih =>
    intro beat hbeat
    rcases List.mem_cons.mp hbeat with rfl | hbeat
    · exact Nat.le_refl _
    · exact ih beat hbeat

/-- Time passes up to an instant if no call can go on by itself before it. -/
theorem TimedRun.wait (h : TimedRun setup clock history s) (hle : clock ≤ now)
    (hrest : ∀ t, clock ≤ t → t < now → s.Rests setup t) : TimedRun setup now history s := by
  induction hle with
  | refl => exact h
  | @step now hle ih =>
    exact .pass (ih fun t ht hlt => hrest t ht (Nat.lt_succ_of_lt hlt))
      (hrest now hle (Nat.lt_succ_self now))

/-- What was signalled by a closing call stays so. -/
theorem Run.isClosed_of_close {beat : Beat η} (h : Run setup .new history s)
    (hbeat : beat ∈ history) (hlabel : beat.label = .close) : s.isClosed = true := by
  induction h with
  | refl => cases hbeat
  | step now label _ hstep ih =>
    rcases List.mem_cons.mp hbeat with rfl | hbeat
    · cases hlabel
      cases hstep
      rfl
    · exact (move_of_step hstep).isClosed (ih hbeat)

/-! ## §2 A call at work -/

/-- A call has the turn and is at a stage. -/
structure IsBusyAt (s : Subscriber η) (t : Nat) (stage : Stage η) : Prop where
  turn : s.lock.isHeldBy t = true
  stage : s.IsAt t stage

variable {t : Nat} {stage next : Stage η} {input : Input η} {events : List (Event η)}

theorem IsBusyAt.step (hb : s.IsBusyAt t stage)
    (hl : setup.listen s.isClosed now (s.taken + 1) stage input = some (next, events)) :
    s.step setup now (.input t input) = some (s.advance t input next, events) := by
  have hstage : s.tasks[t]? = some (.listening stage) := hb.stage
  simp only [Subscriber.step, hb.turn, hstage, hl, if_true, Option.map_some]

theorem IsBusyAt.step_eq_none (hb : s.IsBusyAt t stage)
    (hl : setup.listen s.isClosed now (s.taken + 1) stage input = none) :
    s.step setup now (.input t input) = none := by
  have hstage : s.tasks[t]? = some (.listening stage) := hb.stage
  simp only [Subscriber.step, hb.turn, hstage, hl, if_true, Option.map_none]

/-- No call goes on by itself if the one that has the turn does not. -/
theorem IsBusyAt.rests (hb : s.IsBusyAt t stage)
    (h : ∀ input : Input η, input.isOwn = true →
      setup.listen s.isClosed now (s.taken + 1) stage input = none) : s.Rests setup now := by
  intro label hown
  cases label with
  | listen | close => cases hown
  | input u input =>
    by_cases hu : s.lock.isHeldBy u = true
    · obtain rfl := Lock.isHeldBy_unique hb.turn hu
      exact hb.step_eq_none (h input hown)
    · simp only [Subscriber.step, hu, if_false, Bool.false_eq_true]
  | turn u =>
    by_cases hu : s.lock.isHeldBy u = true
    · obtain rfl := Lock.isHeldBy_unique hb.turn hu
      have hstage : s.tasks[u]? = some (.listening stage) := hb.stage
      simp only [Subscriber.step, hu, hstage, if_true]
    · simp only [Subscriber.step, hu, if_false, Bool.false_eq_true]

theorem rests_of_handling {job : Job η} (hb : s.IsBusyAt t (.handling job)) :
    s.Rests setup now := by
  refine hb.rests fun input hown => ?_
  cases input with
  | turn | stop | elapsed => rfl
  | _ => cases hown

/-- A call that waits to try again goes on at once when the end is signalled. -/
theorem not_rests_of_waiting {job : Job η} {wake : Instant}
    (hb : s.IsBusyAt t (.waiting job wake)) (hclosed : s.isClosed = true) :
    ¬s.Rests setup now := by
  intro hrest
  have hl : setup.listen s.isClosed now (s.taken + 1) (.waiting job wake) .stop
      = some (settle job .requeue) := by
    rw [hclosed]
    rfl
  have hnone := hrest (.input t .stop) rfl
  rw [hb.step hl] at hnone
  cases hnone

theorem IsBusyAt.enqueue (hb : s.IsBusyAt t stage) (task : Task η) (closed : Bool) :
    IsBusyAt { s.enqueue task with isClosed := closed } t stage :=
  ⟨Lock.isHeldBy_request hb.turn _, task_enqueue hb.stage⟩

/-- A call that has the turn and is not over after a step keeps the turn. -/
theorem IsBusyAt.advance (hb : s.IsBusyAt t stage) (hnext : next.isOver = false) :
    (s.advance t input next).IsBusyAt t next := by
  refine ⟨?_, task_set hb.stage⟩
  show (if next.isOver then s.lock.release else s.lock).isHeldBy t = true
  rw [hnext]
  exact hb.turn

theorem TimedRun.goTo (h : TimedRun setup clock history s) (hb : s.IsBusyAt t stage)
    (hl : setup.listen s.isClosed clock (s.taken + 1) stage input = some (next, events))
    (hnext : next.isOver = false) :
    ∃ s', TimedRun setup clock (⟨clock, .input t input, events, s'⟩ :: history) s' ∧
      s'.IsBusyAt t next ∧ s'.isClosed = s.isClosed :=
  ⟨s.advance t input next, h.step _ (hb.step hl), hb.advance hnext, rfl⟩

/-- Where a decision about a delivery brings a call. -/
def Decision.target (job : Job η) (now : Instant) : Decision → Stage η
  | .settle x => .settling job x
  | .retry wait => .waiting job (now.after wait)

/-- What is asked for after a decision about a delivery. -/
def Decision.request (job : Job η) : Decision → Request η
  | .settle x => .settle x job.handle job.delivery
  | .retry wait => .sleep wait

/-- A call to which the handler has answered goes on as is decided. -/
theorem listen_handled (closed : Bool) (now : Instant) (span : Nat) {job : Job η}
    {result : Except HandlerError Unit} {decision : Decision}
    (hd : setup.options.decision job.tried.made result = decision) :
    ∃ events, setup.listen closed now span (.handling job) (.handled result)
        = some (decision.target job.tried now, events) ∧
      requests events = [decision.request job.tried] := by
  obtain ⟨next, events, hl⟩ : ∃ next events, setup.listen closed now span (.handling job)
      (.handled result) = some (next, events) := ⟨_, _, rfl⟩
  have hturn := turns_of_listen hl
  generalize hasked : requests events = asked at hturn
  cases hturn with
  | decide _ _ _ hd' | defer _ _ _ hd' =>
    rw [hd] at hd'
    rw [hd']
    exact ⟨events, hl, hasked⟩

/-- A call that has waited long enough hands the same delivery to the handler again. -/
theorem listen_again (closed : Bool) (span : Nat) (job : Job η) (wake : Instant)
    (hplace : setup.redelivery = .inPlace) :
    setup.listen closed wake span (.waiting job wake) .elapsed
      = some (.handling job, [.asked (.handle job.context job.delivery)]) := by
  have hretry : setup.retry job
      = (.handling job, [.asked (.handle job.context job.delivery)]) := by
    simp only [Setup.retry, hplace]
  rw [← hretry]
  exact if_pos (Nat.le_refl wake)

/-! ## §3 What is due -/

/-- The instant that a call waits for. -/
def Stage.due? : Stage η → Option Instant
  | .reading _ due | .waiting _ due | .pausing due => some due
  | _ => none

theorem Stage.isActive_of_due {due : Instant} (h : stage.due? = some due) :
    stage.isActive = true := by
  cases stage with
  | reading | waiting | pausing => rfl
  | _ => cases h

/-- A call goes on when the instant that it waits for has come. -/
theorem listen_elapsed {due : Instant} (span : Nat) (h : stage.due? = some due) (hle : due ≤ now) :
    ∃ next events, setup.listen false now span stage .elapsed = some (next, events) := by
  cases stage with
  | reading since deadline =>
    cases h
    exact ⟨_, _, if_pos (decide_eq_true hle)⟩
  | waiting job wake | pausing wake =>
    cases h
    exact ⟨_, _, if_pos hle⟩
  | _ => cases h

/-- A call that waits for an instant can go on in the milliseconds from the one on in which the
simulated timer rings, and in none before. This is the first one that is not before the instant, and
the instant itself if it is a whole millisecond. -/
theorem listen_elapsed_in_millis {due : Instant} (span : Nat) (h : stage.due? = some due) :
    (∀ millis, setup.listen false (millis * Duration.nanosPerMilli) span stage .elapsed ≠ none ↔
      Simulation.World.millisAt due ≤ millis) ∧
    due ≤ Simulation.World.millisAt due * Duration.nanosPerMilli ∧
    Simulation.World.millisAt due * Duration.nanosPerMilli < due + Duration.nanosPerMilli ∧
    (Duration.nanosPerMilli ∣ due →
      Simulation.World.millisAt due * Duration.nanosPerMilli = due) := by
  have hfirst : ∀ i : Nat, (∀ millis, i ≤ millis * 1000000 ↔ (i + 999999) / 1000000 ≤ millis) ∧
      i ≤ (i + 999999) / 1000000 * 1000000 ∧ (i + 999999) / 1000000 * 1000000 < i + 1000000 ∧
      (1000000 ∣ i → (i + 999999) / 1000000 * 1000000 = i) := by
    intro i
    exact ⟨fun millis => by omega, by omega, by omega, by omega⟩
  obtain ⟨hcome, hrest⟩ := hfirst due
  refine ⟨fun millis => (Iff.trans ?_ (hcome millis)), hrest⟩
  cases stage with
  | reading since deadline =>
    cases h
    simp [Setup.listen]
  | waiting job wake | pausing wake =>
    cases h
    simp [Setup.listen]
  | _ => cases h

/-- While time passes, what a call waits for is still to come. -/
theorem TimedRun.lt_due {due : Instant} (h : TimedRun setup clock history s)
    (hopen : s.isClosed = false) (hrest : s.Rests setup clock) (hat : s.IsAt t stage)
    (hdue : stage.due? = some due) : clock < due := by
  have hturn := h.run.orderly.turn t stage hat (Stage.isActive_of_due hdue)
  rcases Nat.lt_or_ge clock due with hlt | hle
  · exact hlt
  · obtain ⟨next, events, hl⟩ : ∃ next events, setup.listen false clock (s.taken + 1) stage .elapsed
        = some (next, events) := listen_elapsed _ hdue hle
    rw [← hopen] at hl
    have hnone := hrest (.input t .elapsed) rfl
    rw [IsBusyAt.step ⟨hturn, hat⟩ hl] at hnone
    cases hnone

/-- No call goes on by itself before the instant that the one with the turn waits for. -/
theorem rests_of_due (hb : s.IsBusyAt t stage) (hopen : s.isClosed = false)
    (hqueued : stage ≠ .queued) (hlt : ∀ due, stage.due? = some due → now < due) :
    s.Rests setup now := by
  refine hb.rests fun input hown => ?_
  rw [hopen]
  cases input with
  | turn =>
    cases stage with
    | queued => exact absurd rfl hqueued
    | _ => rfl
  | stop => cases stage <;> rfl
  | elapsed =>
    cases stage with
    | reading since deadline => exact if_neg (by simpa using hlt deadline rfl)
    | waiting job wake | pausing wake => exact if_neg (Nat.not_le_of_lt (hlt wake rfl))
    | _ => rfl
  | _ => cases hown

theorem rests_of_waiting {job : Job η} {wake : Instant} (hb : s.IsBusyAt t (.waiting job wake))
    (hopen : s.isClosed = false) (hlt : now < wake) : s.Rests setup now := by
  refine rests_of_due hb hopen nofun fun due hdue => ?_
  cases hdue
  exact hlt

/-! ## §4 The acts of a call -/

/-- What comes to a call at an instant, and what the call asks for in answer. -/
structure Act (η : Type u) where
  now : Instant
  input : Input η
  asked : List (Request η)
deriving DecidableEq, Repr

/-- What a step is to a call. -/
def Beat.act? (t : Nat) (beat : Beat η) : Option (Act η) :=
  match beat.label with
  | .input u input => if u = t then some ⟨beat.now, input, requests beat.events⟩ else none
  | .listen | .close | .turn _ => none

/-- What has come to a call, the last act first. -/
def acts (t : Nat) (history : List (Beat η)) : List (Act η) :=
  history.filterMap (Beat.act? t)

theorem acts_input (t : Nat) (now : Instant) (input : Input η) (events : List (Event η))
    (s : Subscriber η) (history : List (Beat η)) :
    acts t (⟨now, .input t input, events, s⟩ :: history)
      = ⟨now, input, requests events⟩ :: acts t history :=
  List.filterMap_cons_some (if_pos rfl)

theorem acts_of_ne {beat : Beat η} (h : ∀ input, beat.label ≠ .input t input) :
    acts t (beat :: history) = acts t history := by
  refine List.filterMap_cons_none ?_
  unfold Beat.act?
  split
  · rename_i u input hlabel
    refine if_neg ?_
    rintro rfl
    exact h input hlabel
  all_goals rfl

/-- What comes to a call is a turn of it. -/
theorem Move.of_input {asked : List (Request η)} (h : Move setup now s (.input t input) asked s') :
    ∃ stage next, s.IsAt t stage ∧ s'.IsAt t next ∧
      setup.Turns s.isClosed now (s.taken + 1) stage input next asked := by
  cases h with
  | turn _ _ stage next _ _ hstage hturn => exact ⟨stage, next, hstage, task_set hstage, hturn⟩

/-- A call stays where it is when nothing comes to it. -/
theorem Move.stays {label : Label η} {asked : List (Request η)}
    (h : Move setup now s label asked s') (hne : ∀ input, label ≠ .input t input)
    (hat : s.IsAt t stage) : s'.IsAt t stage := by
  cases h with
  | listen | close => exact task_enqueue hat
  | turn u input _ _ _ _ _ _ =>
    refine task_set_of_ne ?_ hat
    rintro rfl
    exact hne input rfl
  | depart u _ hclosing =>
    refine task_set_of_ne ?_ hat
    rintro rfl
    rw [IsAt, hclosing] at hat
    cases hat

/-- A call that has come to its turn does not wait for it again. -/
theorem Setup.Turns.ne_queued {closed : Bool} {span : Nat} {asked : List (Request η)}
    (h : setup.Turns closed now span stage input next asked) : next ≠ .queued := by
  cases h <;> nofun

theorem IsAt.unique (h : s.IsAt t stage) (h' : s.IsAt t next) : stage = next := by
  rw [IsAt, h] at h'
  cases h'
  rfl

/-- Nothing has come to a call that waits for its turn, or was not made yet. -/
theorem Run.acts_eq_nil (h : Run setup .new history s)
    (hfresh : ∀ stage, s.IsAt t stage → stage = .queued) : acts t history = [] := by
  induction h with
  | refl => rfl
  | step now label hrun hstep ih =>
    have hm := move_of_step hstep
    by_cases hl : ∃ input, label = .input t input
    · obtain ⟨input, rfl⟩ := hl
      obtain ⟨stage, next, _, hnext, hturn⟩ := hm.of_input
      exact absurd (hfresh next hnext) hturn.ne_queued
    · have hne : ∀ input, label ≠ .input t input := fun input hinput => hl ⟨input, hinput⟩
      rw [acts_of_ne hne]
      exact ih fun stage hat => hfresh stage (hm.stays hne hat)

/-- A call to which something has come is at a stage. -/
theorem Run.exists_stage (h : Run setup .new history s) (hacts : acts t history ≠ []) :
    ∃ stage, s.IsAt t stage := by
  refine Classical.byContradiction fun hnone => hacts (h.acts_eq_nil fun stage hat => ?_)
  exact absurd ⟨stage, hat⟩ hnone

/-- What holds of a call when it is made, and is kept while time passes and by each of its turns,
holds of it in every run in time until the end is signalled. -/
theorem TimedRun.acting {P : Instant → List (Act η) → Stage η → Prop}
    (h : TimedRun setup clock history s) (hopen : s.isClosed = false) (hat : s.IsAt t stage)
    (hfirst : ∀ clock, P clock [] .queued)
    (hpass : ∀ {clock acts stage}, P clock acts stage →
      (∀ due, stage.due? = some due → clock < due) → P (clock + 1) acts stage)
    (hturn : ∀ {clock acts span stage input next asked}, P clock acts stage →
      setup.Turns false clock span stage input next asked →
      P clock (⟨clock, input, asked⟩ :: acts) next) :
    P clock (acts t history) stage := by
  induction h generalizing stage with
  | new => contradiction
  | pass hrun hrest ih =>
    exact hpass (ih hopen hat) fun due hdue => hrun.lt_due hopen hrest hat hdue
  | @step clock _ s s' _ label hrun hstep ih =>
    have hm := move_of_step hstep
    have hbefore : s.isClosed = false := by
      cases hc : s.isClosed with
      | false => rfl
      | true =>
        rw [hm.isClosed hc] at hopen
        cases hopen
    by_cases hl : ∃ input, label = .input t input
    · obtain ⟨input, rfl⟩ := hl
      obtain ⟨stage', next, hstage, hnext, hturns⟩ := hm.of_input
      obtain rfl := hat.unique hnext
      rw [hbefore] at hturns
      rw [acts_input]
      exact hturn (ih hbefore hstage) hturns
    · have hne : ∀ input, label ≠ .input t input := fun input hinput => hl ⟨input, hinput⟩
      rcases hm.came hat with hold | rfl | ⟨input, _, hinput, _⟩
      · rw [acts_of_ne hne]
        exact ih hbefore hold
      · rw [(hrun.step label hstep).run.acts_eq_nil fun _ hother => hother.unique hat]
        exact hfirst clock
      · exact absurd hinput (hne input)

end Courier.Subscriber
