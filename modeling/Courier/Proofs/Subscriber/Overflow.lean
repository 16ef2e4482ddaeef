import Courier.Proofs.Subscriber.Closing
import Courier.Proofs.Subscriber.Run
import Courier.Proofs.Subscriber.Time

/-!
# Overflow in a listening call

A listening call computes with attempts, with instants and with milliseconds. The attempts are
counted up to the greatest number that fits, and there is always one to take away when the backoff is
asked. But the deadline of a session is an instant like any other, and a clock cannot count every
instant: a call breaks off when the time after which a session is stale is too long to be added to
the time that it is. And the milliseconds that are recorded of a pause or of a silence are cut to 64
bits. Both limits are exact: `never_crashes_iff`.
-/

namespace Courier.Subscriber

universe u

variable {η : Type u} {setup : Setup} {closed : Bool} {clock now last : Instant} {span t : Nat}
  {stage next : Stage η} {input : Input η} {asked : List (Request η)} {history : List (Beat η)}
  {s : Subscriber η}

/-! ## §1 Attempts -/

/-- Whether the attempts made at a delivery are in range: they can be counted, and once the handler
has answered there is at least one. -/
def Stage.IsCounted (stage : Stage η) : Prop :=
  ∀ job, stage.pending? = some job →
    job.made ≤ maxAttempts ∧ (stage = .handling job ∨ 0 < job.made)

theorem Setup.recorded_le (s : Setup) (d : Delivery) : s.recorded d ≤ maxAttempts := by
  unfold recorded
  split
  · exact d.recordedAttempts_le
  · exact Nat.zero_le _

theorem Job.tried_made (job : Job η) : job.tried.made ≤ maxAttempts ∧ 0 < job.tried.made :=
  ⟨oneMoreAttempt_le job.made, oneMoreAttempt_pos job.made⟩

theorem Setup.Turns.isCounted (h : setup.Turns closed now span stage input next asked)
    (hstage : stage.IsCounted) : next.IsCounted := by
  intro job hjob
  cases h with
  | take since deadline d handle =>
    cases hjob
    exact ⟨setup.recorded_le d, .inl rfl⟩
  | decide job | defer job =>
    cases hjob
    exact ⟨job.tried_made.1, .inr job.tried_made.2⟩
  | again job =>
    cases hjob
    exact ⟨(hstage job rfl).1, .inl rfl⟩
  | copy job | giveBack job =>
    cases hjob
    obtain ⟨hmost, hhandling | hpos⟩ := hstage job rfl
    · cases hhandling
    · exact ⟨hmost, .inr hpos⟩
  | _ => cases hjob

/-- The attempts are in range in every run, however often a delivery is tried and whatever number its
headers record. -/
theorem Run.isCounted (h : Run setup .new history s) (hat : s.IsAt t stage) : stage.IsCounted := by
  induction h generalizing t stage with
  | refl => contradiction
  | step now label _ hstep ih =>
    rcases (move_of_step hstep).came hat with hold | rfl | ⟨_, _, _, hold, hturn⟩
    · exact ih hold
    · exact nofun
    · exact hturn.isCounted (ih hold)

/-! ## §2 Deadlines -/

/-- A call that comes to its turn at an instant breaks off at once, if no deadline can be counted
from there. -/
theorem exists_crashed (hover : last.add? setup.options.staleTimeout = none) :
    ∃ history, ∃ s : Subscriber η, TimedRun setup last history s ∧ s.IsAt 0 .crashed := by
  -- a subscriber without calls has nothing to do by itself, so any instant can be waited for
  have hrest : ∀ u, Rests setup u (.new : Subscriber η) := by
    rintro u (_ | _ | ⟨_, input⟩ | _) hown
    · cases hown
    · cases hown
    · rfl
    · rfl
  have hidle : TimedRun setup last [] (.new : Subscriber η) :=
    TimedRun.new.wait (Nat.zero_le last) fun u _ _ => hrest u
  have hqueued : IsBusyAt (enqueue .new (.listening .queued) : Subscriber η) 0 .queued := ⟨rfl, rfl⟩
  obtain ⟨s₁, hrun₁, hb₁, _⟩ := (hidle.step .listen rfl).goTo hqueued
    (show setup.listen false last 1 .queued (.turn : Input η)
      = some (.opening, [.asked (.openSource setup.options.prefetch)]) from rfl) rfl
  have hl : setup.listen s₁.isClosed last (s₁.taken + 1) .opening (.opened (.ok ()) : Input η)
      = some (.crashed, []) := by
    simp only [Setup.listen, Setup.await, hover]
  exact ⟨_, _, hrun₁.step _ (hb₁.step hl), task_set hb₁.stage⟩

/-! ## §3 Milliseconds -/

/-- The fields of records that hold the milliseconds of a duration. -/
def millisFields : List String := ["wait_ms", "restart_ms", "idle_ms"]

/-- The milliseconds that a field of a record tells. -/
def fieldMillis? : String × Log.Value → Option Nat
  | (name, .number millis) => if name ∈ millisFields then some millis else none
  | (_, .text _) => none

/-- The milliseconds that the records among events tell. -/
def toldMillis : List (Event η) → List Nat
  | [] => []
  | .logged record :: events => record.fields.filterMap fieldMillis? ++ toldMillis events
  | .asked _ :: events | .traced _ _ :: events | .returned :: events => toldMillis events

/-- The pause that a request asks for. -/
def Request.pause? : Request η → Option Duration
  | .sleep wait => some wait
  | _ => none

/-- The silence that a session is ended for. -/
def Stage.silence? (now : Instant) : Stage η → Input η → Option Duration
  | .reading since _, .elapsed => some (Instant.since now since)
  | _, _ => none

/-- The durations of a step: the silence that a session is ended for, and the pauses asked for. -/
def durations (now : Instant) (stage : Stage η) (input : Input η) (asked : List (Request η)) :
    List Duration :=
  (stage.silence? now input).toList ++ asked.filterMap Request.pause?

/-- What is left of the milliseconds of a duration in a field. -/
def keptMillis (d : Duration) : Nat := d.totalMillis % (1 <<< 64)

variable {events : List (Event η)}

@[simp] theorem toldMillis_log (level : Log.Level) (message : String)
    (fields : List (String × Log.Value)) :
    toldMillis (setup.log level message fields :: events)
      = fields.filterMap fieldMillis? ++ toldMillis events := rfl

@[simp] theorem toldMillis_append (earlier later : List (Event η)) :
    toldMillis (earlier ++ later) = toldMillis earlier ++ toldMillis later := by
  induction earlier with
  | nil => rfl
  | cons event earlier ih =>
    cases event with
    | logged record =>
      show _ ++ toldMillis (earlier ++ later) = _ ++ toldMillis earlier ++ toldMillis later
      rw [ih, List.append_assoc]
    | asked | traced | returned => exact ih

@[simp] theorem toldMillis_trace (span : Nat) (record : Trace.SpanRecord) :
    toldMillis (setup.trace span record : List (Event η)) = [] := by
  unfold Setup.trace Trace.Telemetry.record
  cases setup.telemetry.tracer.recording <;> rfl

/-- Events tell of the pauses among them, and of nothing else. -/
def TellsPauses (events : List (Event η)) : Prop :=
  toldMillis events = ((requests events).filterMap Request.pause?).map keptMillis

theorem tellsPauses_endSession (now : Instant) (ending : Ending) :
    TellsPauses (setup.endSession now ending : Effect η).2 := by
  cases ending <;> rfl

theorem tellsPauses_nextSession (closed : Bool) :
    TellsPauses (setup.nextSession closed : Effect η).2 := by
  cases closed <;> rfl

theorem tellsPauses_await (now : Instant) : TellsPauses (setup.await now : Effect η).2 := by
  unfold Setup.await
  split <;> rfl

theorem tellsPauses_fail (now : Instant) (job : Job η) (e : HandlerError) :
    TellsPauses (setup.fail now job e).2 := by
  -- a rejection tells of no duration; only the last outcome is a pause, and it tells of this one
  unfold Setup.fail
  split
  · rfl
  split
  · rfl
  split
  · rfl
  dsimp only
  split <;> rfl

theorem TellsPauses.trace (h : TellsPauses events) (span : Nat) (record : Trace.SpanRecord) :
    TellsPauses (setup.trace span record ++ events) := by
  simpa [TellsPauses] using h

theorem tellsPauses_handled (now : Instant) (job : Job η) (result : Except HandlerError Unit) :
    TellsPauses (setup.handled now job result).2 := by
  cases result with
  | ok _ =>
    have hsettle : TellsPauses (settle job .ack).2 := rfl
    exact hsettle.trace _ _
  | error e =>
    have hfail : TellsPauses (setup.fail now { job with made := oneMoreAttempt job.made } e).2 :=
      tellsPauses_fail now _ e
    have htraced : TellsPauses (setup.trace job.span (.failure e.message) ++ (setup.trace job.span
        (.failed e.message) ++ (setup.fail now { job with made := oneMoreAttempt job.made } e).2)) :=
      (hfail.trace job.span (.failed e.message)).trace job.span (.failure e.message)
    rwa [← List.append_assoc] at htraced

theorem tellsPauses_retry (job : Job η) : TellsPauses (setup.retry job).2 := by
  unfold Setup.retry
  split <;> rfl

theorem tellsPauses_settled (now : Instant) (job : Job η) (x : Settlement)
    (result : Except BrokerError Unit) : TellsPauses (setup.settled now job x result).2 := by
  have hawait : TellsPauses (setup.await now : Effect η).2 := tellsPauses_await now
  have hleave : ∀ ending, TellsPauses (leave ending : Effect η).2 := fun _ => rfl
  unfold Setup.settled
  -- the settlement tells of no duration, so what tells is the next stage
  generalize endingAfter x result = ending
  cases ending <;> cases result
  case none.ok => exact hawait.trace _ _
  case none.error => exact hawait.trace _ _
  case some.ok ending _ => exact (hleave ending).trace _ _
  case some.error ending _ => exact (hleave ending).trace _ _

theorem tellsPauses_received (result : Except BrokerError (Option (Delivery × η))) :
    TellsPauses (setup.received span result).2 := by
  match result with
  | .ok (some (d, handle)) =>
    have hhandle : TellsPauses ([.asked (.handle (setup.spanOf span d).context d)] :
        List (Event η)) := rfl
    exact hhandle.trace _ _
  | .ok none => rfl
  | .error e => rfl

theorem Setup.Answers.tells {effect : Effect η}
    (h : setup.Answers closed now span stage input effect) :
    toldMillis effect.2 = (durations now stage input (requests effect.2)).map keptMillis := by
  cases h with
  | entered => exact tellsPauses_nextSession closed
  | opened => exact tellsPauses_await now
  | refused => rfl
  | halted => rfl
  | stale => rfl
  | received since deadline result => exact tellsPauses_received result
  | handled job result => exact tellsPauses_handled now job result
  | rested job => exact tellsPauses_retry job
  | handBack => rfl
  | settled job x result => exact tellsPauses_settled now job x result
  | left ending => exact tellsPauses_endSession now ending
  | leftFailing ending e => exact tellsPauses_endSession now ending
  | paused => exact tellsPauses_nextSession closed
  | interrupted => rfl

/-- The records of every step tell its durations, the silence before the pause, in as many
milliseconds as are kept. -/
theorem toldMillis_of_listen
    (h : setup.listen closed now span stage input = some (next, events)) :
    toldMillis events = (durations now stage input (requests events)).map keptMillis :=
  (answers_of_listen h).tells

theorem keptMillis_eq_iff (d : Duration) : keptMillis d = d.totalMillis ↔ d.totalMillis < 1 <<< 64 :=
  Nat.mod_eq_iff_lt (by decide)

/-! ## §4 The limits -/

/-- In every run the attempts that are counted stay in range. No call breaks off as long as the clock
has not passed an instant exactly if the deadline of a session can be counted from this instant. And
the records of a step tell its durations in full exactly if their milliseconds fit 64 bits. -/
theorem never_crashes_iff (setup : Setup) (last : Instant) :
    (∀ history (s : Subscriber η), Run setup .new history s →
      ∀ t stage, s.IsAt t stage → stage.IsCounted) ∧
    ((∀ clock history (s : Subscriber η), TimedRun setup clock history s → clock ≤ last →
        ∀ t, ¬s.IsAt t .crashed) ↔ last.add? setup.options.staleTimeout ≠ none) ∧
    ∀ closed now span (stage next : Stage η) input events,
      setup.listen closed now span stage input = some (next, events) →
      (toldMillis events = (durations now stage input (requests events)).map Duration.totalMillis ↔
        ∀ d ∈ durations now stage input (requests events), d.totalMillis < 1 <<< 64) := by
  refine ⟨fun history s hrun t stage hat => hrun.isCounted hat, ⟨fun hnever hover => ?_, ?_⟩, ?_⟩
  · obtain ⟨history, s, hrun, hcrashed⟩ := exists_crashed (η := η) hover
    exact hnever last history s hrun (Nat.le_refl last) 0 hcrashed
  -- a deadline that fits at the last instant fits at every earlier one
  · intro hfits clock history s hrun hle t hcrashed
    obtain ⟨beat, hbeat, hover⟩ := hrun.run.exists_overflow hcrashed
    exact hfits (Instant.add?_eq_none_of_le hover (Nat.le_trans (hrun.le_clock beat hbeat) hle))
  · intro closed now span stage next input events h
    rw [toldMillis_of_listen h, List.map_inj_left]
    exact forall₂_congr fun d _ => keptMillis_eq_iff d

/-- A subscriber to orders that waits for more than five hundred million years before each further
try. -/
def Setup.patient : Setup :=
  { Setup.ofOrders .inPlace with
    options := { Options.standard with
      backoff := fun _ => ⟨Duration.ofSeconds 18446744073709552, false⟩ } }

/-- With the longest duration as the time after which a session is stale, the first session breaks
off as soon as its source is open, and the source is not closed. And the wait of a patient subscriber
is recorded as one of 384 milliseconds. -/
theorem overflows_with_long_durations :
    (∃ history s, replay Setup.lasting [] (.new : Subscriber Nat)
        [(0, .listen), (0, .input 0 .turn), (0, .input 0 (.opened (.ok ())))] = some (history, s) ∧
      TimedRun Setup.lasting 0 history s ∧ s.IsAt 0 .crashed ∧
      ∀ beat ∈ history, .closeSource ∉ requests beat.events) ∧
    ∃ next events, Setup.patient.listen false 0 2 (.handling ⟨order, 7, 0, 1, .none⟩)
        (.handled (.error (.retry (.text "busy")))) = some (next, events) ∧
      .asked (.sleep (Duration.ofSeconds 18446744073709552)) ∈ events ∧
      toldMillis events = [384] := by
  have hrun : TimedRun (η := Nat) Setup.lasting 0 _ _ :=
    ((TimedRun.new.step .listen rfl).step (.input 0 .turn) rfl).step
      (.input 0 (.opened (.ok ()))) rfl
  refine ⟨⟨_, _, rfl, hrun, rfl, by decide⟩, _, _, rfl, ?_, rfl⟩
  exact List.mem_cons_of_mem _ List.mem_cons_self

end Courier.Subscriber
