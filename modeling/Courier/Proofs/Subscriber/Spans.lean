import Courier.Proofs.Subscriber.Run
import Courier.Proofs.Subscriber.Time

/-!
# Spans of deliveries

Every delivery that is taken gets a span of its own, and what is recorded of the span follows what
becomes of the delivery. The notes of a run tell both in their order. What they tell of one delivery,
from taking it to the end of its span, is a `Tale`; the notes of a whole run are a `Chronicle` of such
tales, one after the other, with nothing about a delivery or a span between them.
-/

namespace Courier.Subscriber

universe u

variable {η : Type u}

/-! ## §1 Notes -/

/-- What is told of a run: what comes to a call and what the call asks for, calls to the handler among
it, and what is recorded of spans. -/
inductive Note (η : Type u) where
  | came (input : Input η)
  | asked (request : Request η)
  | traced (span : Nat) (record : Trace.SpanRecord)
deriving DecidableEq

def Event.note? : Event η → Option (Note η)
  | .asked request => some (.asked request)
  | .traced span record => some (.traced span record)
  | .logged _ | .returned => none

/-- What a step of a run is told with. -/
def Beat.notes (beat : Beat η) : List (Note η) :=
  match beat.label with
  | .input _ input => .came input :: beat.events.filterMap Event.note?
  | .listen | .close | .turn _ => []

/-- The notes of a run, in the order of its steps. -/
def notesOf : List (Beat η) → List (Note η)
  | [] => []
  | beat :: earlier => notesOf earlier ++ beat.notes

/-! ## §2 Tales -/

/-- The handler has failed: the error is recorded, and it is the status of the span. -/
def failed (span : Nat) (e : HandlerError) : List (Note η) :=
  [.came (.handled (.error e)), .traced span (.failure e.message), .traced span (.failed e.message)]

/-- The tries of a delivery, up to the last call to the handler. The span begins when the delivery is
taken, under the context that the headers of the delivery hold, and all tries are made in the context
that the tracer has answered it with. -/
inductive Tries (s : Setup) (span : Nat) (d : Delivery) (handle : η) : List (Note η) → Prop where
  | first : Tries s span d handle
      [.came (.read (.ok (some (d, handle)))),
        .traced span (.start (s.spanOf span d)), .asked (.handle (s.spanOf span d).context d)]
  | again {before : List (Note η)} (e : HandlerError) (wait : Duration) :
      Tries s span d handle before →
      Tries s span d handle (before ++ (failed span e ++ [.asked (.sleep wait), .came .elapsed,
        .asked (.handle (s.spanOf span d).context d)]))

/-- What follows on the last try of a delivery, up to its settlement: it is acknowledged if it was
handled, and the span then succeeds; else it is dropped, given back because the end was signalled
while it waited for another try, or republished when the wait was over. -/
inductive Settles (span : Nat) (d : Delivery) (handle : η) : Settlement → List (Note η) → Prop where
  | acked : Settles span d handle .ack
      [.came (.handled (.ok ())), .traced span .succeeded, .asked (.settle .ack handle d)]
  | dropped (e : HandlerError) : Settles span d handle .reject
      (failed span e ++ [.asked (.settle .reject handle d)])
  | handedBack (e : HandlerError) (wait : Duration) : Settles span d handle .requeue
      (failed span e ++ [.asked (.sleep wait), .came .stop, .asked (.settle .requeue handle d)])
  | copied (e : HandlerError) (wait : Duration) (made : Nat) : Settles span d handle .republish
      (failed span e ++ [.asked (.sleep wait), .came .elapsed,
        .asked (.settle .republish handle (d.recordAttempts made))])

/-- All that is told of a delivery: its span ends once the settlement has come to an end, whatever
that is. -/
inductive Tale (s : Setup) (span : Nat) (d : Delivery) (handle : η) : List (Note η) → Prop where
  | intro {tries rest : List (Note η)} (x : Settlement) (result : Except BrokerError Unit) :
      Tries s span d handle tries → Settles span d handle x rest →
      Tale s span d handle (tries ++ rest ++ [.came (.settled result), .traced span .finish])

/-- Whether a note tells of no delivery and of no span. -/
def Note.IsApart : Note η → Prop
  | .came (.read (.ok (some _))) | .came (.handled _) | .came (.settled _) => False
  | .asked (.handle _ _) | .asked (.settle _ _ _) => False
  | .came _ | .asked _ => True
  | .traced _ _ => False

/-- The tales of deliveries, one after the other. Their spans are numbered in this order, from one. -/
inductive Chronicle (s : Setup) : Nat → List (Note η) → Prop where
  | nil : Chronicle s 0 []
  | apart {n : Nat} {notes : List (Note η)} (note : Note η) :
      Chronicle s n notes → note.IsApart → Chronicle s n (notes ++ [note])
  | tale {n : Nat} {notes rest : List (Note η)} (d : Delivery) (handle : η) :
      Chronicle s n notes → Tale s (n + 1) d handle rest → Chronicle s (n + 1) (notes ++ rest)

variable {s : Setup} {n span : Nat} {d : Delivery} {handle : η} {notes before : List (Note η)}

theorem Tries.tale {tries rest : List (Note η)} {x : Settlement} (h : Tries s span d handle tries)
    (hrest : Settles span d handle x rest) : Tale s span d handle
      (tries ++ (rest ++ [.came (.settled (.ok ())), .traced span .finish])) := by
  rw [← List.append_assoc]
  exact .intro x (.ok ()) h hrest

theorem Chronicle.input {input : Input η} (h : Chronicle s n notes)
    (hinput : (Note.came input).IsApart) : Chronicle s n (notes ++ [.came input]) :=
  .apart _ h hinput

theorem Chronicle.answered {input : Input η} {request : Request η} (h : Chronicle s n notes)
    (hinput : (Note.came input).IsApart) (hrequest : (Note.asked request).IsApart) :
    Chronicle s n (notes ++ [.came input, .asked request]) := by
  rw [List.append_cons]
  exact .apart _ (.apart _ h hinput) hrequest

/-- The settlement of a delivery has come to an end, and with it the tale. -/
theorem Chronicle.settled {tries rest : List (Note η)} {x : Settlement}
    (h : Chronicle s n notes) (result : Except BrokerError Unit)
    (htries : Tries s (n + 1) d handle tries) (hrest : Settles (n + 1) d handle x rest) :
    Chronicle s (n + 1)
      (notes ++ (tries ++ rest) ++ [.came (.settled result), .traced (n + 1) .finish]) := by
  rw [List.append_assoc]
  exact .tale d handle h (.intro x result htries hrest)

theorem Chronicle.settled_asked {tries rest : List (Note η)} {x : Settlement} {request : Request η}
    (h : Chronicle s n notes) (result : Except BrokerError Unit)
    (htries : Tries s (n + 1) d handle tries) (hrest : Settles (n + 1) d handle x rest)
    (hrequest : (Note.asked request).IsApart) :
    Chronicle s (n + 1) (notes ++ (tries ++ rest)
      ++ [.came (.settled result), .traced (n + 1) .finish, .asked request]) := by
  have hsettled := (h.settled result htries hrest).apart _ hrequest
  rwa [List.append_assoc] at hsettled

/-! ## §3 What a step shows -/

/-- What is recorded of spans when something comes to a call; `span` is the number of the next
span. -/
def Setup.records (s : Setup) (span : Nat) : Stage η → Input η → List (Note η)
  | .reading _ _, .read (.ok (some (d, _))) =>
    [.traced span (.start (s.spanOf span d))]
  | .handling job, .handled (.ok ()) => [.traced job.span .succeeded]
  | .handling job, .handled (.error e) =>
    [.traced job.span (.failure e.message), .traced job.span (.failed e.message)]
  | .settling job _, .settled _ => [.traced job.span .finish]
  | _, _ => []

/-- Events show records of spans, and after them what is asked for. -/
def Shows (events : List (Event η)) (records : List (Note η)) : Prop :=
  events.filterMap Event.note? = records ++ (requests events).map .asked

variable {events : List (Event η)} {records : List (Note η)} {job : Job η}

theorem Shows.nil : Shows ([] : List (Event η)) [] := rfl

theorem Shows.asked (h : Shows events []) (request : Request η) :
    Shows (.asked request :: events) [] := by
  rw [Shows, List.filterMap_cons_some (f := Event.note?) rfl, h]
  rfl

theorem Shows.logged (h : Shows events records) (log : Log) :
    Shows (.logged log :: events) records := by
  rw [Shows, List.filterMap_cons_none rfl, h]
  rfl

theorem Shows.returned (h : Shows events records) : Shows (.returned :: events) records := by
  rw [Shows, List.filterMap_cons_none rfl, h]
  rfl

theorem Shows.trace (h : Shows events records) (hrec : s.telemetry.tracer.recording = true)
    (span : Nat) (record : Trace.SpanRecord) :
    Shows (s.trace span record ++ events) (.traced span record :: records) := by
  have htrace : (s.trace span record : List (Event η)) = [.traced span record] := by
    simp only [Setup.trace, Trace.Telemetry.record, hrec, if_true, List.map_cons, List.map_nil]
  rw [Shows, htrace, List.singleton_append, List.filterMap_cons_some (f := Event.note?) rfl, h]
  rfl

theorem shows_asked (request : Request η) : Shows [.asked request] [] :=
  Shows.nil.asked request

theorem shows_nextSession (closed : Bool) : Shows (s.nextSession closed : Effect η).2 [] := by
  cases closed with
  | true => exact Shows.nil.returned.logged _
  | false => exact shows_asked _

theorem shows_endSession (now : Instant) (ending : Ending) :
    Shows (s.endSession now ending : Effect η).2 [] := by
  cases ending with
  | shutdown => exact Shows.nil.returned.logged _
  | restart => exact (shows_asked _).logged _

theorem shows_await (now : Instant) : Shows (s.await now : Effect η).2 [] := by
  unfold Setup.await
  split
  · exact shows_asked _
  · exact .nil

theorem shows_fail (now : Instant) (e : HandlerError) : Shows (s.fail now job e).2 [] := by
  -- whatever is decided, the records of the span were made before
  unfold Setup.fail
  split
  · exact (shows_asked _).logged _
  split
  · exact (shows_asked _).logged _
  split
  · exact .nil
  dsimp only
  split
  · exact (shows_asked _).logged _
  · exact (shows_asked _).logged _

theorem shows_handled (hrec : s.telemetry.tracer.recording = true) (now : Instant)
    (result : Except HandlerError Unit) :
    Shows (s.handled now job result).2 (s.records span (.handling job) (.handled result)) := by
  cases result with
  | ok _ => exact (shows_asked _).trace hrec _ _
  | error e =>
    have hfail : Shows (s.fail now { job with made := oneMoreAttempt job.made } e).2 [] :=
      shows_fail now e
    have htraced := (hfail.trace hrec job.span (.failed e.message)).trace hrec job.span
      (.failure e.message)
    rw [← List.append_assoc] at htraced
    exact htraced

theorem shows_retry : Shows (s.retry job).2 [] := by
  unfold Setup.retry
  split <;> exact shows_asked _

theorem shows_settled (hrec : s.telemetry.tracer.recording = true) (now : Instant) (x : Settlement)
    (result : Except BrokerError Unit) :
    Shows (s.settled now job x result).2 [.traced job.span .finish] := by
  unfold Setup.settled
  -- what is shown of the settlement comes before what the next stage asks for
  generalize endingAfter x result = ending
  cases ending <;> cases result
  case none.ok => exact (shows_await now).trace hrec _ _
  case none.error => exact ((shows_await now).trace hrec _ _).logged _
  case some.ok => exact (shows_asked _).trace hrec _ _
  case some.error => exact ((shows_asked _).trace hrec _ _).logged _

theorem shows_received (hrec : s.telemetry.tracer.recording = true) (since deadline : Instant)
    (result : Except BrokerError (Option (Delivery × η))) :
    Shows (s.received span result).2 (s.records span (.reading since deadline) (.read result)) := by
  match result with
  | .ok (some (d, handle)) => exact (shows_asked _).trace hrec _ _
  | .ok none => exact (shows_asked _).logged _
  | .error e => exact (shows_asked _).logged _

theorem Setup.Answers.shows {closed : Bool} {now : Instant} {stage : Stage η} {input : Input η}
    {effect : Effect η} (hrec : s.telemetry.tracer.recording = true)
    (h : s.Answers closed now span stage input effect) :
    Shows effect.2 (s.records span stage input) := by
  cases h with
  | entered => exact shows_nextSession closed
  | opened => exact shows_await now
  | refused e => exact (shows_endSession now .restart).logged _
  | halted => exact shows_asked _
  | stale => exact (shows_asked _).logged _
  | received since deadline result => exact shows_received hrec since deadline result
  | handled job result => exact shows_handled hrec now result
  | rested => exact shows_retry
  | handBack => exact shows_asked _
  | settled job x result => exact shows_settled hrec now x result
  | left ending => exact shows_endSession now ending
  | leftFailing ending e => exact (shows_endSession now ending).logged _
  | paused => exact shows_nextSession closed
  | interrupted => exact Shows.nil.returned.logged _

/-- Every step shows what is recorded of spans before it asks for anything. -/
theorem shows_of_listen {closed : Bool} {now : Instant} {stage next : Stage η} {input : Input η}
    (hrec : s.telemetry.tracer.recording = true)
    (h : s.listen closed now span stage input = some (next, events)) :
    Shows events (s.records span stage input) :=
  (answers_of_listen h).shows hrec

/-! ## §4 Chronicles -/

/-- What is told when a call is at a stage, given how many deliveries were taken: the tales of all
of them, but for what is still to come of the one that is pending. -/
inductive Tells (s : Setup) : Nat → Stage η → List (Note η) → Prop where
  | idle {n : Nat} {stage : Stage η} {notes : List (Note η)} :
      stage.pending? = none → Chronicle s n notes → Tells s n stage notes
  | handling {n : Nat} {notes tries : List (Note η)} (d : Delivery) (handle : η) (made : Nat) :
      Chronicle s n notes → Tries s (n + 1) d handle tries →
      Tells s (n + 1) (.handling ⟨d, handle, made, n + 1, (s.spanOf (n + 1) d).context⟩)
        (notes ++ tries)
  | waiting {n : Nat} {notes tries : List (Note η)} (d : Delivery) (handle : η) (made : Nat)
      (wake : Instant) (e : HandlerError) (wait : Duration) :
      Chronicle s n notes → Tries s (n + 1) d handle tries →
      Tells s (n + 1) (.waiting ⟨d, handle, made, n + 1, (s.spanOf (n + 1) d).context⟩ wake)
        (notes ++ (tries ++ (failed (n + 1) e ++ [.asked (.sleep wait)])))
  | settling {n : Nat} {notes tries rest : List (Note η)} (d d' : Delivery) (handle : η)
      (made : Nat) (context : Trace.Context) (x : Settlement) :
      Chronicle s n notes → Tries s (n + 1) d handle tries → Settles (n + 1) d handle x rest →
      Tells s (n + 1) (.settling ⟨d', handle, made, n + 1, context⟩ x) (notes ++ (tries ++ rest))

theorem Tells.chronicle {stage : Stage η} (h : Tells s n stage notes)
    (hidle : stage.pending? = none) : Chronicle s n notes := by
  cases h with
  | idle _ hnotes => exact hnotes
  | handling | waiting | settling => cases hidle

/-- What is told of a delivery that is pending is the beginning of a tale. -/
theorem Tells.exists_tale {stage : Stage η} (h : Tells s n stage notes)
    (hpending : stage.pending? = some job) :
    ∃ k told pending d more, n = k + 1 ∧ job.span = n ∧ notes = told ++ pending ∧
      Chronicle s k told ∧ more ≠ [] ∧ Tale s n d job.handle (pending ++ more) := by
  cases h with
  | idle hidle =>
    rw [hidle] at hpending
    cases hpending
  | handling d handle made hnotes htries =>
    cases hpending
    exact ⟨_, _, _, d, _, rfl, rfl, rfl, hnotes, List.cons_ne_nil _ _, htries.tale .acked⟩
  | @waiting k _ tries d handle made wake e wait hnotes htries =>
    cases hpending
    -- a message that waits for its next try can still be given back
    have htale := htries.tale (.handedBack e wait)
    have hsplit : failed k.succ e ++ [.asked (.sleep wait), .came .stop,
          .asked (.settle .requeue handle d)] ++ [.came (.settled (.ok ())), .traced k.succ .finish]
        = failed k.succ e ++ [.asked (.sleep wait)] ++ ([.came .stop,
          .asked (.settle .requeue handle d)] ++ [.came (.settled (.ok ())),
            .traced k.succ .finish]) := rfl
    rw [hsplit, ← List.append_assoc tries] at htale
    exact ⟨k, _, _, d, _, rfl, rfl, rfl, hnotes, List.cons_ne_nil _ _, htale⟩
  | settling d d' handle made context x hnotes htries hrest =>
    cases hpending
    have htale := htries.tale hrest
    rw [← List.append_assoc] at htale
    exact ⟨_, _, _, d, _, rfl, rfl, rfl, hnotes, List.cons_ne_nil _ _, htale⟩

/-- What a turn is told with. -/
def Setup.told (s : Setup) (span : Nat) (stage : Stage η) (input : Input η)
    (asked : List (Request η)) : List (Note η) :=
  .came input :: (s.records span stage input ++ asked.map .asked)

theorem Setup.Turns.tells {closed : Bool} {now : Instant} {stage next : Stage η} {input : Input η}
    {asked : List (Request η)} (h : s.Turns closed now (n + 1) stage input next asked)
    (ht : Tells s n stage notes) :
    Tells s (if input.takes then n + 1 else n) next
      (notes ++ s.told (n + 1) stage input asked) := by
  cases h with
  | dismiss | overflow | finish | retire | interrupt =>
    exact .idle rfl ((ht.chronicle rfl).input trivial)
  | enter | await | refused | halt | stale | dry | fault | restart | reopen =>
    exact .idle rfl ((ht.chronicle rfl).answered trivial trivial)
  | take since deadline d handle => exact .handling d handle _ (ht.chronicle rfl) .first
  | decide job result x hd =>
    cases ht with
    | idle hidle => cases hidle
    | handling d handle made hnotes htries =>
      rw [List.append_assoc]
      rcases Options.decision_eq_settle hd with ⟨rfl, rfl⟩ | ⟨rfl, e, rfl, _⟩
      · exact .settling d d handle _ _ _ hnotes htries .acked
      · exact .settling d d handle _ _ _ hnotes htries (.dropped e)
  | defer job result wait hd =>
    cases ht with
    | idle hidle => cases hidle
    | handling d handle made hnotes htries =>
      rw [List.append_assoc]
      cases result with
      | ok _ => cases hd
      | error e => exact .waiting d handle _ _ e wait hnotes htries
  | again job wake =>
    cases ht with
    | idle hidle => cases hidle
    | waiting d handle made _ e wait hnotes htries =>
      rw [List.append_assoc, List.append_assoc, List.append_assoc]
      exact .handling d handle made hnotes (htries.again e wait)
  | copy job wake =>
    cases ht with
    | idle hidle => cases hidle
    | waiting d handle made _ e wait hnotes htries =>
      rw [List.append_assoc, List.append_assoc, List.append_assoc]
      exact .settling d _ handle made _ _ hnotes htries (.copied e wait made)
  | giveBack job wake =>
    cases ht with
    | idle hidle => cases hidle
    | waiting d handle made _ e wait hnotes htries =>
      rw [List.append_assoc, List.append_assoc, List.append_assoc]
      exact .settling d d handle made _ _ hnotes htries (.handedBack e wait)
  | goOn job x result | giveUp job x result =>
    cases ht with
    | idle hidle => cases hidle
    | settling d d' handle made context _ hnotes htries hrest =>
      exact .idle rfl (hnotes.settled_asked result htries hrest trivial)
  | goOnOverflow job x result =>
    cases ht with
    | idle hidle => cases hidle
    | settling d d' handle made context _ hnotes htries hrest =>
      exact .idle rfl (hnotes.settled result htries hrest)

/-! ## §5 Runs -/

variable {history : List (Beat η)} {q q' : Subscriber η}

/-- What holds of the notes in every run: they fit the call that is at work, and all tales in them
have come to their ends if no call is. -/
structure Told (s : Setup) (notes : List (Note η)) (q : Subscriber η) : Prop where
  busy : ∀ t stage, q.IsAt t stage → stage.isActive = true → Tells s q.taken stage notes
  quiet : (∀ t stage, q.IsAt t stage → stage.isActive = false) → Chronicle s q.taken notes

theorem Stage.pending_of_not_isActive {stage : Stage η} (h : stage.isActive = false) :
    stage.pending? = none := by
  cases stage with
  | queued | returned | crashed => rfl
  | _ => cases h

/-- The call that has the turn fits the notes, whether it is at work already or begins now. -/
theorem Told.of_turn {t : Nat} {stage : Stage η} (h : Told s notes q) (ho : q.Orderly)
    (hturn : q.lock.isHeldBy t = true) (hat : q.IsAt t stage) : Tells s q.taken stage notes := by
  cases hactive : stage.isActive with
  | true => exact h.busy t stage hat hactive
  | false =>
    refine .idle (Stage.pending_of_not_isActive hactive) (h.quiet fun u other hu => ?_)
    refine Bool.eq_false_iff.mpr fun hother => ?_
    -- another call at work would have the turn
    obtain rfl := Lock.isHeldBy_unique hturn (ho.turn u other hu hother)
    rw [hu.unique hat, hactive] at hother
    cases hother

/-- No other call is at work after a step of one that has the turn. -/
theorem Tells.told {t : Nat} {stage next : Stage η} {input : Input η}
    (ht : Tells s (if input.takes then q.taken + 1 else q.taken) next notes) (ho : q.Orderly)
    (hturn : q.lock.isHeldBy t = true) (hat : q.IsAt t stage) :
    Told s notes (q.advance t input next) := by
  have hhere : (q.advance t input next).IsAt t next := task_set hat
  refine ⟨fun u other hu hother => ?_, fun hquiet => ?_⟩
  · rcases task_of_set hu with ⟨rfl, htask⟩ | ⟨hne, hold⟩
    · cases htask
      exact ht
    · exact absurd (Lock.isHeldBy_unique hturn (ho.turn u other hold hother)) hne
  · exact ht.chronicle (Stage.pending_of_not_isActive (hquiet t next hhere))

/-- A step at which no call takes a turn tells nothing. -/
theorem Told.of_silent (h : Told s notes q) (htaken : q'.taken = q.taken)
    (hold : ∀ t stage, q.IsAt t stage → q'.IsAt t stage)
    (hnew : ∀ t stage, q'.IsAt t stage → q.IsAt t stage ∨ stage = .queued) : Told s notes q' := by
  refine ⟨fun t stage hat hactive => ?_, fun hquiet => ?_⟩
  · rw [htaken]
    rcases hnew t stage hat with hat | rfl
    · exact h.busy t stage hat hactive
    · cases hactive
  · rw [htaken]
    exact h.quiet fun t stage hat => hquiet t stage (hold t stage hat)

/-- Something comes to a call: the call has the turn, and it listens. -/
theorem listen_of_step {now : Instant} {t : Nat} {input : Input η}
    (h : q.step s now (.input t input) = some (q', events)) :
    ∃ stage next, q.lock.isHeldBy t = true ∧ q.IsAt t stage ∧
      s.listen q.isClosed now (q.taken + 1) stage input = some (next, events) ∧
      q' = q.advance t input next := by
  simp only [Subscriber.step] at h
  split at h
  · rename_i hturn
    split at h
    · rename_i stage hat
      obtain ⟨⟨next, events'⟩, hl, he⟩ := Option.map_eq_some_iff.mp h
      cases he
      exact ⟨stage, next, hturn, hat, hl, rfl⟩
    · cases h
  · cases h

/-- Every step of a run is told with what belongs to it. -/
theorem Told.step {now : Instant} {label : Label η} (h : Told s notes q) (ho : q.Orderly)
    (hrec : s.telemetry.tracer.recording = true) (hstep : q.step s now label = some (q', events)) :
    Told s (notes ++ Beat.notes ⟨now, label, events, q'⟩) q' := by
  cases label with
  | input t input =>
    obtain ⟨stage, next, hturn, hat, hl, rfl⟩ := listen_of_step hstep
    have htells := (turns_of_listen hl).tells (h.of_turn ho hturn hat)
    have hnotes : Beat.notes ⟨now, .input t input, events, q.advance t input next⟩
        = s.told (q.taken + 1) stage input (requests events) := by
      rw [Setup.told, ← shows_of_listen hrec hl]
      rfl
    rw [hnotes]
    exact htells.told ho hturn hat
  | listen =>
    cases hstep
    rw [Beat.notes, List.append_nil]
    refine h.of_silent rfl (fun t stage hat => task_enqueue hat) fun t stage hat => ?_
    rcases task_of_enqueue hat with hat | htask
    · exact .inl hat
    · cases htask
      exact .inr rfl
  | close =>
    cases hstep
    rw [Beat.notes, List.append_nil]
    refine h.of_silent rfl (fun t stage hat => task_enqueue hat) fun t stage hat => ?_
    rcases task_of_enqueue hat with hat | htask
    · exact .inl hat
    · cases htask
  | turn t =>
    rw [Beat.notes, List.append_nil]
    have hm := move_of_step hstep
    generalize requests events = asked at hm
    cases hm with
    | depart _ _ hclosing =>
      refine h.of_silent rfl (fun u stage hat => ?_) fun u stage hat => ?_
      · refine task_set_of_ne ?_ hat
        rintro rfl
        rw [IsAt, hclosing] at hat
        cases hat
      · rcases task_of_set hat with ⟨_, htask⟩ | ⟨_, hold⟩
        · cases htask
        · exact .inl hold

theorem Run.told (h : Run s .new history q) (hrec : s.telemetry.tracer.recording = true) :
    Told s (notesOf history) q := by
  induction h with
  | refl => exact ⟨by intros; contradiction, fun _ => .nil⟩
  | step now label hrun hstep ih => exact ih.step hrun.orderly hrec hstep

/-- Whatever sources, the handler and the clock do, and however many calls listen: the notes of a run
are the tales of the deliveries that were taken, each with a span of its own. As long as a delivery
is pending, the last tale is still to be ended; if none is, all tales are complete. -/
theorem spans_of_run (h : Run s .new history q) (hrec : s.telemetry.tracer.recording = true) :
    ((∀ t stage, q.IsAt t stage → stage.pending? = none) →
      Chronicle s q.taken (notesOf history)) ∧
    ∀ t stage job, q.IsAt t stage → stage.pending? = some job →
      ∃ n told pending d more, q.taken = n + 1 ∧ job.span = q.taken ∧
        notesOf history = told ++ pending ∧ Chronicle s n told ∧ more ≠ [] ∧
        Tale s q.taken d job.handle (pending ++ more) := by
  have htold := h.told hrec
  refine ⟨fun hidle => ?_, fun t stage job hat hpending => ?_⟩
  · by_cases hbusy : ∃ t stage, q.IsAt t stage ∧ stage.isActive = true
    · obtain ⟨t, stage, hat, hactive⟩ := hbusy
      exact (htold.busy t stage hat hactive).chronicle (hidle t stage hat)
    · refine htold.quiet fun t stage hat => Bool.eq_false_iff.mpr fun hactive => ?_
      exact hbusy ⟨t, stage, hat, hactive⟩
  · have hactive : stage.isActive = true := by
      cases stage with
      | handling | waiting | settling => rfl
      | _ => cases hpending
    exact (htold.busy t stage hat hactive).exists_tale hpending

/-- A subscriber to orders whose spans are recorded. -/
def Setup.watched : Setup :=
  { Setup.ofOrders .republish with telemetry := ⟨.w3c, .counting⟩ }

/-- An order whose first try fails, and whose copy is handled but not acknowledged, before the
subscriber is closed. -/
def watchedOrder : List (Instant × Label Nat) :=
  [(0, .listen), (0, .input 0 .turn), (0, .input 0 (.opened (.ok ()))),
    (5, .input 0 (.read (.ok (some (order, 7))))),
    (5, .input 0 (.handled (.error (.retry (.text "busy"))))), (1000000005, .input 0 .elapsed),
    (1000000005, .input 0 (.settled (.ok ()))),
    (1000000006, .input 0 (.read (.ok (some (order.recordAttempts 1, 8))))),
    (1000000006, .input 0 (.handled (.ok ()))),
    (1000000006, .input 0 (.settled (.error .acknowledging))), (1000000007, .close),
    (1000000007, .input 0 .stop), (1000000007, .input 0 (.closed (.ok ())))]

/-- The order and its copy have a span each; the first one fails, and the second one succeeds. -/
theorem spans_of_watchedOrder :
    ∃ history q, replay Setup.watched [] .new watchedOrder = some (history, q) ∧
      q.IsAt 0 .returned ∧ Chronicle Setup.watched 2 (notesOf history) := by
  obtain ⟨history, q, hreplay, hreturned, hpending, htaken⟩ :
      ∃ history q, replay Setup.watched [] .new watchedOrder = some (history, q) ∧
        q.IsAt 0 .returned ∧ (∀ t stage, q.IsAt t stage → stage.pending? = none) ∧
        q.taken = 2 := by
    refine ⟨_, _, rfl, rfl, fun t stage hat => ?_, rfl⟩
    have hmem : Task.listening stage ∈ [Task.listening .returned, .closing] :=
      List.mem_of_getElem? hat
    simp only [List.mem_cons, Task.listening.injEq, List.not_mem_nil, or_false, reduceCtorEq]
      at hmem
    rw [hmem]
    rfl
  refine ⟨history, q, hreplay, hreturned, ?_⟩
  rw [← htaken]
  exact (spans_of_run (run_of_replay .refl hreplay) rfl).1 hpending

end Courier.Subscriber
