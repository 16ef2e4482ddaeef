import Courier.Proofs.Delivery
import Courier.Subscriber.Listen

/-!
# Turns of a listening call

What a listening call can do with an input, said once: the stage that it comes to and what it asks
for, without the records that it writes on the way. `turns_of_listen` reads this off the step of a
listening call, and everything about its runs is derived from it. What is said of the records
starts from `answers_of_listen`, where the step is opened.
-/

namespace Courier.Subscriber

universe u

variable {η : Type u}

/-! ## §1 What an event asks for -/

def Event.request? : Event η → Option (Request η)
  | .asked r => some r
  | .logged _ | .traced _ _ | .returned => none

/-- The requests among events. -/
def requests (events : List (Event η)) : List (Request η) :=
  events.filterMap Event.request?

@[simp] theorem requests_nil : requests ([] : List (Event η)) = [] := rfl

@[simp] theorem requests_asked (r : Request η) (events : List (Event η)) :
    requests (.asked r :: events) = r :: requests events := rfl

@[simp] theorem requests_logged (l : Log) (events : List (Event η)) :
    requests (.logged l :: events) = requests events := rfl

@[simp] theorem requests_returned (events : List (Event η)) :
    requests (.returned :: events) = requests events := rfl

@[simp] theorem requests_append (a b : List (Event η)) :
    requests (a ++ b) = requests a ++ requests b :=
  List.filterMap_append

@[simp] theorem requests_log (s : Setup) (level : Log.Level) (message : String)
    (fields : List (String × Log.Value)) (events : List (Event η)) :
    requests (s.log level message fields :: events) = requests events := rfl

@[simp] theorem requests_settlementFailure (s : Setup) (settlement : Settlement) (e : BrokerError)
    (events : List (Event η)) :
    requests (s.settlementFailure settlement e :: events) = requests events := rfl

theorem mem_requests {r : Request η} {events : List (Event η)} (h : .asked r ∈ events) :
    r ∈ requests events :=
  List.mem_filterMap.mpr ⟨_, h, rfl⟩

@[simp] theorem requests_trace (s : Setup) (span : Nat) (record : Trace.SpanRecord) :
    requests (s.trace span record : List (Event η)) = [] := by
  unfold Setup.trace Trace.Telemetry.record
  cases s.telemetry.tracer.recording <;> rfl

/-! ## §2 What is decided about a delivery -/

/-- What is to be done about a delivery after the handler has answered. -/
inductive Decision where
  /-- The delivery is acknowledged or rejected. -/
  | settle (settlement : Settlement)
  /-- It is tried again after a time. -/
  | retry (wait : Duration)
deriving DecidableEq, Repr

/-- What is to be done when the handler has answered the try of a number, counted from one: a
delivery that was handled is acknowledged; one that must not or cannot be tried again is rejected;
else the policy says how long to wait, or to reject it. -/
def Options.decision (o : Options) (made : Nat) : Except HandlerError Unit → Decision
  | .ok () => .settle .ack
  | .error e =>
    if e.retryable = false ∨ o.limit.isExhausted made = true then .settle .reject
    else if (o.backoff (made - 1)).stop = true then .settle .reject
    else .retry (o.backoff (made - 1)).wait

/-- A failure that must not or cannot be tried again is answered with a rejection. -/
theorem Options.decision_last {o : Options} {made : Nat} {e : HandlerError}
    (h : e.retryable = false ∨ o.limit.isExhausted made = true) :
    o.decision made (.error e) = .settle .reject :=
  if_pos h

/-- A failure that may be tried again is answered as the policy says. -/
theorem Options.decision_paced {o : Options} {made : Nat} {e : HandlerError}
    (hr : e.retryable = true) (hl : o.limit.isExhausted made = false) :
    o.decision made (.error e)
      = if (o.backoff (made - 1)).stop = true then .settle .reject
        else .retry (o.backoff (made - 1)).wait := by
  have h : ¬(e.retryable = false ∨ o.limit.isExhausted made = true) := by
    rw [hr, hl]
    decide
  exact if_neg h

/-- A delivery is settled after a try because it was handled, or because it cannot be tried again or
the policy says to stop. -/
theorem Options.decision_eq_settle {o : Options} {made : Nat} {result : Except HandlerError Unit}
    {x : Settlement} (h : o.decision made result = .settle x) :
    x = .ack ∧ result = .ok () ∨ x = .reject ∧ ∃ e, result = .error e ∧
      (e.retryable = false ∨ o.limit.isExhausted made = true ∨
        (o.backoff (made - 1)).stop = true) := by
  unfold decision at h
  split at h
  · cases h
    exact .inl ⟨rfl, rfl⟩
  · rename_i e
    split at h
    · rename_i hlast
      cases h
      exact .inr ⟨rfl, e, rfl, hlast.imp_right .inl⟩
    · split at h
      · rename_i hstop
        cases h
        exact .inr ⟨rfl, e, rfl, .inr (.inr hstop)⟩
      · cases h

/-- Only an acknowledgement or a rejection is ever decided on. -/
theorem Options.decision_settle {o : Options} {made : Nat} {result : Except HandlerError Unit}
    {x : Settlement} (h : o.decision made result = .settle x) : x = .ack ∨ x = .reject :=
  (decision_eq_settle h).imp And.left And.left

/-- A delivery is tried again as the policy says, while its tries are not exhausted and the policy
does not say to stop. -/
theorem Options.decision_eq_retry {o : Options} {made : Nat} {result : Except HandlerError Unit}
    {wait : Duration} (h : o.decision made result = .retry wait) :
    o.limit.isExhausted made = false ∧ (o.backoff (made - 1)).stop = false ∧
      wait = (o.backoff (made - 1)).wait := by
  unfold decision at h
  split at h
  · cases h
  · split at h
    · cases h
    · rename_i hlimit
      rw [not_or, Bool.not_eq_true] at hlimit
      split at h
      · cases h
      · rename_i hstop
        rw [Bool.not_eq_true] at hstop
        cases h
        exact ⟨hlimit.2, hstop, rfl⟩

/-- A delivery is tried again only while its tries are not exhausted. -/
theorem Options.decision_retry {o : Options} {made : Nat} {result : Except HandlerError Unit}
    {wait : Duration} (h : o.decision made result = .retry wait) :
    o.limit.isExhausted made = false :=
  (decision_eq_retry h).1

/-! ## §3 Turns -/

/-- The tries that are counted when a delivery is taken. -/
def Setup.recorded (s : Setup) (d : Delivery) : Nat :=
  match s.redelivery with
  | .republish => d.recordedAttempts
  | .inPlace => 0

theorem Setup.recorded_of_inPlace {s : Setup} (h : s.redelivery = .inPlace) (d : Delivery) :
    s.recorded d = 0 := by
  rw [recorded, h]

theorem Setup.recorded_of_republish {s : Setup} (h : s.redelivery = .republish) (d : Delivery) :
    s.recorded d = d.recordedAttempts := by
  rw [recorded, h]

/-- The span of a delivery, as the one of a number: it is named after the destination, and started
under the context that the headers of the delivery hold. -/
def Setup.spanOf (s : Setup) (number : Nat) (d : Delivery) : Trace.Span :=
  let parent := s.telemetry.extract d.headers
  ⟨s.destination, parent, s.telemetry.tracer.start number s.destination parent⟩

/-- A delivery that was taken, with a span of its own, before it is tried. -/
def Setup.jobOf (s : Setup) (span : Nat) (d : Delivery) (h : η) : Job η :=
  ⟨d, h, s.recorded d, span, (s.spanOf span d).context⟩

/-- A delivery with one try more made at it. -/
def Job.tried (job : Job η) : Job η := { job with made := oneMoreAttempt job.made }

/-- A delivery with its tries recorded in it. -/
def Job.copied (job : Job η) : Job η :=
  { job with delivery := job.delivery.recordAttempts job.made }

/-- The delivery that is pending at a stage: taken, and not settled yet. -/
def Stage.pending? : Stage η → Option (Job η)
  | .handling job | .waiting job _ | .settling job _ => some job
  | _ => none

/-- What a listening call can do with an input at the instant `now`, given whether the subscriber is
closed: the stage it comes to and what it asks for. -/
inductive Setup.Turns (s : Setup) (closed : Bool) (now : Instant) (span : Nat) :
    Stage η → Input η → Stage η → List (Request η) → Prop where
  | dismiss : closed = true → Turns s closed now span .queued .turn .returned []
  | enter : closed = false →
      Turns s closed now span .queued .turn .opening [.openSource s.options.prefetch]
  | await (deadline : Instant) : now.add? s.options.staleTimeout = some deadline →
      Turns s closed now span .opening (.opened (.ok ())) (.reading now deadline) [.read]
  | overflow : now.add? s.options.staleTimeout = none →
      Turns s closed now span .opening (.opened (.ok ())) .crashed []
  | refused (e : BrokerError) :
      Turns s closed now span .opening (.opened (.error e))
        (.pausing (now.after s.options.restartInterval)) [.sleep s.options.restartInterval]
  | halt (since deadline : Instant) : closed = true →
      Turns s closed now span (.reading since deadline) .stop (.leaving .shutdown) [.closeSource]
  | stale (since deadline : Instant) : closed = false → deadline ≤ now →
      Turns s closed now span (.reading since deadline) .elapsed (.leaving .restart) [.closeSource]
  | take (since deadline : Instant) (d : Delivery) (h : η) : closed = false → now < deadline →
      Turns s closed now span (.reading since deadline) (.read (.ok (some (d, h))))
        (.handling (s.jobOf span d h)) [.handle (s.jobOf span d h).context d]
  | dry (since deadline : Instant) : closed = false → now < deadline →
      Turns s closed now span (.reading since deadline) (.read (.ok none))
        (.leaving .restart) [.closeSource]
  | fault (since deadline : Instant) (e : BrokerError) : closed = false → now < deadline →
      Turns s closed now span (.reading since deadline) (.read (.error e))
        (.leaving .restart) [.closeSource]
  | decide (job : Job η) (result : Except HandlerError Unit) (x : Settlement) :
      s.options.decision job.tried.made result = .settle x →
      Turns s closed now span (.handling job) (.handled result)
        (.settling job.tried x) [.settle x job.handle job.delivery]
  | defer (job : Job η) (result : Except HandlerError Unit) (wait : Duration) :
      s.options.decision job.tried.made result = .retry wait →
      Turns s closed now span (.handling job) (.handled result)
        (.waiting job.tried (now.after wait)) [.sleep wait]
  | again (job : Job η) (wake : Instant) : s.redelivery = .inPlace → wake ≤ now →
      Turns s closed now span (.waiting job wake) .elapsed (.handling job)
        [.handle job.context job.delivery]
  | copy (job : Job η) (wake : Instant) : s.redelivery = .republish → wake ≤ now →
      Turns s closed now span (.waiting job wake) .elapsed (.settling job.copied .republish)
        [.settle .republish job.handle job.copied.delivery]
  | giveBack (job : Job η) (wake : Instant) : closed = true →
      Turns s closed now span (.waiting job wake) .stop (.settling job .requeue)
        [.settle .requeue job.handle job.delivery]
  | goOn (job : Job η) (x : Settlement) (result : Except BrokerError Unit) (deadline : Instant) :
      endingAfter x result = none → now.add? s.options.staleTimeout = some deadline →
      Turns s closed now span (.settling job x) (.settled result) (.reading now deadline) [.read]
  | goOnOverflow (job : Job η) (x : Settlement) (result : Except BrokerError Unit) :
      endingAfter x result = none → now.add? s.options.staleTimeout = none →
      Turns s closed now span (.settling job x) (.settled result) .crashed []
  | giveUp (job : Job η) (x : Settlement) (result : Except BrokerError Unit) (ending : Ending) :
      endingAfter x result = some ending →
      Turns s closed now span (.settling job x) (.settled result) (.leaving ending) [.closeSource]
  | finish (result : Except BrokerError Unit) :
      Turns s closed now span (.leaving .shutdown) (.closed result) .returned []
  | restart (result : Except BrokerError Unit) :
      Turns s closed now span (.leaving .restart) (.closed result)
        (.pausing (now.after s.options.restartInterval)) [.sleep s.options.restartInterval]
  | retire (wake : Instant) : closed = true → wake ≤ now →
      Turns s closed now span (.pausing wake) .elapsed .returned []
  | reopen (wake : Instant) : closed = false → wake ≤ now →
      Turns s closed now span (.pausing wake) .elapsed .opening
        [.openSource s.options.prefetch]
  | interrupt (wake : Instant) : closed = true →
      Turns s closed now span (.pausing wake) .stop .returned []

/-! ## §4 Every step is a turn -/

/-- What a listening call answers to an input at a stage: the rows of `Setup.listen`, by name. -/
inductive Setup.Answers (s : Setup) (closed : Bool) (now : Instant) (span : Nat) :
    Stage η → Input η → Effect η → Prop where
  | entered : Answers s closed now span .queued .turn (s.nextSession closed)
  | opened : Answers s closed now span .opening (.opened (.ok ())) (s.await now)
  | refused (e : BrokerError) :
      Answers s closed now span .opening (.opened (.error e)) ((s.endSession now .restart).1,
        s.log .error "failure to open consume session" [Log.reason e.message]
          :: (s.endSession now .restart).2)
  | halted (since deadline : Instant) : closed = true →
      Answers s closed now span (.reading since deadline) .stop (leave .shutdown)
  | stale (since deadline : Instant) : closed = false → deadline ≤ now →
      Answers s closed now span (.reading since deadline) .elapsed (s.stale now since)
  | received (since deadline : Instant) (result : Except BrokerError (Option (Delivery × η))) :
      closed = false → now < deadline →
      Answers s closed now span (.reading since deadline) (.read result) (s.received span result)
  | handled (job : Job η) (result : Except HandlerError Unit) :
      Answers s closed now span (.handling job) (.handled result) (s.handled now job result)
  | rested (job : Job η) (wake : Instant) : wake ≤ now →
      Answers s closed now span (.waiting job wake) .elapsed (s.retry job)
  | handBack (job : Job η) (wake : Instant) : closed = true →
      Answers s closed now span (.waiting job wake) .stop (settle job .requeue)
  | settled (job : Job η) (x : Settlement) (result : Except BrokerError Unit) :
      Answers s closed now span (.settling job x) (.settled result) (s.settled now job x result)
  | left (ending : Ending) :
      Answers s closed now span (.leaving ending) (.closed (.ok ())) (s.endSession now ending)
  | leftFailing (ending : Ending) (e : BrokerError) :
      Answers s closed now span (.leaving ending) (.closed (.error e)) ((s.endSession now ending).1,
        s.log .warn "failure to close consume session" [Log.reason e.message]
          :: (s.endSession now ending).2)
  | paused (wake : Instant) : wake ≤ now →
      Answers s closed now span (.pausing wake) .elapsed (s.nextSession closed)
  | interrupted (wake : Instant) : closed = true →
      Answers s closed now span (.pausing wake) .stop s.finish

variable {s : Setup} {closed : Bool} {now : Instant} {span : Nat}

theorem answers_of_listen {stage : Stage η} {input : Input η} {effect : Effect η}
    (h : s.listen closed now span stage input = some effect) :
    s.Answers closed now span stage input effect := by
  unfold Setup.listen at h
  split at h
  -- the turn of the call, and the source that it has asked for
  case h_1 =>
    cases h
    exact .entered
  case h_2 =>
    cases h
    exact .opened
  case h_3 e =>
    cases h
    exact .refused e
  -- while the source is read: the end, the deadline, or what the source brings
  case h_4 since deadline =>
    split at h
    · rename_i hc
      cases h
      exact .halted since deadline hc
    · cases h
  case h_5 since deadline =>
    split at h
    · rename_i hc
      simp only [Bool.and_eq_true, Bool.not_eq_true', decide_eq_true_eq] at hc
      cases h
      exact .stale since deadline hc.1 hc.2
    · cases h
  case h_6 since deadline result =>
    split at h
    · rename_i hc
      simp only [Bool.and_eq_true, Bool.not_eq_true', decide_eq_true_eq] at hc
      cases h
      exact .received since deadline result hc.1 hc.2
    · cases h
  -- while a delivery is pending: the handler, the pause and the settlement
  case h_7 job result =>
    cases h
    exact .handled job result
  case h_8 job wake =>
    split at h
    · rename_i hw
      cases h
      exact .rested job wake hw
    · cases h
  case h_9 job wake =>
    split at h
    · rename_i hc
      cases h
      exact .handBack job wake hc
    · cases h
  case h_10 job x result =>
    cases h
    exact .settled job x result
  -- between two sessions
  case h_11 ending result =>
    cases h
    cases result with
    | ok _ => exact .left ending
    | error e => exact .leftFailing ending e
  case h_12 wake =>
    split at h
    · rename_i hw
      cases h
      exact .paused wake hw
    · cases h
  case h_13 wake =>
    split at h
    · rename_i hc
      cases h
      exact .interrupted wake hc
    · cases h
  case h_14 => cases h

private theorem turns_fail (job : Job η) (e : HandlerError) :
    s.Turns closed now span (.handling job) (.handled (.error e)) (s.fail now job.tried e).1
      (requests (s.fail now job.tried e).2) := by
  -- a try was just counted, so the subtraction that the backoff is asked with does not underflow
  obtain ⟨before, hb⟩ : ∃ before, job.tried.made = before + 1 :=
    Nat.exists_eq_succ_of_ne_zero (Nat.ne_of_gt (oneMoreAttempt_pos job.made))
  -- the tests of the code are those of the decision, in the same order
  unfold Setup.fail
  split
  · rename_i hr
    exact .decide job _ _ (Options.decision_last (.inl (by simpa using hr)))
  · rename_i hr
    split
    · rename_i hl
      exact .decide job _ _ (Options.decision_last (.inr hl))
    · rename_i hl
      have hr' : e.retryable = true := by simpa using hr
      have hl' : s.options.limit.isExhausted job.tried.made = false := by simpa using hl
      have hd := Options.decision_paced hr' hl'
      rw [hb, Nat.add_sub_cancel, ← hb] at hd
      rw [hb]
      dsimp only
      split
      · rename_i hs
        rw [if_pos hs] at hd
        exact .decide job _ _ hd
      · rename_i hs
        rw [if_neg hs] at hd
        exact .defer job _ _ hd

private theorem turns_handled (job : Job η) (result : Except HandlerError Unit) :
    s.Turns closed now span (.handling job) (.handled result) (s.handled now job result).1
      (requests (s.handled now job result).2) := by
  cases result with
  | ok _ =>
    have he : requests (s.handled now job (.ok ())).2 = [.settle .ack job.handle job.delivery] := by
      simp [Setup.handled, settle]
    rw [he]
    exact .decide job _ _ rfl
  | error e =>
    have he : requests (s.handled now job (.error e)).2 = requests (s.fail now job.tried e).2 := by
      simp [Setup.handled, Job.tried]
    rw [he]
    exact turns_fail job e

private theorem turns_await {stage : Stage η} {input : Input η}
    (hr : ∀ deadline, now.add? s.options.staleTimeout = some deadline →
      s.Turns closed now span stage input (.reading now deadline) [.read])
    (hc : now.add? s.options.staleTimeout = none →
      s.Turns closed now span stage input .crashed []) :
    s.Turns closed now span stage input (s.await now).1
      (requests (s.await now : Effect η).2) := by
  cases hn : now.add? s.options.staleTimeout with
  | some deadline =>
    have he : (s.await now : Effect η) = (.reading now deadline, [.asked .read]) := by
      simp only [Setup.await, hn]
    rw [he]
    exact hr deadline hn
  | none =>
    have he : (s.await now : Effect η) = (.crashed, []) := by
      simp only [Setup.await, hn]
    rw [he]
    exact hc hn

private theorem turns_settled (job : Job η) (x : Settlement) (result : Except BrokerError Unit) :
    s.Turns closed now span (.settling job x) (.settled result) (s.settled now job x result).1
      (requests (s.settled now job x result).2) := by
  -- a settlement that fails is logged, and it ends the session only if no copy could be published
  cases hx : endingAfter x result with
  | some ending =>
    have hs : (s.settled now job x result).1 = .leaving ending := by
      simp only [Setup.settled, hx, leave]
    have he : requests (s.settled now job x result).2 = [.closeSource] := by
      cases result <;> simp [Setup.settled, hx, leave]
    rw [hs, he]
    exact .giveUp job x result ending hx
  | none =>
    have hs : (s.settled now job x result).1 = (s.await now).1 := by
      simp only [Setup.settled, hx]
    have he : requests (s.settled now job x result).2 = requests (s.await now : Effect η).2 := by
      cases result <;> simp [Setup.settled, hx]
    rw [hs, he]
    exact turns_await (fun deadline => .goOn job x result deadline hx)
      (.goOnOverflow job x result hx)

private theorem turns_endSession (ending : Ending) (result : Except BrokerError Unit) :
    s.Turns closed now span (.leaving ending) (.closed result) (s.endSession now ending).1
      (requests (s.endSession now ending : Effect η).2) := by
  cases ending with
  | shutdown => exact .finish result
  | restart => exact .restart result

private theorem turns_received (since deadline : Instant)
    (result : Except BrokerError (Option (Delivery × η))) (hc : closed = false)
    (hn : now < deadline) :
    s.Turns closed now span (.reading since deadline) (.read result) (s.received span result).1
      (requests (s.received span result).2) := by
  match result with
  | .ok (some (d, h)) =>
    have he : requests (s.received span (.ok (some (d, h)))).2
        = [.handle (s.jobOf span d h).context d] := by
      simp [Setup.received, Setup.take, Setup.jobOf, Setup.spanOf, Trace.Telemetry.consumerSpan]
    rw [he]
    exact .take since deadline d h hc hn
  | .ok none => exact .dry since deadline hc hn
  | .error e => exact .fault since deadline e hc hn

private theorem turns_nextSession {stage : Stage η} {input : Input η}
    (hr : closed = true → s.Turns closed now span stage input .returned [])
    (ho : closed = false →
      s.Turns closed now span stage input .opening [.openSource s.options.prefetch]) :
    s.Turns closed now span stage input (s.nextSession closed).1
      (requests (s.nextSession closed : Effect η).2) := by
  unfold Setup.nextSession
  cases closed with
  | true => exact hr rfl
  | false => exact ho rfl

private theorem turns_retry (job : Job η) (wake : Instant) (hw : wake ≤ now) :
    s.Turns closed now span (.waiting job wake) .elapsed (s.retry job).1
      (requests (s.retry job).2) := by
  unfold Setup.retry
  cases hr : s.redelivery with
  | inPlace => exact .again job wake hr hw
  | republish => exact .copy job wake hr hw

theorem Setup.Answers.turns {stage : Stage η} {input : Input η} {effect : Effect η}
    (h : s.Answers closed now span stage input effect) :
    s.Turns closed now span stage input effect.1 (requests effect.2) := by
  cases h with
  | entered => exact turns_nextSession .dismiss .enter
  | opened => exact turns_await .await .overflow
  | refused e => exact .refused e
  | halted since deadline hc => exact .halt since deadline hc
  | stale since deadline hc hle => exact .stale since deadline hc hle
  | received since deadline result hc hlt => exact turns_received since deadline result hc hlt
  | handled job result => exact turns_handled job result
  | rested job wake hw => exact turns_retry job wake hw
  | handBack job wake hc => exact .giveBack job wake hc
  | settled job x result => exact turns_settled job x result
  | left ending => exact turns_endSession ending _
  | leftFailing ending e => exact turns_endSession ending _
  | paused wake hw => exact turns_nextSession (.retire wake · hw) (.reopen wake · hw)
  | interrupted wake hc => exact .interrupt wake hc

/-- Every step of a listening call is one of its turns. -/
theorem turns_of_listen {stage next : Stage η} {input : Input η} {events : List (Event η)}
    (h : s.listen closed now span stage input = some (next, events)) :
    s.Turns closed now span stage input next (requests events) :=
  (answers_of_listen h).turns

end Courier.Subscriber
