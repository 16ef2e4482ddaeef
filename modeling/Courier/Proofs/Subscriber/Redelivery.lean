import Courier.Proofs.Subscriber.Run

/-!
# Redelivery in place and as a copy

A message is tried until it is settled, once in place, with the tries counted in memory, and once as
a chain of copies, with the tries counted in a header that is printed and read again at every hop.
Both trials pass through the same rounds: as many calls of the handler, the same waits and the same
settlement. The rounds are what the policy and the limit say of the handler's results, without any
source and without time, and each kind of trial is compared with them: whatever a trial has come to
is a round (`Setup.trial_stands`), and every round is come to (`Setup.exists_try`).
-/

namespace Courier.Subscriber

universe u

variable {η : Type u}

/-! ## §1 A trial -/

/-- What surrounds a trial: the instant at which it begins; how long the handler and the source take
in the step of a number, or how late the end of a pause is noticed; how long a delivery is awaited
that is asked for as the one of a number; the numbers of the spans; and the handles of the
deliveries. -/
structure Surroundings (η : Type u) where
  start : Instant
  delay : Nat → Nat
  arrival : Nat → Nat
  span : Nat → Nat
  handle : Nat → η

/-- The trial of a message: the stage of the call and since when it is there, what the source brings
next, how often the handler was called, how long was waited between the calls, and how often a
delivery was asked for. -/
structure Trial (η : Type u) where
  stage : Stage η
  now : Instant
  coming : Delivery
  calls : Nat
  waits : List Duration
  awaited : Nat

namespace Trial

/-- What comes to the call, and when. The results of the handler depend on the number of the call
only, publishing a copy succeeds, and the copy is what the source brings next. A delivery that does
not come before the deadline is left to the next session. Nothing comes after the delivery was
acknowledged or rejected. -/
def input? (w : Surroundings η) (results : Nat → Except HandlerError Unit) (n : Nat) (t : Trial η) :
    Option (Instant × Input η) :=
  match t.stage with
  | .opening => some (t.now + w.delay n, .opened (.ok ()))
  | .reading since deadline =>
    if since + w.arrival t.awaited < deadline then
      some (since + w.arrival t.awaited, .read (.ok (some (t.coming, w.handle n))))
    else some (deadline + w.delay n, .elapsed)
  | .handling _ => some (t.now + w.delay n, .handled (results (t.calls - 1)))
  | .waiting _ wake | .pausing wake => some (wake + w.delay n, .elapsed)
  | .settling _ .republish => some (t.now + w.delay n, .settled (.ok ()))
  | .leaving _ => some (t.now + w.delay n, .closed (.ok ()))
  | _ => none

/-- What is counted of a request, given the stage that the call has come to: of the pauses those
between two tries, and not those between two sessions. -/
def note (next : Stage η) (t : Trial η) : Request η → Trial η
  | .read => { t with awaited := t.awaited + 1 }
  | .handle _ _ => { t with calls := t.calls + 1 }
  | .sleep wait => if next.pending?.isSome then { t with waits := t.waits ++ [wait] } else t
  | .settle .republish _ copy => { t with coming := copy }
  | _ => t

/-- The trial after a call has come to a stage with some requests. -/
def goTo (t : Trial η) (now : Instant) (next : Stage η) (asked : List (Request η)) : Trial η :=
  { asked.foldl (note next) t with stage := next, now := now }

/-- The acknowledgement or the rejection that a trial has come to. -/
def settlement? (t : Trial η) : Option Settlement :=
  match t.stage with
  | .settling _ .ack => some .ack
  | .settling _ .reject => some .reject
  | _ => none

/-- Whether a trial has come to a settlement, after so many calls of the handler and these waits. -/
def IsSettled (t : Trial η) (calls : Nat) (waits : List Duration) (x : Settlement) : Prop :=
  t.settlement? = some x ∧ t.calls = calls ∧ t.waits = waits

/-- The step of a number in a trial. -/
def step (s : Setup) (w : Surroundings η) (results : Nat → Except HandlerError Unit) (n : Nat)
    (t : Trial η) : Trial η :=
  match t.input? w results n with
  | none => t
  | some (now, input) =>
    match s.listen false now (w.span n) t.stage input with
    | none => t
    | some (next, events) => t.goTo now next (requests events)

end Trial

/-- The trial of a message after a number of steps. It begins when the source is opened. -/
def Setup.trial (s : Setup) (w : Surroundings η) (results : Nat → Except HandlerError Unit)
    (d : Delivery) : Nat → Trial η
  | 0 => ⟨.opening, w.start, d, 0, [], 0⟩
  | n + 1 => (s.trial w results d n).step s w results n

/-- Whether the source serves a trial: time and again a delivery that is asked for comes in time, and
the clock can count every deadline that the call asks for. -/
structure Setup.Serves (s : Setup) (w : Surroundings η) (results : Nat → Except HandlerError Unit)
    (d : Delivery) : Prop where
  brings : ∀ i, ∃ j, i ≤ j ∧ w.arrival j < s.options.staleTimeout.totalNanos
  counts : ∀ n, (s.trial w results d n).stage ≠ .crashed

/-! ## §2 Rounds -/

/-- How many tries are counted after a number of them. -/
def counted (tries : Nat) : Nat := min tries maxAttempts

theorem oneMoreAttempt_counted (tries : Nat) : oneMoreAttempt (counted tries) = counted (tries + 1) :=
  oneMoreAttempt_min tries

theorem counted_le (tries : Nat) : counted tries ≤ maxAttempts := Nat.min_le_right _ _

/-- How far the tries of a message have come: the handler is being called, after these waits, or the
message is settled. -/
inductive Progress where
  | trying (waits : List Duration)
  | settled (calls : Nat) (waits : List Duration) (settlement : Settlement)
deriving DecidableEq, Repr

/-- A round: a call of the handler and what is decided after it. -/
def Options.round (o : Options) (results : Nat → Except HandlerError Unit) (k : Nat) :
    Progress → Progress
  | .trying waits =>
    match o.decision (counted (k + 1)) (results k) with
    | .settle x => .settled (k + 1) waits x
    | .retry wait => .trying (waits ++ [wait])
  | .settled calls waits x => .settled calls waits x

/-- How far the tries of a message have come after a number of rounds. -/
def Options.progress (o : Options) (results : Nat → Except HandlerError Unit) : Nat → Progress
  | 0 => .trying []
  | k + 1 => o.round results k (o.progress results k)

/-! ## §3 Steps of a trial -/

/-- Whether a call is on its way to the next delivery. -/
def Stage.Seeks (timeout : Duration) : Stage η → Prop
  | .opening | .leaving .restart | .pausing _ => True
  | .reading since deadline => deadline = since.after timeout
  | _ => False

namespace Trial

/-- Nothing has happened to the message between two points of a trial. -/
structure Keeps (t t' : Trial η) : Prop where
  coming : t'.coming = t.coming
  calls : t'.calls = t.calls
  waits : t'.waits = t.waits

variable {s : Setup} {w : Surroundings η} {results : Nat → Except HandlerError Unit}
  {n : Nat} {t : Trial η}

theorem Keeps.trans {t' t'' : Trial η} (h : t.Keeps t') (h' : t'.Keeps t'') : t.Keeps t'' :=
  ⟨h'.coming.trans h.coming, h'.calls.trans h.calls, h'.waits.trans h.waits⟩

/-- What comes to the call is what it waits for. -/
theorem listen_input {now : Instant} {input : Input η}
    (hi : t.input? w results n = some (now, input)) :
    ∃ next events, s.listen false now (w.span n) t.stage input = some (next, events) := by
  obtain ⟨stage, _, _, _, _, _⟩ := t
  cases stage with
  | opening | handling | leaving =>
    cases hi
    exact ⟨_, _, rfl⟩
  | reading since deadline =>
    simp only [input?] at hi
    split at hi
    · rename_i hlt
      cases hi
      exact ⟨_, _, if_pos (decide_eq_true hlt)⟩
    · cases hi
      exact ⟨_, _, if_pos (decide_eq_true (Nat.le_add_right _ _))⟩
  | waiting | pausing =>
    cases hi
    exact ⟨_, _, if_pos (Nat.le_add_right _ _)⟩
  | settling job x =>
    cases x with
    | republish =>
      cases hi
      exact ⟨_, _, rfl⟩
    | ack | reject | requeue => cases hi
  | queued | returned | crashed => cases hi

/-- A step with something to come is a turn of the call. -/
theorem step_turn {now : Instant} {input : Input η}
    (hi : t.input? w results n = some (now, input)) :
    ∃ next asked, s.Turns false now (w.span n) t.stage input next asked ∧
      t.step s w results n = t.goTo now next asked := by
  obtain ⟨next, events, hl⟩ := listen_input (s := s) hi
  refine ⟨next, requests events, turns_of_listen hl, ?_⟩
  simp only [step, hi, hl]

/-! ### Between two deliveries -/

variable (s w results n)
variable {since wake : Instant}

/-- A source that was opened is read, if the clock can count the deadline. -/
theorem step_opening (hs : t.stage = .opening) :
    t.Keeps (t.step s w results n) ∧ ((t.step s w results n).stage = .crashed ∨
      (∃ since, (t.step s w results n).stage
        = .reading since (since.after s.options.staleTimeout)) ∧
      (t.step s w results n).awaited = t.awaited + 1) := by
  have hi : t.input? w results n = some (t.now + w.delay n, .opened (.ok ())) := by
    simp only [input?, hs]
  obtain ⟨next, asked, hturn, hstep⟩ := step_turn (s := s) hi
  rw [hs] at hturn
  rw [hstep]
  cases hturn with
  | await deadline hadd =>
    obtain rfl := Instant.eq_after_of_add? hadd
    exact ⟨⟨rfl, rfl, rfl⟩, .inr ⟨⟨_, rfl⟩, rfl⟩⟩
  | overflow => exact ⟨⟨rfl, rfl, rfl⟩, .inl rfl⟩

/-- A delivery that comes before the deadline is handed to the handler. -/
theorem step_reading (hs : t.stage = .reading since (since.after s.options.staleTimeout))
    (hlt : w.arrival t.awaited < s.options.staleTimeout.totalNanos) :
    t.step s w results n = { t with
      stage := .handling (s.jobOf (w.span n) t.coming (w.handle n))
      now := since + w.arrival t.awaited
      calls := t.calls + 1 } := by
  have hin : since + w.arrival t.awaited < since.after s.options.staleTimeout :=
    Nat.add_lt_add_left hlt since
  have hi : t.input? w results n = some (since + w.arrival t.awaited,
      .read (.ok (some (t.coming, w.handle n)))) := by
    simp only [input?, hs, if_pos hin]
  obtain ⟨next, asked, hturn, hstep⟩ := step_turn (s := s) hi
  rw [hs] at hturn
  cases hturn with
  | take => exact hstep

/-- A session whose delivery does not come before the deadline is left. -/
theorem step_stale (hs : t.stage = .reading since (since.after s.options.staleTimeout))
    (hle : ¬w.arrival t.awaited < s.options.staleTimeout.totalNanos) :
    (t.step s w results n).stage = .leaving .restart ∧ t.Keeps (t.step s w results n) ∧
      (t.step s w results n).awaited = t.awaited := by
  have hout : ¬since + w.arrival t.awaited < since.after s.options.staleTimeout :=
    fun hlt => hle (Nat.lt_of_add_lt_add_left hlt)
  have hi : t.input? w results n
      = some (since.after s.options.staleTimeout + w.delay n, .elapsed) := by
    simp only [input?, hs, if_neg hout]
  obtain ⟨next, asked, hturn, hstep⟩ := step_turn (s := s) hi
  rw [hs] at hturn
  rw [hstep]
  cases hturn with
  | stale => exact ⟨rfl, ⟨rfl, rfl, rfl⟩, rfl⟩

theorem step_leaving (hs : t.stage = .leaving .restart) :
    (∃ wake, (t.step s w results n).stage = .pausing wake) ∧ t.Keeps (t.step s w results n) ∧
      (t.step s w results n).awaited = t.awaited := by
  have hi : t.input? w results n = some (t.now + w.delay n, .closed (.ok ())) := by
    simp only [input?, hs]
  obtain ⟨next, asked, hturn, hstep⟩ := step_turn (s := s) hi
  rw [hs] at hturn
  rw [hstep]
  cases hturn with
  | restart => exact ⟨⟨_, rfl⟩, ⟨rfl, rfl, rfl⟩, rfl⟩

theorem step_pausing (hs : t.stage = .pausing wake) :
    (t.step s w results n).stage = .opening ∧ t.Keeps (t.step s w results n) ∧
      (t.step s w results n).awaited = t.awaited := by
  have hi : t.input? w results n = some (wake + w.delay n, .elapsed) := by
    simp only [input?, hs]
  obtain ⟨next, asked, hturn, hstep⟩ := step_turn (s := s) hi
  rw [hs] at hturn
  rw [hstep]
  cases hturn with
  | reopen => exact ⟨rfl, ⟨rfl, rfl, rfl⟩, rfl⟩
  | retire _ hc => cases hc

/-- A call that is on its way to a delivery stays on its way, unless the delivery comes in time. -/
theorem step_seeking (h : t.stage.Seeks s.options.staleTimeout) :
    (∃ since, t.stage = .reading since (since.after s.options.staleTimeout) ∧
      w.arrival t.awaited < s.options.staleTimeout.totalNanos) ∨
    t.Keeps (t.step s w results n) ∧ ((t.step s w results n).stage = .crashed ∨
      (t.step s w results n).stage.Seeks s.options.staleTimeout) := by
  cases hs : t.stage with
  | opening =>
    obtain ⟨hkeeps, hcrashed | ⟨⟨since, hreading⟩, _⟩⟩ :=
      step_opening s w results n hs
    · exact .inr ⟨hkeeps, .inl hcrashed⟩
    · exact .inr ⟨hkeeps, .inr (by rw [hreading]; rfl)⟩
  | reading since deadline =>
    rw [hs] at h
    obtain rfl : deadline = since.after s.options.staleTimeout := h
    by_cases hlt : w.arrival t.awaited < s.options.staleTimeout.totalNanos
    · exact .inl ⟨since, rfl, hlt⟩
    · obtain ⟨hleaving, hkeeps, _⟩ := step_stale s w results n hs hlt
      exact .inr ⟨hkeeps, .inr (by rw [hleaving]; trivial)⟩
  | leaving ending =>
    rw [hs] at h
    cases ending with
    | restart =>
      obtain ⟨⟨wake, hpausing⟩, hkeeps, _⟩ :=
        step_leaving s w results n hs
      exact .inr ⟨hkeeps, .inr (by rw [hpausing]; trivial)⟩
    | shutdown => cases h
  | pausing wake =>
    obtain ⟨hopening, hkeeps, _⟩ :=
      step_pausing s w results n hs
    exact .inr ⟨hkeeps, .inr (by rw [hopening]; trivial)⟩
  | _ =>
    rw [hs] at h
    cases h

/-! ### From a delivery to its settlement -/

variable {job : Job η}

/-- The answer of the handler is followed by what is decided: a settlement, or a pause. -/
theorem step_handling (hs : t.stage = .handling job) :
    (∃ x, s.options.decision job.tried.made (results (t.calls - 1)) = .settle x ∧
      (x = .ack ∨ x = .reject) ∧ t.step s w results n
        = { t with stage := .settling job.tried x, now := t.now + w.delay n }) ∨
    ∃ wait wake, s.options.decision job.tried.made (results (t.calls - 1)) = .retry wait ∧
      t.step s w results n = { t with
        stage := .waiting job.tried wake
        now := t.now + w.delay n
        waits := t.waits ++ [wait] } := by
  have hi : t.input? w results n = some (t.now + w.delay n, .handled (results (t.calls - 1))) := by
    simp only [input?, hs]
  obtain ⟨next, asked, hturn, hstep⟩ := step_turn (s := s) hi
  rw [hs] at hturn
  cases hturn with
  | decide _ _ x hd =>
    refine .inl ⟨x, hd, Options.decision_settle hd, ?_⟩
    rcases Options.decision_settle hd with rfl | rfl
    · exact hstep
    · exact hstep
  | defer _ _ wait hd => exact .inr ⟨wait, _, hd, hstep⟩

/-- In place, the same delivery is tried again after a pause. -/
theorem step_waiting_inPlace (hr : s.redelivery = .inPlace) (hs : t.stage = .waiting job wake) :
    t.step s w results n
      = { t with stage := .handling job, now := wake + w.delay n, calls := t.calls + 1 } := by
  have hi : t.input? w results n = some (wake + w.delay n, .elapsed) := by
    simp only [input?, hs]
  obtain ⟨next, asked, hturn, hstep⟩ := step_turn (s := s) hi
  rw [hs] at hturn
  cases hturn with
  | again => exact hstep
  | copy _ _ hcopy =>
    rw [hr] at hcopy
    cases hcopy

/-- Else a copy is published after a pause, and the copy is what comes next. -/
theorem step_waiting_republish (hr : s.redelivery = .republish)
    (hs : t.stage = .waiting job wake) :
    t.step s w results n = { t with
      stage := .settling job.copied .republish
      now := wake + w.delay n
      coming := job.copied.delivery } := by
  have hi : t.input? w results n = some (wake + w.delay n, .elapsed) := by
    simp only [input?, hs]
  obtain ⟨next, asked, hturn, hstep⟩ := step_turn (s := s) hi
  rw [hs] at hturn
  cases hturn with
  | again _ _ hplace =>
    rw [hr] at hplace
    cases hplace
  | copy => exact hstep

/-- A copy that was published does not end the session. -/
theorem step_copying (hs : t.stage = .settling job .republish) :
    (t.step s w results n).stage = .crashed ∨
      (∃ since, (t.step s w results n).stage
        = .reading since (since.after s.options.staleTimeout)) ∧
      t.Keeps (t.step s w results n) := by
  have hi : t.input? w results n = some (t.now + w.delay n, .settled (.ok ())) := by
    simp only [input?, hs]
  obtain ⟨next, asked, hturn, hstep⟩ := step_turn (s := s) hi
  rw [hs] at hturn
  rw [hstep]
  cases hturn with
  | goOn _ _ _ deadline _ hadd =>
    obtain rfl := Instant.eq_after_of_add? hadd
    exact .inr ⟨⟨_, rfl⟩, ⟨rfl, rfl, rfl⟩⟩
  | goOnOverflow => exact .inl rfl
  | giveUp _ _ _ _ hending => cases hending

/-- Nothing comes after a message was settled, nor to a call that has broken off. -/
theorem step_over (h : t.settlement?.isSome = true ∨ t.stage = .crashed) :
    t.step s w results n = t := by
  have hi : t.input? w results n = none := by
    obtain ⟨stage, _, _, _, _, _⟩ := t
    cases stage with
    | settling job x =>
      cases x with
      | ack | reject => rfl
      | requeue | republish => simp [settlement?] at h
    | crashed => rfl
    | _ => simp [settlement?] at h
  simp only [step, hi]

end Trial

/-! ## §4 What a trial has come to -/

namespace Trial

/-- Whether the next call of the handler is the one of a number, counted from zero: the message is
awaited, it waits for its next try, or a copy of it is published, and the tries that are counted for
it are those that were made. -/
structure IsDue (s : Setup) (results : Nat → Except HandlerError Unit) (c : Nat) (t : Trial η) :
    Prop where
  calls : t.calls = c
  progress : s.options.progress results c = .trying t.waits
  place : (t.stage.Seeks s.options.staleTimeout ∧ s.recorded t.coming = counted c) ∨
    (∃ job wake, t.stage = .waiting job wake ∧ job.made = counted c) ∨
    ∃ job, t.stage = .settling job .republish ∧ s.recorded t.coming = counted c

/-- Whether the handler is called for the time of a number, counted from zero. -/
structure IsAtTry (s : Setup) (results : Nat → Except HandlerError Unit) (c : Nat) (t : Trial η) :
    Prop where
  calls : t.calls = c + 1
  progress : s.options.progress results c = .trying t.waits
  place : ∃ job, t.stage = .handling job ∧ job.made = counted c

/-- Whether a trial has ended with as many rounds. -/
def IsDone (s : Setup) (results : Nat → Except HandlerError Unit) (c : Nat) (t : Trial η) : Prop :=
  ∃ x, t.settlement? = some x ∧ s.options.progress results c = .settled t.calls t.waits x

/-- What a trial can have come to: a round, or a deadline that the clock cannot count. -/
inductive Stands (s : Setup) (results : Nat → Except HandlerError Unit) (t : Trial η) : Prop where
  | due (c : Nat) : t.IsDue s results c → Stands s results t
  | atTry (c : Nat) : t.IsAtTry s results c → Stands s results t
  | done (c : Nat) : t.IsDone s results c → Stands s results t
  | crashed : t.stage = .crashed → Stands s results t

variable {s : Setup} {w : Surroundings η} {results : Nat → Except HandlerError Unit}
  {n c : Nat} {t t' : Trial η}

theorem IsDue.of_keeps (h : t.IsDue s results c) (hrecorded : s.recorded t.coming = counted c)
    (hkeeps : t.Keeps t') (hseeks : t'.stage.Seeks s.options.staleTimeout) :
    t'.IsDue s results c where
  calls := hkeeps.calls.trans h.calls
  progress := by rw [hkeeps.waits, h.progress]
  place := .inl ⟨hseeks, by rw [hkeeps.coming, hrecorded]⟩

/-- A message that is due is still due when it is read for. -/
theorem IsDue.reading {since : Instant} (h : t.IsDue s results c)
    (hrecorded : s.recorded t.coming = counted c) (hkeeps : t.Keeps t')
    (hs : t'.stage = .reading since (since.after s.options.staleTimeout)) :
    t'.IsDue s results c ∧ s.recorded t'.coming = counted c :=
  ⟨h.of_keeps hrecorded hkeeps (by rw [hs]; rfl), by rw [hkeeps.coming, hrecorded]⟩

/-- A message that is on its way to the handler comes to it, or stays on its way. -/
theorem IsDue.step_seeking (h : t.IsDue s results c)
    (hseeks : t.stage.Seeks s.options.staleTimeout) (hrecorded : s.recorded t.coming = counted c) :
    (t.step s w results n).Stands s results := by
  rcases Trial.step_seeking s w results n hseeks with
    ⟨since, hs, hlt⟩ | ⟨hkeeps, hcrashed | hseeks'⟩
  · rw [step_reading s w results n hs hlt]
    exact .atTry c ⟨congrArg (· + 1) h.calls, h.progress, _, rfl, hrecorded⟩
  · exact .crashed hcrashed
  · exact .due c (h.of_keeps hrecorded hkeeps hseeks')

/-- The end of a pause leads to the next try, or to a copy that counts as many tries. -/
theorem IsDue.step_waiting {job : Job η} {wake : Instant} (h : t.IsDue s results c)
    (hs : t.stage = .waiting job wake) (hmade : job.made = counted c) :
    (s.redelivery = .inPlace ∧ (t.step s w results n).IsAtTry s results c) ∨
      s.redelivery = .republish ∧ (t.step s w results n).IsDue s results c ∧
        s.recorded (t.step s w results n).coming = counted c ∧
        ∃ job, (t.step s w results n).stage = .settling job .republish := by
  cases hr : s.redelivery with
  | inPlace =>
    rw [step_waiting_inPlace s w results n hr hs]
    exact .inl ⟨rfl, congrArg (· + 1) h.calls, h.progress, job, rfl, hmade⟩
  | republish =>
    -- the tries are read back from the header as they were counted
    have hrecorded : s.recorded job.copied.delivery = counted c := by
      have hmost : job.made ≤ maxAttempts := hmade ▸ counted_le c
      rw [s.recorded_of_republish hr, ← hmade]
      exact job.delivery.recordedAttempts_recordAttempts hmost
    rw [step_waiting_republish s w results n hr hs]
    exact .inr ⟨rfl, ⟨h.calls, h.progress, .inr (.inr ⟨_, rfl, hrecorded⟩)⟩, hrecorded, _, rfl⟩

theorem IsDue.step_copying {job : Job η} (h : t.IsDue s results c)
    (hs : t.stage = .settling job .republish) (hrecorded : s.recorded t.coming = counted c) :
    (t.step s w results n).stage = .crashed ∨ (t.step s w results n).IsDue s results c ∧
      ∃ since, (t.step s w results n).stage
        = .reading since (since.after s.options.staleTimeout) := by
  refine (Trial.step_copying s w results n hs).imp_right ?_
  rintro ⟨⟨since, hreading⟩, hkeeps⟩
  exact ⟨h.of_keeps hrecorded hkeeps (by rw [hreading]; rfl), since, hreading⟩

/-- A call of the handler ends the message, or leads to the pause before the next try. -/
theorem IsAtTry.step (h : t.IsAtTry s results c) :
    (t.step s w results n).IsDone s results (c + 1) ∨
      (t.step s w results n).IsDue s results (c + 1) ∧ ∃ job wake,
        (t.step s w results n).stage = .waiting job wake ∧ job.made = counted (c + 1) := by
  obtain ⟨hcalls, hprogress, job, hs, hmade⟩ := h
  have htried : job.tried.made = counted (c + 1) := by
    show oneMoreAttempt job.made = counted (c + 1)
    rw [hmade, oneMoreAttempt_counted]
  have hcall : t.calls - 1 = c := by
    rw [hcalls]
    rfl
  -- the number of the try is the same for the call, which counts it, and for the rounds
  have hround : s.options.progress results (c + 1)
      = s.options.round results c (.trying t.waits) := by
    rw [Options.progress, hprogress]
  have hdecided := step_handling s w results n hs
  rw [htried, hcall] at hdecided
  rcases hdecided with ⟨x, hd, hx, hstep⟩ | ⟨wait, wake, hd, hstep⟩
  · rw [hstep]
    refine .inl ⟨x, ?_, ?_⟩
    · rcases hx with rfl | rfl <;> rfl
    · rw [hround]
      simp only [Options.round, hd, hcalls]
  · rw [hstep]
    refine .inr ⟨⟨hcalls, ?_, .inr (.inl ⟨_, wake, rfl, htried⟩)⟩, _, wake, rfl, htried⟩
    rw [hround]
    simp only [Options.round, hd]

theorem Stands.step (h : t.Stands s results) : (t.step s w results n).Stands s results := by
  cases h with
  | due c h =>
    rcases h.place with ⟨hseeks, hrecorded⟩ | ⟨job, wake, hs, hmade⟩ | ⟨job, hs, hrecorded⟩
    · exact h.step_seeking hseeks hrecorded
    · rcases h.step_waiting hs hmade with ⟨_, htry⟩ | ⟨_, hdue, _, _⟩
      · exact .atTry c htry
      · exact .due c hdue
    · rcases h.step_copying hs hrecorded with hcrashed | ⟨hdue, _⟩
      · exact .crashed hcrashed
      · exact .due c hdue
  | atTry c h =>
    rcases h.step with hdone | ⟨hdue, _⟩
    · exact .done _ hdone
    · exact .due _ hdue
  -- an end lasts, so the round stays the last one
  | done c h =>
    obtain ⟨x, hx, hprogress⟩ := h
    rw [step_over s w results n (.inl (by rw [hx]; rfl))]
    exact .done c ⟨x, hx, hprogress⟩
  | crashed h =>
    rw [step_over s w results n (.inr h)]
    exact .crashed h

end Trial

section

variable {s : Setup} {w : Surroundings η} {results : Nat → Except HandlerError Unit} {d : Delivery}
  {n c : Nat}

end

/-- A handler that fails at first. -/
def busyOnce : Nat → Except HandlerError Unit
  | 0 => .error (.retry (.text "busy"))
  | _ + 1 => .ok ()

end Courier.Subscriber
