import Courier.Proofs.Subscriber.Run
import Courier.Proofs.Subscriber.Staleness
import Courier.Settings.Pacing

/-!
# Progress of a subscriber

A subscriber is of use if the handler is called at all: over a source that is opened at once and
brings a delivery at once, in its first session. What such a session asks for is its course, and it
is the same however the steps fall (`PromptRun.course`). It is that of a delivery that is handled if
and only if the deadline is later than the beginning. So of the settings that are accepted, those
with no time after which a session is stale come to nothing: every session is stale before anything
is read (`handlesFirst_of_accepted`).
-/

namespace Courier.Subscriber

universe u

variable {η : Type u} {setup : Setup} {clock now : Instant} {d : Delivery} {handle : η}
  {history : List (Beat η)} {s s' : Subscriber η} {stage next : Stage η} {input : Input η}
  {span n taken t : Nat} {before asked : List (Request η)}

/-! ## §1 Sources that answer at once -/

/-- Whether an input comes at once, if a source opens at once and brings a delivery at once. -/
def Input.IsPrompt (d : Delivery) (handle : η) (input : Input η) : Prop :=
  input.isOwn = true ∨ input = .opened (.ok ()) ∨ input = .read (.ok (some (d, handle)))

/-- Whether a label stands for a step that is taken at once. Nobody else listens, and nobody closes
the subscriber. -/
def Label.IsPrompt (d : Delivery) (handle : η) : Label η → Prop
  | .input _ input => input.IsPrompt d handle
  | .turn _ => True
  | .listen | .close => False

/-- What a call to a new subscriber comes to at the instant at which it begins to listen. -/
inductive PromptRun (setup : Setup) (now : Instant) (d : Delivery) (handle : η) :
    List (Beat η) → Subscriber η → Prop where
  | start : PromptRun setup now d handle [] (enqueue .new (.listening .queued))
  | step {history : List (Beat η)} {s s' : Subscriber η} {events : List (Event η)}
      (label : Label η) : PromptRun setup now d handle history s → label.IsPrompt d handle →
      s.step setup now label = some (s', events) →
      PromptRun setup now d handle (⟨now, label, events, s'⟩ :: history) s'

/-- What was asked for in a run, the first request first. -/
def askedFor (history : List (Beat η)) : List (Request η) :=
  history.reverse.flatMap fun beat => requests beat.events

theorem askedFor_cons (beat : Beat η) (history : List (Beat η)) :
    askedFor (beat :: history) = askedFor history ++ requests beat.events := by
  simp [askedFor]

/-- A subscriber that is not closed, with one call to it, which listens and has its turn. -/
structure IsAlone (s : Subscriber η) (stage : Stage η) : Prop where
  isOpen : s.isClosed = false
  only : s.tasks = [.listening stage]
  turn : stage.isOver = false → s.lock.isHeldBy 0 = true

theorem IsAlone.move {label : Label η} (h : s.IsAlone stage) (hprompt : label.IsPrompt d handle)
    (hm : Move setup now s label asked s') :
    ∃ input next, input.IsPrompt d handle ∧
      setup.Turns false now (s.taken + 1) stage input next asked ∧ s'.IsAlone next ∧
      s'.taken = if input.takes then s.taken + 1 else s.taken := by
  have honly : ∀ {t task}, s.tasks[t]? = some task → t = 0 ∧ task = .listening stage := by
    intro t task htask
    rw [h.only] at htask
    cases t with
    | zero => exact ⟨rfl, (Option.some.inj htask).symm⟩
    | succ t => cases htask
  cases hm with
  | listen | close => cases hprompt
  | depart t _ hclosing => cases (honly hclosing).2
  | turn t input stage' next _ hheld hstage hturn =>
    obtain ⟨rfl, hsame⟩ := honly hstage
    cases hsame
    rw [h.isOpen] at hturn
    refine ⟨input, next, hprompt, hturn, ⟨h.isOpen, ?_, fun hover => ?_⟩, rfl⟩
    · show s.tasks.set 0 (.listening next) = [.listening next]
      rw [h.only]
      rfl
    · show (if next.isOver then s.lock.release else s.lock).isHeldBy 0 = true
      rw [hover]
      exact hheld

/-! ## §2 The course of a first session -/

/-- What a first session asks for, if nothing is missing: it cannot begin if no deadline can be
counted, and it ends before anything is read if the deadline has come at once. The delivery is handed
to the handler in the context of the first span. -/
def Setup.course (setup : Setup) (now : Instant) (d : Delivery) : List (Request η) :=
  .openSource setup.options.prefetch ::
    match now.add? setup.options.staleTimeout with
    | none => []
    | some deadline => .read ::
      if now < deadline then [.handle (setup.spanOf 1 d).context d] else [.closeSource]

/-- Where a call is after a number of steps, how many deliveries it has taken, and what it has asked
for. -/
inductive Reached (setup : Setup) (now : Instant) (d : Delivery) :
    Nat → Nat → Stage η → List (Request η) → Prop where
  | queued : Reached setup now d 0 0 .queued []
  | opening : Reached setup now d 1 0 .opening [.openSource setup.options.prefetch]
  | crashed : now.add? setup.options.staleTimeout = none →
      Reached setup now d 2 0 .crashed [.openSource setup.options.prefetch]
  | reading (deadline : Instant) : now.add? setup.options.staleTimeout = some deadline →
      Reached setup now d 2 0 (.reading now deadline) [.openSource setup.options.prefetch, .read]
  | handling (job : Job η) (deadline : Instant) :
      now.add? setup.options.staleTimeout = some deadline → now < deadline →
      Reached setup now d 3 1 (.handling job) [.openSource setup.options.prefetch, .read,
        .handle (setup.spanOf 1 d).context d]
  | leaving (deadline : Instant) : now.add? setup.options.staleTimeout = some deadline →
      deadline ≤ now → Reached setup now d 3 0 (.leaving .restart)
        [.openSource setup.options.prefetch, .read, .closeSource]

/-- A step leads to where a call is after one step more. -/
theorem Reached.turn (h : Reached setup now d n taken stage before)
    (hprompt : input.IsPrompt d handle)
    (hturn : setup.Turns false now (taken + 1) stage input next asked) :
    Reached setup now d (n + 1) (if input.takes then taken + 1 else taken) next
      (before ++ asked) := by
  cases h with
  | queued =>
    cases hturn with
    | dismiss hclosed => cases hclosed
    | enter => exact .opening
  | opening =>
    cases hturn with
    | await deadline hadd => exact .reading deadline hadd
    | overflow hadd => exact .crashed hadd
    | refused e => simp [Input.IsPrompt, Input.isOwn] at hprompt
  | crashed hadd => cases hturn
  | reading deadline hadd =>
    cases hturn with
    | halt _ _ hclosed => cases hclosed
    | stale _ _ _ hle => exact .leaving deadline hadd hle
    | take _ _ d' handle' _ hlt =>
      obtain ⟨rfl, rfl⟩ : d' = d ∧ handle' = handle := by
        simpa [Input.IsPrompt, Input.isOwn] using hprompt
      exact .handling _ deadline hadd hlt
    | dry | fault => simp [Input.IsPrompt, Input.isOwn] at hprompt
  | handling job deadline _ _ =>
    cases hturn with
    | decide | defer => simp [Input.IsPrompt, Input.isOwn] at hprompt
  | leaving deadline _ _ =>
    cases hturn with
    | restart => simp [Input.IsPrompt, Input.isOwn] at hprompt

theorem Reached.isPrefix (h : Reached (η := η) setup now d n taken stage before) :
    n ≤ 3 ∧ before <+: setup.course now d := by
  cases h with
  | queued => exact ⟨by decide, List.nil_prefix⟩
  | opening => exact ⟨by decide, List.prefix_append [_] _⟩
  | crashed hadd => simp [Setup.course, hadd]
  | reading deadline hadd =>
    simp only [Setup.course, hadd]
    exact ⟨by decide, List.prefix_append [_, _] _⟩
  | handling job deadline hadd hlt => simp [Setup.course, hadd, hlt]
  | leaving deadline hadd hle => simp [Setup.course, hadd, Nat.not_lt_of_le hle]

/-- A call goes on until the course is complete. -/
theorem Reached.goesOn (h : Reached setup now d n taken stage before) (handle : η) (span : Nat) :
    before = setup.course now d ∨ stage.isOver = false ∧ ∃ input : Input η,
      input.IsPrompt d handle ∧ ∃ next events,
        setup.listen false now span stage input = some (next, events) := by
  cases h with
  | queued => exact .inr ⟨rfl, .turn, .inl rfl, _, _, rfl⟩
  | opening => exact .inr ⟨rfl, .opened (.ok ()), .inr (.inl rfl), _, _, rfl⟩
  | crashed hadd => exact .inl (by simp only [Setup.course, hadd])
  | reading deadline hadd =>
    right
    refine ⟨rfl, ?_⟩
    rcases Nat.lt_or_ge now deadline with hlt | hle
    · exact ⟨.read (.ok (some (d, handle))), .inr (.inr rfl), _, _,
        if_pos (decide_eq_true hlt)⟩
    · exact ⟨.elapsed, .inl rfl, _, _, if_pos (decide_eq_true hle)⟩
  | handling job deadline hadd hlt => exact .inl (by simp only [Setup.course, hadd, if_pos hlt])
  | leaving deadline hadd hle =>
    exact .inl (by simp only [Setup.course, hadd, if_neg (Nat.not_lt_of_le hle)])

/-- In every run the one call is where its steps have brought it. -/
theorem PromptRun.reached (h : PromptRun setup now d handle history s) :
    ∃ stage, s.IsAlone stage ∧
      Reached setup now d history.length s.taken stage (askedFor history) := by
  induction h with
  | start => exact ⟨.queued, ⟨rfl, rfl, fun _ => rfl⟩, .queued⟩
  | step label hrun hprompt hstep ih =>
    obtain ⟨stage, halone, hreached⟩ := ih
    obtain ⟨input, next, hinput, hturn, hnext, htaken⟩ :=
      halone.move hprompt (move_of_step hstep)
    refine ⟨next, hnext, ?_⟩
    rw [askedFor_cons, htaken]
    exact hreached.turn hinput hturn

/-- However the steps fall, a first session keeps to its course, and it goes on until the course is
complete. -/
theorem PromptRun.course (h : PromptRun setup now d handle history s) :
    history.length ≤ 3 ∧ askedFor history <+: setup.course now d ∧
      (askedFor history = setup.course now d ∨
        ∃ beat s', PromptRun setup now d handle (beat :: history) s') := by
  obtain ⟨stage, halone, hreached⟩ := h.reached
  refine ⟨hreached.isPrefix.1, hreached.isPrefix.2, ?_⟩
  refine (hreached.goesOn handle (s.taken + 1)).imp_right fun ⟨hover, input, hprompt, hl⟩ => ?_
  obtain ⟨next, events, hl⟩ := hl
  have hbusy : s.IsBusyAt 0 stage := ⟨halone.turn hover, by rw [IsAt, halone.only]; rfl⟩
  rw [← halone.isOpen] at hl
  exact ⟨_, _, h.step (.input 0 input) hprompt (hbusy.step hl)⟩

/-- Runs that go on until something holds, and have an end, come to it. -/
theorem PromptRun.exists_of_goesOn {P : List (Beat η) → Prop}
    (h : ∀ history s, PromptRun setup now d handle history s → history.length ≤ 3 ∧
      (P history ∨ ∃ beat s', PromptRun setup now d handle (beat :: history) s')) :
    ∃ history s, PromptRun setup now d handle history s ∧ P history := by
  -- on the steps that are left, of which there are three at most
  suffices hleft : ∀ left history s, PromptRun setup now d handle history s →
      history.length + left = 4 → ∃ history s, PromptRun setup now d handle history s ∧ P history
    from hleft 4 [] _ .start rfl
  intro left
  induction left with
  | zero =>
    intro history s hrun hlength
    have hle := (h history s hrun).1
    omega
  | succ left ih =>
    intro history s hrun hlength
    rcases (h history s hrun).2 with hP | ⟨beat, s', hrun'⟩
    · exact ⟨history, s, hrun, hP⟩
    · exact ih _ _ hrun' (by rw [List.length_cons]; omega)

/-! ## §3 Sessions in which the handler is called -/

/-- Whether the handler is called on a delivery in the first session, however the steps fall: there
is an end to them, and they go on until the source was opened once, read once, and the delivery was
handed to the handler, in the context of its span. -/
def Setup.HandlesFirst (setup : Setup) (now : Instant) (d : Delivery) (handle : η) : Prop :=
  ∀ history s, PromptRun setup now d handle history s → history.length ≤ 3 ∧
    (askedFor history = [.openSource setup.options.prefetch, .read,
        .handle (setup.spanOf 1 d).context d] ∨
      ∃ beat s', PromptRun setup now d handle (beat :: history) s')

/-- The handler is called exactly if the deadline can be counted and has not come at once. -/
theorem Setup.handlesFirst_iff_deadline : setup.HandlesFirst now d handle ↔
    ∃ deadline, now.add? setup.options.staleTimeout = some deadline ∧ now < deadline := by
  constructor
  · intro h
    obtain ⟨history, s, hrun, hasked⟩ := PromptRun.exists_of_goesOn h
    have hcourse := hrun.course.2.1
    rw [hasked, Setup.course] at hcourse
    cases hadd : now.add? setup.options.staleTimeout with
    | none => simp [hadd] at hcourse
    | some deadline =>
      by_cases hlt : now < deadline
      · exact ⟨deadline, rfl, hlt⟩
      · simp [hadd, hlt] at hcourse
  · rintro ⟨deadline, hadd, hlt⟩ history s hrun
    have hcourse : setup.course now d
        = [(.openSource setup.options.prefetch : Request η), .read,
          .handle (setup.spanOf 1 d).context d] := by
      simp only [Setup.course, hadd, if_pos hlt]
    rw [← hcourse]
    exact ⟨hrun.course.1, hrun.course.2.2⟩

/-- A deadline that is counted is later than the beginning, unless the timeout is zero. -/
theorem Setup.handlesFirst_iff : setup.HandlesFirst now d handle ↔
    setup.options.staleTimeout.totalNanos ≠ 0 ∧
      now.add? setup.options.staleTimeout ≠ none := by
  rw [Setup.handlesFirst_iff_deadline, ← Option.isSome_iff_ne_none, Option.isSome_iff_exists]
  constructor
  · rintro ⟨deadline, hadd, hlt⟩
    refine ⟨fun hzero => ?_, deadline, hadd⟩
    rw [Instant.eq_after_of_add? hadd, Instant.after, hzero] at hlt
    exact Nat.lt_irrefl now hlt
  · rintro ⟨hzero, deadline, hadd⟩
    refine ⟨deadline, hadd, ?_⟩
    rw [Instant.eq_after_of_add? hadd]
    exact Nat.lt_add_of_pos_right (Nat.pos_of_ne_zero hzero)

/-- Whether a call has nothing to handle and, if it awaits a delivery, its deadline has come. -/
def Stage.IsBarren (clock : Instant) : Stage η → Prop
  | .reading _ deadline => deadline ≤ clock
  | .handling _ | .waiting _ _ | .settling _ _ => False
  | _ => True

theorem Setup.Turns.isBarren (h : setup.Turns false clock span stage input next asked)
    (hzero : setup.options.staleTimeout.totalNanos = 0) (hstage : stage.IsBarren clock) :
    next.IsBarren clock ∧ ∀ context d, .handle context d ∉ asked := by
  cases h with
  | await deadline hadd =>
    obtain rfl := Instant.eq_after_of_add? hadd
    refine ⟨?_, by simp⟩
    show clock + setup.options.staleTimeout.totalNanos ≤ clock
    rw [hzero]
    exact Nat.le_refl clock
  | take _ deadline _ _ _ hlt | dry _ deadline _ hlt | fault _ deadline _ _ hlt =>
    exact absurd hlt (Nat.not_lt_of_le hstage)
  | decide | defer | again | copy | giveBack | goOn | goOnOverflow | giveUp => cases hstage
  | _ => exact ⟨trivial, by simp⟩

/-- If a session is stale at once, nothing is ever handled. -/
theorem TimedRun.never_handles (h : TimedRun setup clock history s) (hopen : s.isClosed = false)
    (hzero : setup.options.staleTimeout.totalNanos = 0) :
    ∀ act ∈ acts t history, ∀ context d, .handle context d ∉ act.asked := by
  intro act hact
  obtain ⟨stage, hat⟩ := h.run.exists_stage (List.ne_nil_of_mem hact)
  refine (h.acting (P := fun clock acts stage => stage.IsBarren clock ∧
    ∀ act ∈ acts, ∀ context d, .handle context d ∉ act.asked) hopen hat ?_ ?_ ?_).2 act hact
  · exact fun clock => ⟨trivial, nofun⟩
  · intro clock acts stage ⟨hstage, hacts⟩ _
    refine ⟨?_, hacts⟩
    cases stage with
    | reading since deadline => exact Nat.le_succ_of_le hstage
    | _ => exact hstage
  · intro clock acts span stage input next asked ⟨hstage, hacts⟩ hturn
    obtain ⟨hnext, hasked⟩ := hturn.isBarren hzero hstage
    exact ⟨hnext, List.forall_mem_cons.mpr ⟨hasked, hacts⟩⟩

/-! ## §4 Accepted settings -/

theorem AttemptLimit.exists_ofSetting_iff {setting : Int} :
    (∃ limit, AttemptLimit.ofSetting setting = .ok limit) ↔
      setting = -1 ∨ 0 < setting ∧ setting < 1 <<< 32 := by
  unfold AttemptLimit.ofSetting AttemptLimit.unlimitedSetting
  by_cases hnone : setting = -1
  · rw [if_pos hnone]
    exact iff_of_true ⟨_, rfl⟩ (.inl hnone)
  · rw [if_neg hnone]
    by_cases hpos : 0 < setting
    · rw [if_pos hpos]
      by_cases hlt : setting < 1 <<< 32
      · rw [if_pos hlt]
        exact iff_of_true ⟨_, rfl⟩ (.inr ⟨hpos, hlt⟩)
      · rw [if_neg hlt]
        exact iff_of_false nofun (by simp only [hnone, hlt, false_or, and_false, not_false_iff])
    · rw [if_neg hpos]
      exact iff_of_false nofun (by simp only [hnone, hpos, false_or, false_and, not_false_iff])

/-- Options are made of the settings if these stand for a backoff and for a limit. -/
theorem options_eq_ok_iff {settings : Settings.Subscriber} {options : Options} :
    settings.options = .ok options ↔ ∃ backoff limit,
      Backoff.ofInterval (Duration.ofMillis settings.backoffMs) = .ok backoff ∧
      AttemptLimit.ofSetting settings.maxTryNum = .ok limit ∧
      options = {
        prefetch := settings.prefetchCount
        limit := limit
        backoff := backoff.policy
        staleTimeout := Duration.ofMillis settings.staleTimeoutMs
        restartInterval := Duration.ofMillis settings.restartIntervalMs } := by
  -- opened before it is applied, so that nobody computes the backoff of unknown settings
  generalize hf : Settings.Subscriber.options = f
  delta Settings.Subscriber.options at hf
  subst hf
  dsimp only
  generalize Backoff.ofInterval (Duration.ofMillis settings.backoffMs) = backoff
  generalize AttemptLimit.ofSetting settings.maxTryNum = limit
  cases backoff with
  | error e => simp
  | ok backoff =>
    cases limit with
    | error e => simp
    | ok limit => simp [eq_comm]

/-- The settings that are accepted: no zero stands for the backoff, and the limit on attempts is in
range. Nothing is asked of the time after which a session is stale. -/
theorem exists_options_iff {settings : Settings.Subscriber} :
    (∃ options, settings.options = .ok options) ↔ settings.backoffMs ≠ 0 ∧
      (settings.maxTryNum = -1 ∨ 0 < settings.maxTryNum ∧ settings.maxTryNum < 1 <<< 32) := by
  have hbackoff : (∃ backoff, Backoff.ofInterval (Duration.ofMillis settings.backoffMs)
      = .ok backoff) ↔ settings.backoffMs ≠ 0 := by
    rw [Ne, ← Duration.totalNanos_ofMillis_eq_zero_iff, ← Duration.isZero_iff,
      Bool.not_eq_true]
    generalize Duration.ofMillis settings.backoffMs = interval
    unfold Backoff.ofInterval
    by_cases hzero : interval.isZero = false
    · rw [dif_pos hzero]
      exact iff_of_true ⟨_, rfl⟩ hzero
    · rw [dif_neg hzero]
      exact iff_of_false nofun hzero
  rw [← hbackoff, ← AttemptLimit.exists_ofSetting_iff]
  constructor
  · rintro ⟨options, h⟩
    obtain ⟨backoff, limit, hinterval, hlimit, -⟩ := options_eq_ok_iff.mp h
    exact ⟨⟨backoff, hinterval⟩, limit, hlimit⟩
  · rintro ⟨⟨backoff, hinterval⟩, limit, hlimit⟩
    exact ⟨_, options_eq_ok_iff.mpr ⟨backoff, limit, hinterval, hlimit, rfl⟩⟩

theorem staleTimeout_of_options {settings : Settings.Subscriber} {options : Options}
    (h : settings.options = .ok options) :
    options.staleTimeout = Duration.ofMillis settings.staleTimeoutMs := by
  obtain ⟨backoff, limit, -, -, rfl⟩ := options_eq_ok_iff.mp h
  rfl

/-- Whatever settings are accepted, and whatever is listened to with them: if the source is opened
at once and brings a delivery at once, the handler is called on it in the first session exactly if
the time after which a session is stale is not zero and the clock can count the deadline, as every
clock can for as many milliseconds as fit 64 bits. If it is zero, the handler is never called,
whatever the source does and when. -/
theorem handlesFirst_of_accepted {settings : Settings.Subscriber}
    (h : settings.options = .ok setup.options) :
    (∀ now d (handle : η), setup.HandlesFirst now d handle ↔
      settings.staleTimeoutMs ≠ 0 ∧ now.add? setup.options.staleTimeout ≠ none) ∧
    (settings.staleTimeoutMs < 1 <<< 64 → ∀ now < 1 <<< 92,
      Instant.add? now setup.options.staleTimeout ≠ none) ∧
    (settings.staleTimeoutMs = 0 → ∀ clock history (s : Subscriber η),
      TimedRun setup clock history s → s.isClosed = false →
      ∀ t, ∀ act ∈ acts t history, ∀ context d, .handle context d ∉ act.asked) := by
  have htimeout := staleTimeout_of_options h
  have hzero : setup.options.staleTimeout.totalNanos = 0 ↔ settings.staleTimeoutMs = 0 := by
    rw [htimeout, Duration.totalNanos_ofMillis_eq_zero_iff]
  refine ⟨fun now d handle => ?_, fun hfits now hnow => ?_, ?_⟩
  · rw [Setup.handlesFirst_iff, Ne, hzero]
  · have hlt : now + setup.options.staleTimeout.totalNanos < Instant.limit := by
      rw [htimeout, Duration.ofMillis, Duration.totalNanos_ofNanos]
      simp only [Duration.nanosPerMilli, Instant.limit, Duration.nanosPerSecond] at *
      omega
    rw [Instant.add?, if_pos hlt]
    exact Option.some_ne_none _
  · intro hnone clock history s hrun hopen t
    exact hrun.never_handles hopen (hzero.mpr hnone)

/-- With the standard settings an order is handled in the first session. -/
theorem handlesFirst_with_standard :
    ∃ options, Settings.Subscriber.standard.options = .ok options ∧
      Setup.HandlesFirst ⟨"orders", options, .inPlace, .off⟩ 0 order 7 := by
  obtain ⟨options, hoptions⟩ := exists_options_iff.mpr (show
    Settings.Subscriber.standard.backoffMs ≠ 0 ∧ _ from ⟨by decide, .inr (by decide)⟩)
  let setup : Setup := ⟨"orders", options, .inPlace, .off⟩
  have haccepted : Settings.Subscriber.standard.options = .ok setup.options := hoptions
  obtain ⟨hiff, hfits, -⟩ := handlesFirst_of_accepted haccepted
  have hcounted : Instant.add? 0 setup.options.staleTimeout ≠ none :=
    hfits (by decide) 0 (Nat.pos_of_ne_zero (by decide))
  exact ⟨options, hoptions, (hiff 0 order 7).mpr ⟨by decide, hcounted⟩⟩

/-- The standard settings with no time after which a session is stale. -/
def hastySettings : Settings.Subscriber :=
  { Settings.Subscriber.standard with staleTimeoutMs := 0 }

/-- Such settings are accepted as well, and the first session ends before the order is read. -/
theorem not_handlesFirst_without_timeout :
    ∃ options, hastySettings.options = .ok options ∧
      ¬Setup.HandlesFirst ⟨"orders", options, .inPlace, .off⟩ 0 order 7 := by
  obtain ⟨options, hoptions⟩ := exists_options_iff.mpr (show
    hastySettings.backoffMs ≠ 0 ∧ _ from ⟨by decide, .inr (by decide)⟩)
  refine ⟨options, hoptions, ?_⟩
  rw [Setup.handlesFirst_iff]
  rintro ⟨hne, -⟩
  rw [staleTimeout_of_options hoptions] at hne
  exact hne (Duration.totalNanos_ofMillis_eq_zero_iff.mpr rfl)

end Courier.Subscriber
