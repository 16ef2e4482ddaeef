import Courier.Proofs.Subscriber.Custody
import Courier.Proofs.Subscriber.System

/-!
# Closing a subscriber

The calls that listen open sources and close them again, and a closing call waits until they have.
Whatever sources, the handler and the clock do, at most one source is open at a time, listening ends
only after the end was signalled, and when a closing call has returned, nothing is in use and no
source is opened any more.
-/

namespace Courier.Subscriber

universe u

variable {η : Type u}

/-! ## §1 Open sources -/

/-- Whether a call has broken off. -/
def hasCrashed (s : Subscriber η) (t : Nat) : Bool :=
  match s.tasks[t]? with
  | some (.listening .crashed) => true
  | _ => false

/-- The calls with open sources after something has come to a call. -/
def Input.sources (t : Nat) (sources : List Nat) : Input η → List Nat
  | .opened (.ok ()) => t :: sources
  | .closed _ => sources.erase t
  | _ => sources

/-- The calls with open sources after a history, the one that was opened last first. A source is
open until it was closed; a call that breaks off drops its source. -/
def openSources : List (Beat η) → List Nat
  | [] => []
  | beat :: earlier =>
    match beat.label with
    | .input t input =>
      if beat.after.hasCrashed t then (openSources earlier).erase t
      else input.sources t (openSources earlier)
    | _ => openSources earlier

/-- Whether a source is asked for or opened in a step. -/
def Beat.Opens (beat : Beat η) : Prop :=
  (∃ prefetch, .asked (.openSource prefetch) ∈ beat.events) ∨
    ∃ t, beat.label = .input t (.opened (.ok ()))

/-! ## §2 Sources and stages -/

/-- Whether a call at a stage has a source that is open. -/
def Stage.hasSource : Stage η → Bool
  | .reading _ _ | .handling _ | .waiting _ _ | .settling _ _ | .leaving _ => true
  | _ => false

/-- The call itself, if it has an open source. -/
def Stage.sources (t : Nat) (stage : Stage η) : List Nat :=
  if stage.hasSource then [t] else []

variable {setup : Setup} {closed : Bool} {now : Instant} {span : Nat} {stage next : Stage η}
  {input : Input η} {asked : List (Request η)}

theorem Stage.isActive_of_hasSource (h : stage.hasSource = true) : stage.isActive = true := by
  cases stage with
  | reading _ _ | handling _ | waiting _ _ | settling _ _ | leaving _ => rfl
  | _ => cases h

/-- A call that goes on has a source open exactly if it was opened and not closed. -/
theorem Setup.Turns.sources (h : setup.Turns closed now span stage input next asked) (t : Nat)
    (hn : next ≠ .crashed) : input.sources t (stage.sources t) = next.sources t := by
  cases h with
  | overflow _ | goOnOverflow _ _ _ _ _ => exact absurd rfl hn
  | finish _ | restart _ => exact List.erase_cons_head t []
  | _ => rfl

/-- What the history says of open sources is what the stages say. -/
structure Accounted (history : List (Beat η)) (s : Subscriber η) : Prop where
  one : ∀ t stage, s.IsAt t stage → stage.hasSource = true → openSources history = [t]
  none : (∀ t stage, s.IsAt t stage → stage.hasSource = false) → openSources history = []

variable {s s' : Subscriber η} {history : List (Beat η)}

/-- The sources that are open are those of the call that has the turn. -/
theorem Accounted.sources {t : Nat} (ha : Accounted history s) (ho : s.Orderly)
    (hturn : s.lock.isHeldBy t = true) (hstage : s.IsAt t stage) :
    openSources history = stage.sources t := by
  unfold Stage.sources
  cases hsource : stage.hasSource with
  | true => exact ha.one t stage hstage hsource
  | false =>
    refine ha.none fun u stage' hu => ?_
    cases hsource' : stage'.hasSource with
    | false => rfl
    | true =>
      have hheld := ho.turn u stage' hu (Stage.isActive_of_hasSource hsource')
      obtain rfl := Lock.isHeldBy_unique hturn hheld
      rw [IsAt] at hstage hu
      rw [hstage] at hu
      cases hu
      rw [hsource] at hsource'
      cases hsource'

private theorem Accounted.keep {history' : List (Beat η)} (ha : Accounted history s)
    (hsame : openSources history' = openSources history)
    (hback : ∀ u stage, s'.IsAt u stage → stage.hasSource = true → s.IsAt u stage)
    (hforth : ∀ u stage, s.IsAt u stage → s'.IsAt u stage) : Accounted history' s' := by
  refine ⟨?_, ?_⟩
  · intro u stage hu hsource
    rw [hsame]
    exact ha.one u stage (hback u stage hu hsource) hsource
  · intro hnone
    rw [hsame]
    exact ha.none fun u stage hu => hnone u stage (hforth u stage hu)

private theorem Accounted.enqueue {history' : List (Beat η)} {task : Task η} {closed : Bool}
    (ha : Accounted history s) (hsame : openSources history' = openSources history)
    (hqueued : ∀ stage, task = .listening stage → stage = .queued) :
    Accounted history' { s.enqueue task with isClosed := closed } := by
  refine ha.keep hsame ?_ ?_
  · intro u stage hu hsource
    rcases task_of_enqueue hu with hu | htask
    · exact hu
    · rw [hqueued stage htask.symm] at hsource
      cases hsource
  · intro u stage hu
    exact task_enqueue hu

private theorem Accounted.advance {t : Nat} {events : List (Event η)} (ha : Accounted history s)
    (ho : s.Orderly) (hturn : s.lock.isHeldBy t = true) (hstage : s.IsAt t stage)
    (ht : setup.Turns s.isClosed now span stage input next asked) :
    Accounted (⟨now, .input t input, events, s.advance t input next⟩ :: history)
      (s.advance t input next) := by
  have hnext : (s.advance t input next).IsAt t next := task_set hstage
  -- the call that has the turn has what is open, before the step and after it
  have hsources : openSources (⟨now, .input t input, events, s.advance t input next⟩ :: history)
      = next.sources t := by
    have hbefore := ha.sources ho hturn hstage
    by_cases hcrash : next = .crashed
    · subst hcrash
      have hcrashed : (s.advance t input .crashed).hasCrashed t = true := by
        rw [hasCrashed, hnext]
      simp only [openSources, hcrashed, if_true, hbefore]
      -- what it had is dropped
      unfold Stage.sources
      cases stage.hasSource with
      | true => exact List.erase_cons_head t []
      | false => rfl
    · have hcrashed : (s.advance t input next).hasCrashed t = false := by
        rw [hasCrashed, hnext]
        cases next with
        | crashed => exact absurd rfl hcrash
        | _ => rfl
      simp only [openSources, hcrashed, Bool.false_eq_true, if_false, hbefore]
      exact ht.sources t hcrash
  refine ⟨?_, ?_⟩
  · intro u stage' hu hsource
    rw [hsources]
    rcases task_of_set hu with ⟨rfl, htask⟩ | ⟨hne, hu⟩
    · cases htask
      exact if_pos hsource
    · have hheld := ho.turn u stage' hu (Stage.isActive_of_hasSource hsource)
      exact absurd (Lock.isHeldBy_unique hturn hheld) hne
  · intro hnone
    rw [hsources]
    exact if_neg (by rw [hnone t next hnext]; exact Bool.false_ne_true)

private theorem Accounted.depart {history' : List (Beat η)} {t : Nat} (ha : Accounted history s)
    (hsame : openSources history' = openSources history) (hstage : s.tasks[t]? = some .closing) :
    Accounted history' ({ s with lock := s.lock.release }.setTask t .closed) := by
  refine ha.keep hsame ?_ ?_
  · intro u stage hu _
    rcases task_of_set hu with ⟨_, htask⟩ | ⟨_, hu⟩
    · cases htask
    · exact hu
  · intro u stage hu
    refine task_set_of_ne ?_ hu
    rintro rfl
    rw [IsAt, hstage] at hu
    cases hu

/-- Every move keeps the agreement about the open sources. -/
theorem Accounted.move {label : Label η} (ha : Accounted history s) (ho : s.Orderly)
    (h : Move setup now s label asked s') (events : List (Event η)) :
    Accounted (⟨now, label, events, s'⟩ :: history) s' := by
  cases h with
  | listen =>
    have hqueued : ∀ stage : Stage η, Task.listening .queued = .listening stage →
        stage = .queued := by
      intro stage h
      cases h
      rfl
    exact ha.enqueue rfl hqueued
  | close =>
    have hqueued : ∀ stage : Stage η, Task.closing = .listening stage → stage = .queued := nofun
    exact ha.enqueue rfl hqueued
  | turn t input stage next _ hturn hstage ht => exact ha.advance ho hturn hstage ht
  | depart t _ hstage =>
    refine ha.depart ?_ hstage
    rfl

/-- In every run the history and the stages agree about the open sources. -/
theorem Run.accounted (h : Run setup .new history s) : Accounted history s := by
  have hnew : Accounted [] (.new : Subscriber η) := ⟨by intros; contradiction, fun _ => rfl⟩
  have hboth : Accounted history s ∧ s.Orderly :=
    h.invariant (P := fun history s => Accounted history s ∧ s.Orderly) ⟨hnew, .new⟩
      fun ⟨ha, ho⟩ hm => ⟨ha.move ho hm _, ho.move hm⟩
  exact hboth.1

/-! ## §3 The end -/

/-- A subscriber is closed by a closing call. -/
theorem Run.exists_close (h : Run setup .new history s) (hclosed : s.isClosed = true) :
    ∃ beat ∈ history, beat.label = .close := by
  induction h with
  | refl => cases hclosed
  | @step history s s' events now label _ hstep ih =>
    suffices hcase : label = .close ∨ s.isClosed = true by
      rcases hcase with rfl | hold
      · exact ⟨_, List.mem_cons_self, rfl⟩
      · obtain ⟨beat, hmem, hlabel⟩ := ih hold
        exact ⟨beat, List.mem_cons_of_mem _ hmem, hlabel⟩
    have hm := move_of_step hstep
    generalize requests events = asked at hm
    cases hm with
    | close => exact .inl rfl
    | listen | turn | depart => exact .inr hclosed

/-- A call breaks off only when the clock cannot count the deadline. -/
theorem Run.exists_overflow {t : Nat} (h : Run setup .new history s)
    (hcrashed : s.IsAt t .crashed) :
    ∃ beat ∈ history, beat.now.add? setup.options.staleTimeout = none := by
  induction h with
  | refl => contradiction
  | @step history s s' events now label _ hstep ih =>
    rcases (move_of_step hstep).came hcrashed with hold | hqueued | ⟨_, _, _, _, hturn⟩
    · obtain ⟨beat, hmem, hnone⟩ := ih hold
      exact ⟨beat, List.mem_cons_of_mem _ hmem, hnone⟩
    · cases hqueued
    · exact ⟨_, List.mem_cons_self, hturn.overflow_of_crashed⟩

/-- Once a closing call has returned, no move asks for anything, and no source is opened. -/
theorem IsSettled.move {label : Label η} (hs : s.IsSettled)
    (h : Move setup now s label asked s') :
    s'.IsSettled ∧ asked = [] ∧ ∀ t result, label ≠ .input t (.opened result) := by
  -- the turn of a call that listens is its first one, and it returns at once
  have hturn : ∀ {t stage input next asked}, s.IsAt t stage →
      setup.Turns s.isClosed now (s.taken + 1) stage input next asked →
      next = .returned ∧ asked = [] ∧ input = .turn := by
    intro t stage input next asked hstage ht
    rcases ht.isActive_or_queued with hactive | rfl
    · rw [hs.quiet t stage hstage] at hactive
      cases hactive
    · rw [hs.closed] at ht
      exact ht.of_queued
  refine ⟨⟨h.isClosed hs.closed, ?_⟩, ?_⟩
  · intro t next hnext
    rcases h.came hnext with hold | rfl | ⟨input, stage, _, hstage, ht⟩
    · exact hs.quiet t next hold
    · rfl
    · rw [(hturn hstage ht).1]
      rfl
  · cases h with
    | listen | close | depart => exact ⟨rfl, nofun⟩
    | turn t input stage next _ _ hstage ht =>
      obtain ⟨_, rfl, rfl⟩ := hturn hstage ht
      exact ⟨rfl, nofun⟩

/-- Nothing is asked for and no source is opened after a closing call has returned. -/
theorem IsSettled.run {later : List (Beat η)} (hs : s.IsSettled) (h : Run setup s later s') :
    s'.IsSettled ∧ ∀ beat ∈ later, ¬beat.Opens := by
  refine h.invariant (P := fun later s => s.IsSettled ∧ ∀ beat ∈ later, ¬beat.Opens)
    ⟨hs, nofun⟩ ?_
  rintro later s' s'' now label events ⟨hs', hlater⟩ hm
  obtain ⟨hs'', hasked, hlabel⟩ := hs'.move hm
  refine ⟨hs'', ?_⟩
  intro beat hbeat
  rcases List.mem_cons.mp hbeat with rfl | hbeat
  · rintro (⟨prefetch, hopen⟩ | ⟨t, hopened⟩)
    · have hmem := mem_requests hopen
      rw [hasked] at hmem
      cases hmem
    · exact hlabel t _ hopened
  · exact hlater beat hbeat

/-- Whatever sources, the handler and the clock do, and however calls to listen and to close follow
on each other: at most one source is open at a time; listening ends only after the end was
signalled, and breaks off only when the clock cannot count a deadline; and once a closing call has
returned, no source is open, the handler does not run, and no source is opened any more. -/
theorem sources_released {earlier later : List (Beat η)} (hearlier : Run setup .new earlier s)
    (hlater : Run setup s later s') :
    (openSources earlier).length ≤ 1 ∧
    (∀ t, s.IsAt t .returned → ∃ beat ∈ earlier, beat.label = .close) ∧
    (∀ t, s.IsAt t .crashed →
      ∃ beat ∈ earlier, beat.now.add? setup.options.staleTimeout = none) ∧
    ((∃ t : Nat, s.tasks[t]? = some .closed) →
      openSources (later ++ earlier) = [] ∧ (∀ t job, ¬s'.IsAt t (.handling job)) ∧
      ∀ beat ∈ later, ¬beat.Opens) := by
  refine ⟨?_, ?_, fun t => hearlier.exists_overflow, ?_⟩
  · by_cases hone : ∃ t stage, s.IsAt t stage ∧ stage.hasSource = true
    · obtain ⟨t, stage, hstage, hsource⟩ := hone
      rw [hearlier.accounted.one t stage hstage hsource]
      exact Nat.le_refl 1
    · rw [hearlier.accounted.none fun t stage hstage =>
        Bool.eq_false_iff.mpr fun hsource => hone ⟨t, stage, hstage, hsource⟩]
      exact Nat.zero_le 1
  · intro t hreturned
    exact hearlier.exists_close (hearlier.orderly.stopping t _ hreturned rfl)
  · rintro ⟨t, hclosed⟩
    obtain ⟨hs', hopens⟩ := (hearlier.orderly.closed t hclosed).run hlater
    refine ⟨(hearlier.append hlater).accounted.none ?_, ?_, hopens⟩
    · intro u stage hu
      cases hsource : stage.hasSource with
      | false => rfl
      | true =>
        have hactive := Stage.isActive_of_hasSource hsource
        rw [hs'.quiet u stage hu] at hactive
        cases hactive
    · intro u job hu
      cases hs'.quiet u _ hu

/-- Two calls listen to orders, and the subscriber is closed while the first one handles one. -/
def shift : List (Instant × Label Nat) :=
  [(0, .listen), (0, .input 0 .turn), (0, .input 0 (.opened (.ok ()))), (0, .listen),
    (5, .input 0 (.read (.ok (some (order, 7))))), (6, .close), (9, .input 0 (.handled (.ok ()))),
    (9, .input 0 (.settled (.error .acknowledging))), (9, .input 0 .stop),
    (10, .input 0 (.closed (.ok ()))), (10, .input 1 .turn), (10, .turn 2)]

/-- Another call listens after the shift. -/
def overtime : List (Instant × Label Nat) :=
  [(20, .listen), (20, .input 3 .turn)]

/-- After the shift everything is released, and a call that listens then opens no source. -/
theorem released_after_shift :
    ∃ earlier s later s', replay (Setup.ofOrders .inPlace) [] .new shift = some (earlier, s) ∧
      replay (Setup.ofOrders .inPlace) [] s overtime = some (later, s') ∧
      s.tasks[2]? = some .closed ∧ s'.tasks[3]? = some (.listening .returned) ∧
      openSources (later ++ earlier) = [] ∧ ∀ beat ∈ later, ¬beat.Opens := by
  obtain ⟨earlier, s, later, s', hearlier, hlater, hclosed, hreturned⟩ :
      ∃ earlier s later s', replay (Setup.ofOrders .inPlace) [] .new shift = some (earlier, s) ∧
        replay (Setup.ofOrders .inPlace) [] s overtime = some (later, s') ∧
        s.tasks[2]? = some .closed ∧ s'.tasks[3]? = some (.listening .returned) :=
    ⟨_, _, _, _, rfl, rfl, rfl, rfl⟩
  obtain ⟨_, _, _, hreleased⟩ :=
    sources_released (run_of_replay .refl hearlier) (run_of_replay .refl hlater)
  obtain ⟨hsources, _, hopens⟩ := hreleased ⟨2, hclosed⟩
  exact ⟨earlier, s, later, s', hearlier, hlater, hclosed, hreturned, hsources, hopens⟩

end Courier.Subscriber
