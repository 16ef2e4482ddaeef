import Courier.Proofs.Lock
import Courier.Proofs.Subscriber.Turn
import Courier.Subscriber.Step

/-!
# Runs of a subscriber

A run is any sequence of steps: calls to listen and to close are made at any time, and sources, the
handler and the clock answer them at any time and in any order. A `Move` says once what a step can
do, and everything about runs is derived from it: only the call that has the turn works on a source,
and what comes after the end was signalled comes to a closed subscriber.
-/

namespace Courier.Subscriber

universe u

variable {η : Type u}

/-! ## §1 Runs -/

/-- A step of a run: when it is taken, what happens, what it shows, and what comes of it. -/
structure Beat (η : Type u) where
  now : Instant
  label : Label η
  events : List (Event η)
  after : Subscriber η

/-- The runs of a subscriber from one state to another; the last step comes first. -/
inductive Run (setup : Setup) (s : Subscriber η) : List (Beat η) → Subscriber η → Prop where
  | refl : Run setup s [] s
  | step {history : List (Beat η)} {s' s'' : Subscriber η} {events : List (Event η)} (now : Instant)
      (label : Label η) : Run setup s history s' →
      s'.step setup now label = some (s'', events) →
      Run setup s (⟨now, label, events, s''⟩ :: history) s''

theorem Run.append {setup : Setup} {s s' s'' : Subscriber η} {earlier later : List (Beat η)}
    (h : Run setup s earlier s') (h' : Run setup s' later s'') :
    Run setup s (later ++ earlier) s'' := by
  induction h' with
  | refl => exact h
  | step now label _ hstep ih => exact .step now label ih hstep

/-! ## §2 Moves -/

/-- A subscriber with one call more, which waits for its turn behind the others. -/
def enqueue (s : Subscriber η) (task : Task η) : Subscriber η :=
  { s with lock := s.lock.request s.tasks.length, tasks := s.tasks ++ [task] }

/-- What a step can do to a subscriber at an instant, and what it asks for. -/
inductive Move (setup : Setup) (now : Instant) (s : Subscriber η) :
    Label η → List (Request η) → Subscriber η → Prop where
  | listen : Move setup now s .listen [] (s.enqueue (.listening .queued))
  | close : Move setup now s .close [] { s.enqueue .closing with isClosed := true }
  | turn (t : Nat) (input : Input η) (stage next : Stage η) (asked : List (Request η)) :
      s.lock.isHeldBy t = true → s.tasks[t]? = some (.listening stage) →
      setup.Turns s.isClosed now (s.taken + 1) stage input next asked →
      Move setup now s (.input t input) asked (s.advance t input next)
  | depart (t : Nat) : s.lock.isHeldBy t = true → s.tasks[t]? = some .closing →
      Move setup now s (.turn t) [] ({ s with lock := s.lock.release }.setTask t .closed)

variable {setup : Setup} {now : Instant} {s s' : Subscriber η}

/-- Every step is a move. -/
theorem move_of_step {label : Label η} {events : List (Event η)}
    (h : s.step setup now label = some (s', events)) :
    Move setup now s label (requests events) s' := by
  cases label with
  | listen =>
    cases h
    exact .listen
  | close =>
    cases h
    exact .close
  | input t input =>
    simp only [step] at h
    split at h
    · rename_i hturn
      split at h
      · rename_i stage hstage
        obtain ⟨⟨next, events'⟩, hl, he⟩ := Option.map_eq_some_iff.mp h
        cases he
        exact .turn t input stage next _ hturn hstage (turns_of_listen hl)
      · cases h
    · cases h
  | turn t =>
    simp only [step] at h
    split at h
    · rename_i hturn
      split at h
      · rename_i hstage
        cases h
        exact .depart t hturn hstage
      · cases h
    · cases h

/-- What holds at first and is kept by every move holds in every run. -/
theorem Run.invariant {P : List (Beat η) → Subscriber η → Prop} {history : List (Beat η)}
    (h : Run setup s history s') (hfirst : P [] s)
    (hmove : ∀ {history : List (Beat η)} {q q' : Subscriber η} {now label events}, P history q →
      Move setup now q label (requests events) q' → P (⟨now, label, events, q'⟩ :: history) q') :
    P history s' := by
  induction h with
  | refl => exact hfirst
  | step now label _ hstep ih => exact hmove ih (move_of_step hstep)

/-! ## §3 Calls after a step -/

/-- A call is at a stage of listening. -/
def IsAt (s : Subscriber η) (t : Nat) (stage : Stage η) : Prop :=
  s.tasks[t]? = some (.listening stage)

theorem task_of_enqueue {task other : Task η} {u : Nat}
    (h : (s.enqueue task).tasks[u]? = some other) : s.tasks[u]? = some other ∨ other = task := by
  have h' : (s.tasks ++ [task])[u]? = some other := h
  rw [List.getElem?_append] at h'
  split at h'
  · exact .inl h'
  · exact .inr (List.mem_singleton.mp (List.mem_of_getElem? h'))

theorem task_of_set {t u : Nat} {task other : Task η}
    (h : (s.tasks.set t task)[u]? = some other) :
    u = t ∧ other = task ∨ u ≠ t ∧ s.tasks[u]? = some other := by
  by_cases hu : u = t
  · subst hu
    rw [List.getElem?_set_self'] at h
    obtain ⟨_, _, rfl⟩ := Option.map_eq_some_iff.mp h
    exact .inl ⟨rfl, rfl⟩
  · rw [List.getElem?_set_ne (Ne.symm hu)] at h
    exact .inr ⟨hu, h⟩

theorem task_enqueue {task other : Task η} {u : Nat} (h : s.tasks[u]? = some other) :
    (s.enqueue task).tasks[u]? = some other :=
  (List.getElem?_append_left (List.getElem?_eq_some_iff.mp h).1).trans h

theorem task_set {t : Nat} {task other : Task η} (h : s.tasks[t]? = some other) :
    (s.tasks.set t task)[t]? = some task := by
  rw [List.getElem?_set_self', h]
  rfl

theorem task_set_of_ne {t u : Nat} {task other : Task η} (hne : u ≠ t)
    (h : s.tasks[u]? = some other) : (s.tasks.set t task)[u]? = some other := by
  rw [List.getElem?_set_ne (Ne.symm hne)]
  exact h

/-- Where a listening call is after a move: where it was, at its beginning, or where its turn has
brought it. -/
theorem Move.came {label : Label η} {asked : List (Request η)} {t : Nat} {next : Stage η}
    (h : Move setup now s label asked s') (ht : s'.IsAt t next) :
    s.IsAt t next ∨ next = .queued ∨ ∃ input stage, label = .input t input ∧ s.IsAt t stage ∧
      setup.Turns s.isClosed now (s.taken + 1) stage input next asked := by
  cases h with
  | listen =>
    rcases task_of_enqueue ht with hold | htask
    · exact .inl hold
    · cases htask
      exact .inr (.inl rfl)
  | close =>
    rcases task_of_enqueue ht with hold | htask
    · exact .inl hold
    · cases htask
  | turn u input stage next' _ _ hstage hturn =>
    rcases task_of_set ht with ⟨rfl, htask⟩ | ⟨_, hold⟩
    · cases htask
      exact .inr (.inr ⟨input, stage, rfl, hstage, hturn⟩)
    · exact .inl hold
  | depart u _ _ =>
    rcases task_of_set ht with ⟨_, htask⟩ | ⟨_, hold⟩
    · cases htask
    · exact .inl hold

/-- A closed subscriber stays closed. -/
theorem Move.isClosed {label : Label η} {asked : List (Request η)}
    (h : Move setup now s label asked s') (hclosed : s.isClosed = true) : s'.isClosed = true := by
  cases h with
  | close => rfl
  | listen | turn | depart => exact hclosed

/-! ## §4 Order among calls -/

/-- Whether a call at a stage has its turn: it neither waits for it nor is over. -/
def Stage.isActive : Stage η → Bool
  | .queued | .returned | .crashed => false
  | _ => true

/-- Whether only the end brings a call to a stage. -/
def Stage.isStopping : Stage η → Bool
  | .settling _ .requeue | .leaving .shutdown | .returned => true
  | _ => false

/-- A closed subscriber on which no listening call has the turn. -/
structure IsSettled (s : Subscriber η) : Prop where
  closed : s.isClosed = true
  quiet : ∀ t stage, s.IsAt t stage → stage.isActive = false

/-- What holds of the calls in every run: a listening call works only while it has the turn, the
stages that belong to the end are those of a closed subscriber, and once a closing call has returned
no listening call has the turn. -/
structure Orderly (s : Subscriber η) : Prop where
  turn : ∀ t stage, s.IsAt t stage → stage.isActive = true → s.lock.isHeldBy t = true
  stopping : ∀ t stage, s.IsAt t stage → stage.isStopping = true → s.isClosed = true
  closing : ∀ t : Nat, s.tasks[t]? = some .closing → s.isClosed = true
  closed : ∀ t : Nat, s.tasks[t]? = some .closed → s.IsSettled

variable {closed : Bool} {span : Nat} {stage next : Stage η} {input : Input η}
  {asked : List (Request η)}

/-- A call that has come to an end was told to, or was on its way to it. -/
theorem Setup.Turns.isStopping (h : setup.Turns closed now span stage input next asked)
    (hn : next.isStopping = true) : closed = true ∨ stage.isStopping = true := by
  cases h with
  | dismiss hc | halt _ _ hc | giveBack _ _ hc | retire _ hc _ | interrupt _ hc => exact .inl hc
  | finish _ => exact .inr rfl
  | decide job result x hd =>
    -- only an acknowledgement or a rejection is decided on
    rcases Options.decision_settle hd with rfl | rfl <;> cases hn
  | giveUp job x result ending he =>
    cases ending with
    | restart => cases hn
    | shutdown =>
      cases x with
      | requeue => exact .inr rfl
      | ack | reject => cases he
      | republish => cases result <;> cases he
  | _ => cases hn

/-- A call that takes a turn waits for it or has it. -/
theorem Setup.Turns.isActive_or_queued (h : setup.Turns closed now span stage input next asked) :
    stage.isActive = true ∨ stage = .queued := by
  cases h with
  | dismiss _ | enter _ => exact .inr rfl
  | _ => exact .inl rfl

/-- A call that comes to its turn when the subscriber is closed returns at once. -/
theorem Setup.Turns.of_queued (h : setup.Turns true now span .queued input next asked) :
    next = .returned ∧ asked = [] ∧ input = .turn := by
  cases h with
  | dismiss _ => exact ⟨rfl, rfl, rfl⟩
  | enter hc => cases hc

/-- A call that is over has no turn any more. -/
theorem Stage.isOver_of_isActive (h : stage.isActive = true) : stage.isOver = false := by
  cases stage with
  | queued | returned | crashed => cases h
  | _ => rfl

theorem Orderly.new : Orderly (Subscriber.new : Subscriber η) := by
  constructor <;> intros <;> contradiction

private theorem Orderly.enqueue (ho : s.Orderly) (task : Task η)
    (hqueued : ∀ stage, task = .listening stage → stage = .queued) (hopen : task ≠ .closed)
    (closed : Bool) (hclosed : s.isClosed = true → closed = true)
    (hclosing : task = .closing → closed = true) :
    Orderly { s.enqueue task with isClosed := closed } := by
  have hat : ∀ u stage, (s.enqueue task).IsAt u stage → s.IsAt u stage ∨ stage = .queued := by
    intro u stage hu
    rcases task_of_enqueue hu with hu | htask
    · exact .inl hu
    · exact .inr (hqueued stage htask.symm)
  refine ⟨?_, ?_, ?_, ?_⟩
  · intro u stage hu hactive
    rcases hat u stage hu with hu | rfl
    · exact Lock.isHeldBy_request (ho.turn u stage hu hactive) _
    · cases hactive
  · intro u stage hu hstopping
    rcases hat u stage hu with hu | rfl
    · exact hclosed (ho.stopping u stage hu hstopping)
    · cases hstopping
  · intro u hu
    rcases task_of_enqueue hu with hu | htask
    · exact hclosed (ho.closing u hu)
    · exact hclosing htask.symm
  · intro u hu
    rcases task_of_enqueue hu with hu | htask
    · obtain ⟨hc, hq⟩ := ho.closed u hu
      refine ⟨hclosed hc, ?_⟩
      intro v stage hv
      rcases hat v stage hv with hv | rfl
      · exact hq v stage hv
      · rfl
    · exact absurd htask.symm hopen

private theorem Orderly.advance {t : Nat} (ho : s.Orderly) (hturn : s.lock.isHeldBy t = true)
    (hstage : s.IsAt t stage)
    (ht : setup.Turns s.isClosed now span stage input next asked) :
    Orderly (s.advance t input next) := by
  have hat : ∀ u stage', (s.advance t input next).IsAt u stage' →
      u = t ∧ stage' = next ∨ u ≠ t ∧ s.IsAt u stage' := by
    intro u stage' hu
    rcases task_of_set hu with ⟨rfl, htask⟩ | hu
    · cases htask
      exact .inl ⟨rfl, rfl⟩
    · exact .inr hu
  have hother : ∀ (u : Nat) (task : Task η), task = .closing ∨ task = .closed →
      (s.advance t input next).tasks[u]? = some task → s.tasks[u]? = some task := by
    intro u task htask hu
    rcases task_of_set hu with ⟨_, rfl⟩ | ⟨_, hu⟩
    · rcases htask with htask | htask <;> cases htask
    · exact hu
  refine ⟨?_, ?_, ?_, ?_⟩
  · intro u stage' hu hactive
    rcases hat u stage' hu with ⟨rfl, rfl⟩ | ⟨hne, hu⟩
    · show (if stage'.isOver then s.lock.release else s.lock).isHeldBy u = true
      rw [Stage.isOver_of_isActive hactive]
      exact hturn
    · -- no other call has the turn, so no other one is at work
      exact absurd (Lock.isHeldBy_unique hturn (ho.turn u stage' hu hactive)) hne
  · intro u stage' hu hstopping
    rcases hat u stage' hu with ⟨rfl, rfl⟩ | ⟨_, hu⟩
    · rcases ht.isStopping hstopping with hc | hs
      · exact hc
      · exact ho.stopping u stage hstage hs
    · exact ho.stopping u stage' hu hstopping
  · intro u hu
    exact ho.closing u (hother u _ (.inl rfl) hu)
  · intro u hu
    obtain ⟨hc, hq⟩ := ho.closed u (hother u _ (.inr rfl) hu)
    refine ⟨hc, ?_⟩
    intro v stage' hv
    rcases hat v stage' hv with ⟨rfl, rfl⟩ | ⟨_, hv⟩
    · -- the call has waited for its turn, and now it returns
      rcases ht.isActive_or_queued with hactive | rfl
      · rw [hq v stage hstage] at hactive
        cases hactive
      · rw [hc] at ht
        obtain ⟨rfl, _, _⟩ := ht.of_queued
        rfl
    · exact hq v stage' hv

private theorem Orderly.depart {t : Nat} (ho : s.Orderly) (hturn : s.lock.isHeldBy t = true)
    (hstage : s.tasks[t]? = some .closing) :
    Orderly ({ s with lock := s.lock.release }.setTask t .closed) := by
  have hat : ∀ u stage, IsAt ({ s with lock := s.lock.release }.setTask t .closed) u stage →
      s.IsAt u stage := by
    intro u stage hu
    rcases task_of_set hu with ⟨_, htask⟩ | ⟨_, hu⟩
    · cases htask
    · exact hu
  have hclosed := ho.closing t hstage
  -- the closing call has the turn, so no listening call has it
  have hquiet : ∀ u stage, s.IsAt u stage → stage.isActive = false := by
    intro u stage hu
    cases hactive : stage.isActive with
    | false => rfl
    | true =>
      obtain rfl := Lock.isHeldBy_unique hturn (ho.turn u stage hu hactive)
      rw [IsAt, hstage] at hu
      cases hu
  refine ⟨?_, fun _ _ _ _ => hclosed, fun _ _ => hclosed, ?_⟩
  · intro u stage hu hactive
    rw [hquiet u stage (hat u stage hu)] at hactive
    cases hactive
  · intro u _
    exact ⟨hclosed, fun v stage hv => hquiet v stage (hat v stage hv)⟩

/-- Every move keeps the order among the calls. -/
theorem Orderly.move {label : Label η} (ho : s.Orderly) (h : Move setup now s label asked s') :
    s'.Orderly := by
  cases h with
  | listen =>
    refine ho.enqueue (.listening .queued) ?_ (by nofun) s.isClosed id (by nofun)
    intro stage h
    cases h
    rfl
  | close =>
    exact ho.enqueue .closing (by nofun) (by nofun) true (fun _ => rfl) (fun _ => rfl)
  | turn t input stage next asked hturn hstage ht => exact ho.advance hturn hstage ht
  | depart t hturn hstage => exact ho.depart hturn hstage

/-- The calls are in order in every run. -/
theorem Run.orderly {history : List (Beat η)} (h : Run setup .new history s) : s.Orderly :=
  h.invariant (P := fun _ s => s.Orderly) .new fun ho hm => ho.move hm

/-! ## §5 Runs that are given by their labels -/

/-- The run of labels from a subscriber on, if each of them is possible. -/
def replay (setup : Setup) : List (Beat η) → Subscriber η → List (Instant × Label η) →
    Option (List (Beat η) × Subscriber η)
  | history, s, [] => some (history, s)
  | history, s, (now, label) :: rest =>
    match s.step setup now label with
    | some (s', events) => replay setup (⟨now, label, events, s'⟩ :: history) s' rest
    | none => none

theorem run_of_replay {history history' : List (Beat η)} {s₀ : Subscriber η}
    {labels : List (Instant × Label η)} (hrun : Run setup s₀ history s)
    (h : replay setup history s labels = some (history', s')) : Run setup s₀ history' s' := by
  induction labels generalizing history s with
  | nil =>
    cases h
    exact hrun
  | cons label rest ih =>
    rw [replay] at h
    cases hstep : s.step setup label.1 label.2 with
    | none =>
      rw [hstep] at h
      cases h
    | some effect =>
      rw [hstep] at h
      exact ih (.step label.1 label.2 hrun hstep) h

end Courier.Subscriber
