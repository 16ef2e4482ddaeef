import Courier.Proofs.Dialer.Order

/-!
# What a watcher goes through

A watcher is given something in some of its steps: an error over the signal of its connection, the
end of this signal, an answer of the connector, or the place for a new connection. What it is given
and what it asks for and waits for are its marks, and the marks of a run tell the story of the
watcher. No other task leaves a mark on it.
-/

namespace Courier.Dialer

variable {policy : Policy} {history before later : List (Dialer × Label)} {d e d' : Dialer}
  {label : Label} {events : List Event} {t u w c : Nat} {stage : Stage}

/-! ## §1 Marks -/

/-- What a watcher is given, and what it does. -/
inductive Mark where
  /-- An error has come over the signal of the connection that is watched. -/
  | failed (connection : Nat) (error : BrokerError)
  /-- The signal of the connection that is watched has ended without an error. -/
  | ended (connection : Nat)
  | dials
  /-- The connector has answered a dial: with an error, or with a new connection. -/
  | answered (result : Except BrokerError Nat)
  | pauses (wait : Duration)
  /-- A new connection is held. -/
  | holds (connection : Nat)
deriving DecidableEq, Repr

def Mark.isHolds : Mark → Bool
  | .holds _ => true
  | _ => false

/-- The failure that a connection has reported and that no watcher has taken note of. -/
def pending? (d : Dialer) (c : Nat) : Option BrokerError :=
  d.connections[c]?.bind Connection.pending

/-- What a watcher is given when it goes on from a stage. -/
def news? (d : Dialer) : Stage → Label → Option Mark
  | .watching c, .proceed _ => some ((d.pending? c).elim (.ended c) (.failed c))
  | .installing _ c, .proceed _ => some (.holds c)
  | .dialing _, .answer _ result => some (.answered (result.map fun _ => d.connections.length))
  | _, _ => none

/-- The task that takes a step. -/
def actor? (d : Dialer) : Label → Option Nat
  | .call _ => some d.tasks.length
  | .proceed t | .answer t _ | .stop t | .drop t => some t
  | .report _ _ | .hangUp _ => none

/-- What a watcher is given in a step. -/
def given? (d : Dialer) (w : Nat) (label : Label) : Option Mark :=
  if d.actor? label = some w then (d.active? w).bind fun stage => d.news? stage label else none

/-- What an event tells of a watcher. -/
def Event.mark? (w : Nat) : Event → Option Mark
  | .asked t .dial => if t = w then some .dials else none
  | .paused t wait => if t = w then some (.pauses wait) else none
  | _ => none

/-- The marks that a step leaves on a watcher: what it is given, and then what it does. -/
def marked (policy : Policy) (w : Nat) (d : Dialer) (label : Label) : List Mark :=
  match d.step policy label with
  | some (_, events) => (d.given? w label).toList ++ events.filterMap (Event.mark? w)
  | none => []

/-- The marks of a watcher in a part of a run, the first mark first. -/
def marks (policy : Policy) (w : Nat) (history : List (Dialer × Label)) : List Mark :=
  history.reverse.flatMap fun p => marked policy w p.1 p.2

theorem marks_cons : marks policy w ((d, label) :: history)
    = marks policy w history ++ marked policy w d label := by
  simp [marks]

theorem marks_append : marks policy w (later ++ before)
    = marks policy w before ++ marks policy w later := by
  simp [marks]

theorem marked_of_step (h : d.step policy label = some (d', events)) :
    marked policy w d label = (d.given? w label).toList ++ events.filterMap (Event.mark? w) := by
  simp [marked, h]

/-- Why a watcher has a mark of what it was given. -/
inductive Given (d : Dialer) (w : Nat) : Label → Mark → Prop where
  | failed (c : Nat) (error : BrokerError) : d.active? w = some (.watching c) →
      d.pending? c = some error → Given d w (.proceed w) (.failed c error)
  | ended (c : Nat) : d.active? w = some (.watching c) → d.pending? c = none →
      Given d w (.proceed w) (.ended c)
  | holds (p : Purpose) (c : Nat) : d.active? w = some (.installing p c) →
      Given d w (.proceed w) (.holds c)
  | answered (p : Purpose) (result : Except BrokerError Unit) : d.active? w = some (.dialing p) →
      Given d w (.answer w result) (.answered (result.map fun _ => d.connections.length))

theorem given_of_given? {mark : Mark} (h : d.given? w label = some mark) :
    Given d w label mark := by
  unfold given? at h
  split at h
  · rename_i hactor
    obtain ⟨a, hs, hnews⟩ := Option.bind_eq_some_iff.mp h
    unfold news? at hnews
    split at hnews
    · rename_i c t
      cases hactor
      cases hp : d.pending? c with
      | none =>
        rw [hp] at hnews
        cases hnews
        exact .ended c hs hp
      | some error =>
        rw [hp] at hnews
        cases hnews
        exact .failed c error hs hp
    · cases hactor
      cases hnews
      exact .holds _ _ hs
    · cases hactor
      cases hnews
      exact .answered _ _ hs
    · cases hnews
  · cases h

/-- A mark is one of what the watcher was given, or of what it does. -/
theorem given_of_marked {mark : Mark} (h : mark ∈ marked policy w d label) :
    Given d w label mark ∨ mark = .dials ∨ ∃ wait, mark = .pauses wait := by
  unfold marked at h
  split at h
  · rw [List.mem_append, Option.mem_toList] at h
    rcases h with h | h
    · exact .inl (given_of_given? h)
    · obtain ⟨event, _, hmark⟩ := List.mem_filterMap.mp h
      unfold Event.mark? at hmark
      split at hmark
      · split at hmark <;> cases hmark
        exact .inr (.inl rfl)
      · split at hmark <;> cases hmark
        exact .inr (.inr ⟨_, rfl⟩)
      · cases hmark
  · cases h

/-- A watcher that has dialed has a mark of it. -/
theorem dials_mem_marks (h : .asked w .dial ∈ shown policy history) :
    .dials ∈ marks policy w history := by
  obtain ⟨⟨d, label⟩, hmem, hshown⟩ := List.mem_flatMap.mp h
  refine List.mem_flatMap.mpr ⟨(d, label), List.mem_reverse.mpr hmem, ?_⟩
  cases hstep : d.step policy label with
  | none => simp [hstep] at hshown
  | some effect =>
    simp only [hstep, Option.map_some, Option.getD_some] at hshown
    simp only [marked, hstep, List.mem_append]
    exact .inr (List.mem_filterMap.mpr ⟨_, hshown, if_pos rfl⟩)

/-! ## §2 Whose step it is -/

/-- The task of which an event tells. -/
def Event.actor? : Event → Option Nat
  | .asked t _ | .paused t _ | .returned t _ => some t
  | .logged _ | .spawned _ => none

/-- A task that goes on takes the step itself. -/
theorem Deed.actor {b : Stage} (h : Deed policy d label t stage b d' events) :
    d.actor? label = some t := by
  rcases h.driven.proceeds_or_answers with ⟨_, rfl⟩ | ⟨_, _, rfl⟩ <;> rfl

theorem Ends.actor (h : Ends policy d t label) : d.actor? label = some t := by
  cases h <;> rfl

/-- A call takes its steps by going on, until it brings a watcher. -/
theorem Steps.deed_of_call {a : Stage} (h : Steps policy d label d' events)
    (hs : d.active? t = some a) (hcall : a.isWatcher = false) (hadopting : ∀ c, a ≠ .adopting c)
    (hactor : d.actor? label = some t) : ∃ b, Deed policy d label t a b d' events := by
  cases h with
  | call operation =>
    cases hactor
    rw [active?_length] at hs
    cases hs
  | deed _ u a' b _ _ hdeed =>
    obtain rfl : u = t := Option.some.inj (hdeed.actor.symm.trans hactor)
    obtain rfl : a' = a := Option.some.inj (hdeed.active.symm.trans hs)
    exact ⟨b, hdeed⟩
  | adopt u c hs' =>
    obtain rfl : u = t := Option.some.inj hactor
    exact absurd (Option.some.inj (hs.symm.trans hs')) (hadopting c)
  | exit _ u _ hends =>
    obtain rfl : u = t := Option.some.inj (hends.actor.symm.trans hactor)
    rw [hends.isWatcher hs] at hcall
    cases hcall
  | report | hangUp => cases hactor

/-- The other tasks are where they were after a step that brings no watcher. -/
theorem Steps.active?_of_ne {a : Stage} (h : Steps policy d label d' events)
    (hadopting : ∀ u c, d.active? u ≠ some (.adopting c)) (hs : d.active? t = some a)
    (hactor : d.actor? label ≠ some t) : d'.active? t = some a := by
  cases h with
  | call operation =>
    rw [(puts_begin d operation).active?, if_neg (Nat.ne_of_lt (lt_of_active? hs)), hs]
  | deed _ u a' b _ _ hdeed =>
    have hu : t ≠ u := by
      rintro rfl
      exact hactor hdeed.actor
    rw [hdeed.puts.active?, if_neg hu, hs]
  | adopt u c hs' => exact absurd hs' (hadopting u c)
  | exit _ u _ hends =>
    have hu : t ≠ u := by
      rintro rfl
      exact hactor hends.actor
    rw [active?_exit, if_neg hu, hs]
  | report | hangUp => exact hs

/-- What a step of a task does not do: it tells of no other task, no connection reports anything,
and no task disappears. -/
structure Confined (d : Dialer) (t : Nat) (effect : Effect) : Prop where
  told : ∀ event ∈ effect.2, ∀ u, event.actor? = some u → u = t
  pending : ∀ c error, effect.1.pending? c = some error → d.pending? c = some error
  tasks : d.tasks.length ≤ effect.1.tasks.length

theorem pending?_change (d : Dialer) (c u : Nat) (f : Connection → Connection) :
    (d.changeConnection c f).pending? u
      = d.connections[u]?.bind fun x => if c = u then (f x).pending else x.pending := by
  unfold pending? changeConnection
  rw [List.getElem?_modify]
  by_cases hu : c = u
  · subst hu
    cases d.connections[c]? <;> simp
  · cases d.connections[u]? <;> simp [hu]

theorem pending?_congr (h : e.connections = d.connections) : e.pending? = d.pending? := by
  funext c
  simp [pending?, h]

theorem pending?_change_of {f : Connection → Connection} {error : BrokerError}
    (hf : ∀ x, (f x).pending = some error → x.pending = some error)
    (h : (d.changeConnection c f).pending? u = some error) : d.pending? u = some error := by
  rw [pending?_change, Option.bind_eq_some_iff] at h
  obtain ⟨x, hx, h⟩ := h
  rw [pending?, hx]
  split at h
  · exact hf x h
  · exact h

private theorem told_nil (t : Nat) :
    ∀ event ∈ ([] : List Event), ∀ u, event.actor? = some u → u = t :=
  fun _ hmem => absurd hmem List.not_mem_nil

/-- What is asked of a connection does not make it report anything. -/
private theorem confined_of_ask (request : Request) (hconnections : e.connections = d.connections)
    (htasks : d.tasks.length ≤ e.tasks.length) : Confined d t (e.ask t request stage) := by
  cases request with
  | dial | openSession _ =>
    exact ⟨by simp [ask, Event.actor?], fun _ _ h => pending?_congr hconnections ▸ h,
      by simpa [ask, setStage] using htasks⟩
  | close old =>
    refine ⟨by simp [ask, Event.actor?], fun c error h => ?_, ?_⟩
    · rw [← pending?_congr hconnections]
      exact pending?_change_of (c := old) (f := fun x => { x with closings := x.closings + 1 })
        (fun _ hx => hx) h
    · simpa [ask, setStage, changeConnection] using htasks

private theorem confined_of_settle (p : Purpose) (hconnections : e.connections = d.connections)
    (htasks : e.tasks = d.tasks) : Confined d t (e.settle t p c) := by
  cases p with
  | connecting =>
    exact ⟨told_nil _, fun _ _ h => pending?_congr hconnections ▸ h,
      by simp [settle, requestWatcher, setStage, htasks]⟩
  | redialing attempt =>
    exact ⟨by simp [settle, Event.actor?], fun _ _ h => pending?_congr hconnections ▸ h,
      by simp [settle, setStage, htasks]⟩

private theorem confined_of_begin (d : Dialer) (operation : Operation) :
    Confined d d.tasks.length (d.begin operation) := by
  cases operation with
  | connect => exact confined_of_ask .dial rfl (by simp)
  | reconnect | session | check =>
    exact ⟨told_nil _, fun _ _ h => h, by simp [Dialer.begin, requestHeld, setStage]⟩
  | close => exact ⟨told_nil _, fun _ _ h => h, by simp [Dialer.begin, requestWatcher, setStage]⟩

private theorem confined_of_exit (d : Dialer) (t : Nat)
    (htold : ∀ event ∈ events, ∀ u, event.actor? = some u → u = t) :
    Confined d t (d.exit t, events) :=
  ⟨htold, fun _ _ h => h, by simp [exit, setStage]⟩

private theorem confined_of_finish (outcome : Outcome)
    (hconnections : e.connections = d.connections) (htasks : e.tasks = d.tasks) :
    Confined d t (e.finish t outcome) := by
  exact ⟨by simp [finish, Event.actor?], fun _ _ h => pending?_congr hconnections ▸ h,
    by simp [finish, setStage, htasks]⟩

private theorem confined_of_install (d : Dialer) (t : Nat) (p : Purpose) (c : Nat) :
    Confined d t (d.install t p c) := by
  unfold install
  cases d.held with
  | some old => exact confined_of_ask (.close old) rfl (Nat.le_refl _)
  | none => exact confined_of_settle p rfl rfl

private theorem confined_of_refuse (policy : Policy) (d : Dialer) (t : Nat) (p : Purpose)
    (error : BrokerError) : Confined d t (refuse policy d t p error) := by
  unfold refuse
  cases p with
  | connecting => exact confined_of_finish _ rfl rfl
  | redialing attempt =>
    dsimp only
    split
    · exact confined_of_exit d t (by simp [Event.actor?])
    · exact ⟨by simp [Event.actor?], fun _ _ h => h, by simp [setStage]⟩

private theorem confined_of_adopt (d : Dialer) (t c : Nat) : Confined d t (d.adopt t c) := by
  refine ⟨by simp [adopt, finish, Event.actor?], fun _ _ h => h, ?_⟩
  cases hw : d.watcher <;> simp [adopt, finish, releaseWatcher, setStage, hw]

variable {effect : Effect}

private theorem confined_of_notice (h : d.notice t c = some effect) : Confined d t effect := by
  unfold notice at h
  split at h
  · cases h
  · split at h
    · cases h
      refine ⟨by simp [Event.actor?], fun u error h => ?_,
        by simp [requestHeld, changeConnection, setStage]⟩
      -- what was reported is taken note of, so it is not pending any more
      exact pending?_change_of (c := c) (f := fun x => { x with pending := none }) (by simp) h
    · split at h
      · cases h
        exact confined_of_exit d t (told_nil t)
      · cases h

private theorem confined_of_proceedHeld (h : d.proceedHeld t stage = some effect) :
    Confined d t effect := by
  unfold proceedHeld at h
  split at h
  · cases h
    exact confined_of_install d t _ _
  · split at h
    · cases h
      exact confined_of_ask _ rfl (Nat.le_refl _)
    · cases h
      exact confined_of_ask _ rfl (Nat.le_refl _)
  · split at h
    · cases h
      exact confined_of_ask _ rfl (Nat.le_refl _)
    · cases h
      exact confined_of_finish _ rfl rfl
  · cases h
    exact confined_of_finish _ rfl rfl
  · dsimp only at h
    split at h
    · cases h
      exact confined_of_ask _ rfl (Nat.le_refl _)
    · cases h
      exact confined_of_finish _ rfl rfl
  · cases h
    exact confined_of_ask _ rfl (Nat.le_refl _)
  · cases h

private theorem confined_of_proceedWatcher (h : d.proceedWatcher t stage = some effect) :
    Confined d t effect := by
  unfold proceedWatcher at h
  split at h
  · cases h
    exact confined_of_adopt d t _
  · split at h
    · cases h
      exact ⟨told_nil _, fun _ _ h => h, by simp [setStage]⟩
    · cases h
      exact ⟨told_nil _, fun _ _ h => h, by simp [releaseWatcher, requestHeld, setStage]⟩
  · cases h

private theorem confined_of_proceed (h : d.proceed t = some effect) : Confined d t effect := by
  unfold proceed at h
  split at h
  · cases h
  · exact confined_of_notice h
  · split at h
    · cases h
      exact ⟨told_nil _, fun _ _ h => h, by simp [releaseWatcher, requestHeld, setStage]⟩
    · cases h
  · cases h
    exact confined_of_ask _ rfl (Nat.le_refl _)
  · split at h
    · exact confined_of_proceedHeld h
    · split at h
      · exact confined_of_proceedWatcher h
      · cases h

private theorem confined_of_answered {result : Except BrokerError Unit}
    (h : d.answered policy t result = some effect) : Confined d t effect := by
  unfold answered at h
  split at h
  · -- a connection that was dialed has not reported anything
    cases h
    refine ⟨told_nil t, fun c error h => ?_, by simp [requestHeld, setStage]⟩
    have hdialed : (d.connections ++ [Connection.fresh])[c]?.bind Connection.pending
        = some error := h
    unfold pending?
    rcases Nat.lt_trichotomy c d.connections.length with hlt | rfl | hgt
    · rwa [List.getElem?_append_left hlt] at hdialed
    · simp [Connection.fresh] at hdialed
    · rw [List.getElem?_eq_none (by simp; omega)] at hdialed
      cases hdialed
  · cases h
    exact confined_of_refuse policy d t _ _
  · cases h
    exact confined_of_settle _ rfl rfl
  · cases h
    exact confined_of_ask _ rfl (Nat.le_refl _)
  · cases h
    exact confined_of_finish _ rfl rfl
  · cases h
    exact confined_of_finish _ rfl rfl
  · cases h

/-- A step of a task is confined to this task. -/
theorem confined_of_step (h : d.step policy label = some effect) (ht : d.actor? label = some t) :
    Confined d t effect := by
  unfold step at h
  cases label with
  | call operation =>
    cases h
    cases ht
    exact confined_of_begin d operation
  | proceed u =>
    cases ht
    dsimp only at h
    split at h
    · cases h
    · exact confined_of_proceed h
  | answer u result =>
    cases ht
    dsimp only at h
    split at h
    · cases h
    · exact confined_of_answered h
  | stop u =>
    cases ht
    dsimp only at h
    split at h
    · split at h
      · cases h
        exact confined_of_exit d t (told_nil t)
      · cases h
    · cases h
  | drop u =>
    cases ht
    dsimp only at h
    split at h
    · cases h
      exact confined_of_exit d t (told_nil t)
    · cases h
  | report | hangUp => cases ht

/-- A step without a task is one of a signal: nothing is to be seen of it. -/
theorem signal_of_step (h : d.step policy label = some (d', events))
    (hnone : d.actor? label = none) : events = [] ∧ d'.tasks = d.tasks := by
  cases label with
  | report c error =>
    simp only [step] at h
    split at h
    · split at h
      · cases h
      · cases h
        exact ⟨rfl, rfl⟩
    · cases h
  | hangUp c =>
    simp only [step] at h
    split at h
    · cases h
      exact ⟨rfl, rfl⟩
    · cases h
  | _ => cases hnone

/-- What a step tells of a task is told by the task that takes it. -/
theorem told_of_step (h : d.step policy label = some (d', events)) {event : Event}
    (hmem : event ∈ events) (hu : event.actor? = some u) : d.actor? label = some u := by
  cases hactor : d.actor? label with
  | none =>
    rw [(signal_of_step h hactor).1] at hmem
    cases hmem
  | some t => rw [(confined_of_step h hactor).told event hmem u hu]

/-- Tasks do not disappear. -/
theorem length_le_of_step (h : d.step policy label = some (d', events)) :
    d.tasks.length ≤ d'.tasks.length := by
  cases hactor : d.actor? label with
  | none => exact Nat.le_of_eq (congrArg List.length (signal_of_step h hactor).2.symm)
  | some t => exact (confined_of_step h hactor).tasks

private theorem stage?_of_le (h : d.tasks.length ≤ t) : d.stage? t = none := by
  simp [stage?, h]

/-- Only a task that exists takes a step, be it one that begins with it. -/
theorem actor_lt_of_step (h : d.step policy label = some (d', events))
    (hactor : d.actor? label = some t) : t < d'.tasks.length := by
  refine Nat.lt_of_not_le fun hle => ?_
  have hstage : d.stage? t = none := stage?_of_le (Nat.le_trans (length_le_of_step h) hle)
  cases label with
  | call operation =>
    cases hactor
    have heq : (d.begin operation).1 = d' := congrArg Prod.fst (Option.some.inj h)
    have hhere := (puts_begin d operation).here
    rw [heq, List.getElem?_eq_none hle] at hhere
    cases hhere
  | proceed u =>
    cases hactor
    simp [step, proceed, hstage] at h
  | answer u result =>
    cases hactor
    simp [step, answered, hstage] at h
  | stop u =>
    cases hactor
    simp [step, hstage] at h
  | drop u =>
    cases hactor
    simp [step, hasEnded, hstage] at h
  | report | hangUp => cases hactor

theorem Event.actor?_of_mark? {event : Event} {mark : Mark} (h : event.mark? w = some mark) :
    event.actor? = some w := by
  unfold mark? at h
  split at h
  · split at h
    · rename_i ht
      exact congrArg some ht
    · cases h
  · split at h
    · rename_i ht
      exact congrArg some ht
    · cases h
  · cases h

/-- A step leaves no mark on another task. -/
theorem marked_of_ne (hactor : d.actor? label ≠ some w) : marked policy w d label = [] := by
  cases hstep : d.step policy label with
  | none => simp [marked, hstep]
  | some effect =>
    obtain ⟨d', events⟩ := effect
    rw [marked_of_step hstep, given?, if_neg hactor]
    refine List.filterMap_eq_nil_iff.mpr fun event hmem => ?_
    cases hmark : event.mark? w with
    | none => rfl
    | some mark => exact absurd (told_of_step hstep hmem (event.actor?_of_mark? hmark)) hactor

/-! ## §3 Where failures come from -/

theorem pending?_of_step {error : BrokerError}
    (h : d.step policy label = some (d', events)) (hp : d'.pending? c = some error) :
    d.pending? c = some error ∨ label = .report c error := by
  cases hactor : d.actor? label with
  | some t => exact .inl ((confined_of_step h hactor).pending c error hp)
  | none =>
    cases label with
    | report c' error' =>
      simp only [step] at h
      split at h
      · split at h
        · cases h
        · cases h
          rw [pending?_change, Option.bind_eq_some_iff] at hp
          obtain ⟨x, hx, hp⟩ := hp
          -- the signal carries what was reported first, be it now or before
          by_cases hnow : c' = c ∧ x.reported = false
          · obtain ⟨rfl, hreported⟩ := hnow
            simp only [if_true, hreported, Bool.false_eq_true, if_false, Option.some.injEq] at hp
            exact .inr (hp ▸ rfl)
          · have hpending : x.pending = some error := by grind
            exact .inl (by simp [pending?, hx, hpending])
      · cases h
    | hangUp c' =>
      simp only [step] at h
      split at h
      · cases h
        refine .inl (pending?_change_of (c := c') (f := fun x => { x with ended := true }) ?_ hp)
        exact fun _ hx => hx
      · cases h
    | _ => cases hactor

/-- What is pending of a connection was reported by it. -/
theorem reported_of_pending? (hrun : Run policy history d) {error : BrokerError}
    (hp : d.pending? c = some error) : ∃ e, (e, .report c error) ∈ history := by
  induction hrun with
  | new => cases hp
  | @step _ d _ _ label hrun hstep ih =>
    rcases pending?_of_step hstep hp with hp | rfl
    · obtain ⟨e, hmem⟩ := ih hp
      exact ⟨e, .tail _ hmem⟩
    · exact ⟨d, .head _⟩

end Courier.Dialer
