import Courier.Proofs.Dialer.Trying

/-!
# Dials that fail

A call to connect or to reconnect returns the error of its dial. If it overlaps with no other call
that manages the dialer, it has not meddled with the watcher by then, wherever the watcher was and
whatever it did meanwhile: a connection that was held and watched still is, and a redialing goes on.
A reconnecting call has closed what it found, and nothing else.
-/

namespace Courier.Dialer

variable {policy : Policy} {history before later since : List (Dialer × Label)}
  {d d₁ d' : Dialer} {label : Label} {events : List Event} {t u w c : Nat} {a b : Stage}
  {operation : Operation}

/-! ## §1 The steps of such a call -/

/-- What a step leaves as it is: the generation, the place of the watcher, where each watcher is,
and whether it is to end. -/
structure LeavesWatch (d e : Dialer) : Prop where
  generation : e.generation = d.generation
  watcher : e.watcher = d.watcher
  position : ∀ w a, a.isWatcher = true → (e.active? w = some a ↔ d.active? w = some a)
  order : ∀ w a, d.active? w = some a → a.isWatcher = true → e.shutdown = d.shutdown

/-- What a step leaves as it is: the connection that is held, and how often each one was asked to
close. -/
structure LeavesHeld (d e : Dialer) : Prop where
  held : e.held = d.held
  closings : ∀ c, e.closings c = d.closings c

section

variable (hsole : Sole d t) (h : Deed policy d label t a b d' events) (ha : a.isTrying = true)

include hsole h ha

private theorem leavesWatch_of_deed : LeavesWatch d d' where
  generation := by
    rw [h.generation]
    cases a with
    | installing => cases ha
    | _ => rfl
  watcher := by
    rw [h.watcher, if_neg]
    rintro rfl
    cases ha
  position := by
    intro w x hx
    have hself := not_isWatcher_of_isTrying ha
    rw [h.puts.active?]
    split
    · rename_i hw
      subst hw
      rw [h.active]
      constructor
      · rintro ⟨⟩
        cases hself.symm.trans (h.goes.isWatcher hx)
      · rintro ⟨⟩
        cases hself.symm.trans hx
    · rfl
  order := by
    intro w x hw hx
    rw [h.shutdown, hsole.running w x hw hx, Bool.false_and]

end

private theorem held_of_trying (h : Deed policy d label t a b d' events) (ha : a.isTrying = true) :
    d'.held = d.held ∨ d'.held = none := by
  rw [h.held]
  cases a with
  | discarding | emptying | losing => exact .inr rfl
  | installing => cases ha
  | _ => exact .inl rfl

private theorem leavesHeld_of_dialing {Lost Orphaned : Nat → Prop}
    (hl : Ledger Lost Orphaned d.view)
    (h : Deed policy d label t (.dialing .connecting) b d' events) : LeavesHeld d d' where
  held := h.held
  closings := by
    intro c
    have hb : b.awaits? ≠ some (.close c) := by
      cases h.goes with
      | refused | dialed => nofun
    rw [h.closings (fun c hc => (hl.held c hc).1) c, if_neg hb, Nat.add_zero]

private theorem leavesWatch_of_begin (hsole : Sole d d.tasks.length)
    (hfirst : operation.firstStage.isTrying = true) : LeavesWatch d (d.begin operation).1 where
  generation := begin_generation d operation
  watcher := begin_watcher d operation
  position := by
    intro w x hx
    rw [(puts_begin d operation).active?]
    split
    · rename_i hw
      rw [hw, active?_length]
      constructor
      · rintro ⟨⟩
        cases (not_isWatcher_of_isTrying hfirst).symm.trans hx
      · rintro ⟨⟩
    · rfl
  order := by
    intro w x hw hx
    cases operation with
    | connect => exact (hsole.running w x hw hx).symm
    | reconnect => rfl
    | _ => cases hfirst

private theorem leavesHeld_of_begin (d : Dialer) (operation : Operation) :
    LeavesHeld d (d.begin operation).1 :=
  ⟨begin_held d operation, fun c => by simp [closings]⟩

/-! ## §2 What such a call asks for -/

/-- What a task has asked the connector for in a part of a run, the last request first. -/
def asks (policy : Policy) (t : Nat) (history : List (Dialer × Label)) : List Request :=
  (requests (shown policy history)).filterMap fun p => if p.1 = t then some p.2 else none

private theorem asks_cons (h : d.step policy label = some (d', events)) :
    asks policy t ((d, label) :: history) = (requests events).filterMap
      (fun p => if p.1 = t then some p.2 else none) ++ asks policy t history := by
  simp [asks, shown_cons h, requests]

private theorem asks_of_deed (h : d.step policy label = some (d', events))
    (hdeed : Deed policy d label t a b d' events) :
    asks policy t ((d, label) :: history) = b.awaits?.toList ++ asks policy t history := by
  rw [asks_cons h, hdeed.asked]
  cases b.awaits? <;> simp

private theorem asks_of_ne (h : d.step policy label = some (d', events))
    (hactor : d.actor? label ≠ some t) :
    asks policy t ((d, label) :: history) = asks policy t history := by
  have hnone : (requests events).filterMap (fun p => if p.1 = t then some p.2 else none) = [] := by
    refine List.filterMap_eq_nil_iff.mpr fun p hmem => if_neg ?_
    rintro rfl
    obtain ⟨event, hevent, hrequest⟩ := List.mem_filterMap.mp hmem
    cases event with
    | asked u request =>
      cases hrequest
      exact hactor (told_of_step h hevent rfl)
    | _ => cases hrequest
  rw [asks_cons h, hnone, List.nil_append]

/-- What a call has asked for when it is at a stage, the last request first. A reconnecting call
asks for the closing of what it finds, and then it dials. -/
inductive Course (t : Nat) (later : List (Dialer × Label)) :
    Operation → Stage → List Request → Prop where
  | connects : Course t later .connect (.dialing .connecting) [.dial]
  | waits : Course t later .reconnect .discarding []
  | clears (e : Dialer) (old : Nat) : (e, .proceed t) ∈ later → e.active? t = some .discarding →
      e.held = some old → Course t later .reconnect (.clearingOut old) [.close old]
  | dials (e : Dialer) : (e, .proceed t) ∈ later → e.active? t = some .discarding →
      Course t later .reconnect (.dialing .connecting)
        (.dial :: (e.held.map Request.close).toList)

variable {requested : List Request}

private theorem Course.mono {p : Dialer × Label} (h : Course t later operation a requested) :
    Course t (p :: later) operation a requested := by
  cases h with
  | connects => exact .connects
  | waits => exact .waits
  | clears e old hmem hs hheld => exact .clears e old (.tail _ hmem) hs hheld
  | dials e hmem hs => exact .dials e (.tail _ hmem) hs

private theorem Course.deed (h : Course t later operation a requested)
    (hdeed : Deed policy d label t a b d' events) (hb : b.isTrying = true) :
    Course t ((d, label) :: later) operation b (b.awaits?.toList ++ requested) := by
  have hactive := hdeed.active
  have hdriven := hdeed.driven
  cases hdeed.goes with
  | discards old hheld =>
    obtain rfl : label = .proceed t := hdriven
    cases h
    exact .clears d old (.head _) hactive hheld
  | bare hheld =>
    obtain rfl : label = .proceed t := hdriven
    cases h
    have hdials : Course t ((d, .proceed t) :: later) .reconnect (.dialing .connecting) _ :=
      .dials d (.head _) hactive
    rwa [hheld] at hdials
  | discarded old =>
    cases h with
    | clears e _ hmem hs hheld =>
      have hdials : Course t ((d, label) :: later) .reconnect (.dialing .connecting) _ :=
        .dials e (.tail _ hmem) hs
      rwa [hheld] at hdials
  | holds p | replaced p => cases p <;> cases hb
  | _ => cases hb

/-- Where a call stands that is to connect and has not been answered its dial: what it has asked
for, that what it has asked to be closed was asked so once, and who brings the connection that is
held once a reconnecting call has found what was held before. -/
structure Tries (policy : Policy) (d₁ : Dialer) (operation : Operation)
    (later : List (Dialer × Label)) (d : Dialer) (a : Stage) : Prop where
  course : Course d₁.tasks.length later operation a
    (asks policy d₁.tasks.length (later ++ [(d₁, .call operation)]))
  closed : ∀ c, .close c ∈ asks policy d₁.tasks.length (later ++ [(d₁, .call operation)]) →
    d.closings c = 1
  brought : operation = .reconnect → a ≠ .discarding → ∀ c, d.held = some c →
    ∃ e w attempt, (e, .proceed w) ∈ later ∧ e.active? w = some (.installing (.redialing attempt) c)

private theorem asks_of_begin (d : Dialer) (hfirst : operation.firstStage.isTrying = true) :
    asks policy d.tasks.length [(d, .call operation)] = operation.firstStage.awaits?.toList := by
  cases operation with
  | connect | reconnect =>
    simp [asks, shown, step, begin, startConnect, ask, requests, Event.request?,
      Operation.firstStage, Stage.awaits?]
  | _ => cases hfirst

section

variable {Lost Orphaned : Nat → Prop} (hl : Ledger Lost Orphaned d.view)
  (hstep : d.step policy label = some (d', events)) (h : Tries policy d₁ operation later d a)

include hl hstep h

/-- The call takes a step. -/
private theorem Tries.deed (hdeed : Deed policy d label d₁.tasks.length a b d' events)
    (hb : b.isTrying = true) : Tries policy d₁ operation ((d, label) :: later) d' b where
  course := by
    rw [List.cons_append, asks_of_deed hstep hdeed]
    exact h.course.deed hdeed hb
  closed := by
    intro c hc
    rw [List.cons_append, asks_of_deed hstep hdeed, List.mem_append, Option.mem_toList] at hc
    rcases hc with hnow | hbefore
    · exact hdeed.closings_of_close hl hnow
    · rw [closings_of_steps hl (steps_of_step hstep) (by simp [h.closed c hbefore])]
      exact h.closed c hbefore
  brought := by
    intro hoperation _ c hc
    rw [hdeed.held] at hc
    cases hdeed.goes with
    | discards | bare => cases hc
    | discarded old =>
      obtain ⟨e, w, attempt, hmem, he⟩ := h.brought hoperation nofun c hc
      exact ⟨e, w, attempt, .tail _ hmem, he⟩
    | holds p | replaced p => cases p <;> cases hb
    | _ => cases hb

/-- Another task takes a step. -/
private theorem Tries.pass (hsole : Sole d d₁.tasks.length)
    (hs : d.active? d₁.tasks.length = some a) (ha : a.isTrying = true)
    (hactor : d.actor? label ≠ some d₁.tasks.length) :
    Tries policy d₁ operation ((d, label) :: later) d' a where
  course := by
    rw [List.cons_append, asks_of_ne hstep hactor]
    exact h.course.mono
  closed := by
    intro c hc
    rw [List.cons_append, asks_of_ne hstep hactor] at hc
    rw [closings_of_steps hl (steps_of_step hstep) (by simp [h.closed c hc])]
    exact h.closed c hc
  brought := by
    intro hoperation hpast c hc
    rcases held_of_steps (steps_of_step hstep) hc with hheld | ⟨u, p, rfl, hu⟩
    · obtain ⟨e, w, attempt, hmem, he⟩ := h.brought hoperation hpast c hheld
      exact ⟨e, w, attempt, .tail _ hmem, he⟩
    · -- whoever else brings a connection is a watcher
      have hne : u ≠ d₁.tasks.length := by
        rintro rfl
        rw [hs] at hu
        cases hu
        cases ha
      cases p with
      | redialing attempt => exact ⟨d, u, attempt, .head _, hu⟩
      | connecting => rcases hsole.others u _ hne hu with hno | ⟨hno, _⟩ <;> cases hno

end

private theorem tries_of_run (hrun : Run policy (later ++ (d₁, .call operation) :: before) d)
    (hturn : InTurn (later ++ (d₁, .call operation) :: before))
    (hs : d.active? d₁.tasks.length = some a) (ha : a.isTrying = true)
    (hfirst : operation.firstStage.isTrying = true) : Tries policy d₁ operation later d a := by
  refine resume_of_trying hrun hturn hs ha ?_ ?_
  · have hasks : asks policy d₁.tasks.length [(d₁, .call operation)] = _ := asks_of_begin d₁ hfirst
    cases operation with
    | connect =>
      refine ⟨?_, by simp [hasks, Operation.firstStage, Stage.awaits?], nofun⟩
      rw [List.nil_append, hasks]
      exact .connects
    | reconnect =>
      refine ⟨?_, by simp [hasks, Operation.firstStage, Stage.awaits?], fun _ h => absurd rfl h⟩
      rw [List.nil_append, hasks]
      exact .waits
    | _ => cases hfirst
  · intro later d d' events a b label hrun hsole hs ha h hstep hs' hb
    have hl := ledger_of_run hrun
    by_cases hactor : d.actor? label = some d₁.tasks.length
    · obtain ⟨b', hdeed⟩ := deed_of_trying hstep hs ha hactor
      rw [hdeed.puts.active?, if_pos rfl] at hs'
      cases hs'
      exact h.deed hl hstep hdeed hb
    · have hstays := (steps_of_step hstep).active?_of_ne (hsole.not_adopting hs ha) hs hactor
      rw [hstays] at hs'
      cases hs'
      exact h.pass hl hstep hsole hs ha hactor

/-! ## §3 What others do meanwhile -/

/-- A watcher ends that is not ordered to: the signal of its connection has ended, or a dial has
failed and the policy makes it give up. -/
inductive EndsItself (policy : Policy) (d : Dialer) (w : Nat) : Label → Prop where
  | hungUp (c : Nat) : d.active? w = some (.watching c) → d.ended c = true →
      EndsItself policy d w (.proceed w)
  | gaveUp (attempt : Nat) (error : BrokerError) :
      d.active? w = some (.dialing (.redialing attempt)) → (policy attempt).stop = true →
      EndsItself policy d w (.answer w (.error error))

private theorem Ends.endsItself (h : Ends policy d w label) (hs : d.active? w = some a)
    (hrunning : d.shutdown = false) : EndsItself policy d w label := by
  cases h with
  | stopped _ _ _ hordered => cases hrunning.symm.trans hordered
  | hungUp c hw hended => exact .hungUp c hw hended
  | gaveUp attempt error hw hstop => exact .gaveUp attempt error hw hstop
  | dropped haborted => cases (active?_of_isAborted haborted).symm.trans hs

/-- A watcher is still one, or it has ended by itself in a part of a run. -/
def LivesOn (policy : Policy) (w : Nat) (since : List (Dialer × Label)) (d : Dialer) : Prop :=
  (∃ a, d.active? w = some a ∧ a.isWatcher = true) ∨ ∃ p ∈ since, EndsItself policy p.1 w p.2

private theorem LivesOn.step (h : LivesOn policy w since d) (hsole : Sole d t)
    (hs : d.active? t = some a) (ha : a.isTrying = true)
    (hstep : d.step policy label = some (d', events)) :
    LivesOn policy w ((d, label) :: since) d' := by
  rcases h with ⟨x, hw, hx⟩ | ⟨p, hmem, hends⟩
  · -- the call brings no watcher yet, so nobody aborts this one
    obtain ⟨y, hy, hwatches | ⟨_, hends⟩⟩ := watcher_of_steps (steps_of_step hstep) hw (.inl hx)
      fun u c hu => absurd hu (hsole.not_adopting hs ha u c)
    · exact .inl ⟨y, hy, hwatches⟩
    · exact .inr ⟨_, .head _, (hends hx).endsItself hw (hsole.running w x hw hx)⟩
  · exact .inr ⟨p, .tail _ hmem, hends⟩

/-- The connection that was held when a call began is still held and watched by the same watcher,
and it has not failed. -/
structure StillWatched (d₁ : Dialer) (w c : Nat) (d : Dialer) : Prop where
  held : d.held = some c
  watching : d.active? w = some (.watching c)
  pending : d.pending? c = none
  generation : d.generation = d₁.generation
  watcher : d.watcher = d₁.watcher

private theorem Move.ended {v v' : View} {lost orphaned : Option Nat} (h : Move v lost orphaned v')
    (hc : v.ended c = true) : v'.ended c = true := by
  cases h with
  | remark _ hmono => exact hmono c hc
  | _ => exact hc

private theorem ended_before (hstep : d.step policy label = some (d', events))
    (hended : d'.ended c = false) : d.ended c = false := by
  cases hbefore : d.ended c with
  | false => rfl
  | true => cases hended.symm.trans ((move_of_step hstep).ended hbefore)

section

variable (h : StillWatched d₁ w c d) (hstep : d.step policy label = some (d', events))
  (hended : d'.ended c = false)

include h hstep hended

/-- A watcher whose connection has not failed takes no step. -/
private theorem StillWatched.actor_ne (hsole : Sole d t) (hs : d.active? t = some a)
    (ha : a.isTrying = true) : d.actor? label ≠ some w := by
  intro hactor
  have hw := h.watching
  cases steps_of_step hstep with
  | call operation =>
    cases hactor
    cases (active?_length d).symm.trans hw
  | deed _ u x y _ _ hdeed =>
    obtain rfl : u = w := Option.some.inj (hdeed.actor.symm.trans hactor)
    obtain rfl : x = .watching c := Option.some.inj (hdeed.active.symm.trans hw)
    cases hdeed.goes with
    | failed _ x error hx hp =>
      have hnone := h.pending
      simp [pending?, hx, hp] at hnone
  | adopt u c' hu => exact hsole.not_adopting hs ha u c' hu
  | exit _ u _ hends =>
    obtain rfl : u = w := Option.some.inj (hends.actor.symm.trans hactor)
    cases hends.endsItself hw (hsole.running u _ hw rfl) with
    | hungUp c' hw' hended' =>
      cases hw.symm.trans hw'
      cases hended'.symm.trans (ended_before hstep hended)
    | gaveUp _ _ hw' => cases hw.symm.trans hw'
  | report | hangUp => cases hactor

private theorem StillWatched.pass (hsole : Sole d t) (hs : d.active? t = some a)
    (ha : a.isTrying = true) (hactor : d.actor? label ≠ some t)
    (hquiet : ∀ error, label ≠ .report c error) : StillWatched d₁ w c d' := by
  have hidle := h.actor_ne hstep hended hsole hs ha
  have hsteps : Steps policy d label d' events := steps_of_step hstep
  have hwt : w ≠ t := by
    rintro rfl
    cases hs.symm.trans h.watching
    cases ha
  obtain ⟨hheld, hgeneration, hwatcher⟩ := hsole.pass hsteps hs ha hactor (by
    intro v hv
    -- the place of the watcher is the one of this watcher
    rcases hsole.others w _ hwt h.watching with hno | ⟨_, hplace⟩
    · cases hno
    · obtain rfl : w = v := Option.some.inj (hplace.symm.trans hv)
      exact hidle)
  refine ⟨hheld.trans h.held, ?_, ?_, hgeneration.trans h.generation, hwatcher.trans h.watcher⟩
  · exact hsteps.active?_of_ne (hsole.not_adopting hs ha) h.watching hidle
  · cases hp : d'.pending? c with
    | none => rfl
    | some error =>
      rcases pending?_of_step hstep hp with hp' | hreport
      · cases h.pending.symm.trans hp'
      · exact absurd hreport (hquiet error)

end

/-! ## §4 The refusal -/

/-- What a call leaves as it is in every step of a part of a run, and what becomes of the watchers
meanwhile: none is ordered to end, and none ends but by itself. -/
structure SparesWatch (policy : Policy) (d₁ : Dialer) (t : Nat) (since : List (Dialer × Label))
    (d' : Dialer) : Prop where
  own : ∀ p ∈ since, p.1.actor? p.2 = some t → ∀ e events,
    p.1.step policy p.2 = some (e, events) → LeavesWatch p.1 e ∧ (e.held = p.1.held ∨ e.held = none)
  running : ∀ p ∈ since, ∀ w a, p.1.active? w = some a → a.isWatcher = true →
    p.1.shutdown = false
  watchers : ∀ w a, d₁.active? w = some a → a.isWatcher = true → LivesOn policy w since d'

/-- What comes of a connecting call whose dial has failed: it has dialed once, no step of it has
touched what is held or closed anything, and a connection that was held and watched still is, unless
it has failed. -/
structure RefusesConnect (policy : Policy) (d₁ : Dialer) (t : Nat) (since : List (Dialer × Label))
    (d' : Dialer) : Prop where
  asked : asks policy t since = [.dial]
  own : ∀ p ∈ since, p.1.actor? p.2 = some t → ∀ e events,
    p.1.step policy p.2 = some (e, events) → LeavesHeld p.1 e
  supervised : ∀ w c, d₁.held = some c → d₁.active? w = some (.watching c) →
    d₁.pending? c = none → (∀ p ∈ since, ∀ error, p.2 ≠ .report c error) → d'.ended c = false →
    StillWatched d₁ w c d'

/-- What comes of a reconnecting call whose dial has failed: it has asked for the closing of what it
found, which is closed once, and dialed once, and what is held was brought by a watcher
meanwhile. -/
structure RefusesReconnect (policy : Policy) (t : Nat) (since : List (Dialer × Label))
    (d' : Dialer) : Prop where
  asked : ∃ e, (e, .proceed t) ∈ since ∧ e.active? t = some .discarding ∧
    asks policy t since = .dial :: (e.held.map Request.close).toList ∧
    ∀ old, e.held = some old → d'.closings old = 1
  brought : ∀ c, d'.held = some c → ∃ e w attempt, (e, .proceed w) ∈ since ∧
    e.active? w = some (.installing (.redialing attempt) c)

section

variable (hrun : Run policy (later ++ (d₁, .call operation) :: before) d)
  (hturn : InTurn (later ++ (d₁, .call operation) :: before))
  (hs : d.active? d₁.tasks.length = some a) (ha : a.isTrying = true)

include hrun hturn hs ha

private theorem trying_of_mem {p : Dialer × Label} (hmem : p ∈ later) :
    Sole p.1 d₁.tasks.length ∧ ∃ a, p.1.active? d₁.tasks.length = some a ∧ a.isTrying = true := by
  refine resume_of_trying (P := fun later _ _ => ∀ p ∈ later, Sole p.1 d₁.tasks.length ∧
    ∃ a, p.1.active? d₁.tasks.length = some a ∧ a.isTrying = true) hrun hturn hs ha ?_ ?_ p hmem
  · exact fun _ hmem => absurd hmem List.not_mem_nil
  · intro later d d' events a b label _ hsole hs ha h _ _ _
    exact List.forall_mem_cons.mpr ⟨⟨hsole, a, hs, ha⟩, h⟩

private theorem livesOn_of_run {x : Stage} (hw : d₁.active? w = some x) (hx : x.isWatcher = true) :
    LivesOn policy w later d := by
  refine resume_of_trying (P := fun later d _ => LivesOn policy w later d) hrun hturn hs ha ?_ ?_
  · refine .inl ⟨x, ?_, hx⟩
    rw [(puts_begin d₁ operation).active?, if_neg (Nat.ne_of_lt (lt_of_active? hw))]
    exact hw
  · intro later d d' events a b label _ hsole hs ha h hstep _ _
    exact h.step hsole hs ha hstep

end

/-- A connecting call takes no step until it is answered its dial. -/
private theorem actor_ne_of_connect (hrun : Run policy (later ++ (d₁, .call .connect) :: before) d)
    (hs : d.active? d₁.tasks.length = some a) (ha : a.isTrying = true)
    (hstep : d.step policy label = some (d', events))
    (hs' : d'.active? d₁.tasks.length = some b) (hb : b.isTrying = true) :
    d.actor? label ≠ some d₁.tasks.length := by
  intro hactor
  obtain ⟨b', hdeed⟩ := deed_of_trying hstep hs ha hactor
  rw [hdeed.puts.active?, if_pos rfl] at hs'
  cases hs'
  obtain ⟨a', ha', hcovers⟩ := stage_of_called hrun
    ⟨d₁, List.mem_append_right later (.head before), rfl⟩
  cases ha'.symm.trans hs
  cases hdeed.goes with
  | holds p | replaced p => cases p <;> cases hb
  | discards | bare | discarded => cases hcovers
  | _ => cases hb

section

variable (hrun : Run policy (later ++ (d₁, .call .connect) :: before) d)
  (hturn : InTurn (later ++ (d₁, .call .connect) :: before))
  (hs : d.active? d₁.tasks.length = some a) (ha : a.isTrying = true)

include hrun hturn hs ha

private theorem actors_of_connect {p : Dialer × Label} (hmem : p ∈ later) :
    p.1.actor? p.2 ≠ some d₁.tasks.length := by
  refine resume_of_trying (P := fun later _ _ => ∀ p ∈ later,
    p.1.actor? p.2 ≠ some d₁.tasks.length) hrun hturn hs ha ?_ ?_ p hmem
  · exact fun _ hmem => absurd hmem List.not_mem_nil
  · intro later d d' events a b label hrun _ hs ha h hstep hs' hb
    exact List.forall_mem_cons.mpr ⟨actor_ne_of_connect hrun hs ha hstep hs' hb, h⟩

private theorem stillWatched_of_run (hheld : d₁.held = some c)
    (hw : d₁.active? w = some (.watching c)) (hpending : d₁.pending? c = none)
    (hquiet : ∀ p ∈ later, ∀ error, p.2 ≠ .report c error) (hended : d.ended c = false) :
    StillWatched d₁ w c d := by
  refine resume_of_trying (P := fun later d _ => (∀ p ∈ later, ∀ error, p.2 ≠ .report c error) →
    d.ended c = false → StillWatched d₁ w c d) hrun hturn hs ha ?_ ?_ hquiet hended
  · intro _ _
    refine ⟨hheld, ?_, hpending, rfl, rfl⟩
    rw [(puts_begin d₁ .connect).active?, if_neg (Nat.ne_of_lt (lt_of_active? hw))]
    exact hw
  · intro later d d' events a b label hrun hsole hs ha h hstep hs' hb hquiet hended
    obtain ⟨hlabel, hlater⟩ := List.forall_mem_cons.mp hquiet
    have hactor := actor_ne_of_connect hrun hs ha hstep hs' hb
    exact (h hlater (ended_before hstep hended)).pass hstep hended hsole hs ha hactor hlabel

end

/-- The call is answered its dial with an error. -/
private theorem step_refused {error : BrokerError}
    (hs : d.active? t = some (.dialing .connecting)) :
    d.step policy (.answer t (.error error)) =
      some (d.setStage t (.returned (.done (.error error))),
        [.returned t (.done (.error error))]) := by
  rw [step_answer hs]
  unfold answered
  rw [stage?_of_active? hs]
  rfl

/-- The answer itself makes the call ask for nothing. -/
private theorem asks_of_refused {error : BrokerError}
    (hs : d.active? d₁.tasks.length = some (.dialing .connecting))
    (hstep : d.step policy (.answer d₁.tasks.length (.error error)) = some (d', events))
    (hsince : since =
      (d, .answer d₁.tasks.length (.error error)) :: later ++ [(d₁, .call operation)]) :
    asks policy d₁.tasks.length since =
      asks policy d₁.tasks.length (later ++ [(d₁, .call operation)]) := by
  cases (step_refused hs).symm.trans hstep
  rw [hsince, List.cons_append, asks_cons hstep]
  rfl

/-- Only a call to connect or to reconnect dials. -/
private theorem firstStage_of_run (hrun : Run policy (later ++ (d₁, .call operation) :: before) d)
    (hs : d.active? d₁.tasks.length = some (.dialing .connecting)) :
    operation.firstStage.isTrying = true := by
  obtain ⟨a, ha, hcovers⟩ := stage_of_called hrun
    ⟨d₁, List.mem_append_right later (.head before), rfl⟩
  cases ha.symm.trans hs
  cases operation with
  | connect | reconnect => rfl
  | _ => cases hcovers

section

variable {error : BrokerError} (hrun : Run policy (later ++ (d₁, .call operation) :: before) d)
  (hturn : InTurn (later ++ (d₁, .call operation) :: before))
  (hs : d.active? d₁.tasks.length = some (.dialing .connecting))
  (hstep : d.step policy (.answer d₁.tasks.length (.error error)) = some (d', events))
  (hsince : since = (d, .answer d₁.tasks.length (.error error)) :: later ++ [(d₁, .call operation)])

include hrun hturn hs

/-- The call is alone in its turn before it begins. -/
private theorem sole_before : Sole d₁ d₁.tasks.length := by
  obtain ⟨_, h₂⟩ := hrun.earlier
  have hmanages : operation.manages = true := by
    have hfirst := firstStage_of_run hrun hs
    cases operation with
    | session | check => cases hfirst
    | _ => rfl
  cases h₂ with
  | step _ h₁ _ =>
    refine sole_of_run h₁ (fun e operation hmem => ?_) (fun a ha => ?_) fun u a _ hu => ?_
    · exact hturn e operation (List.mem_append_right later (.tail _ hmem))
    · cases (active?_length d₁).symm.trans ha
    · exact hturn d₁ operation (List.mem_append_right later (.head _)) hmanages u a hu

private theorem sole_of_mem {p : Dialer × Label}
    (hmem : p ∈ (d, label) :: later) :
    Sole p.1 d₁.tasks.length ∧ ∃ a, p.1.active? d₁.tasks.length = some a ∧ a.isTrying = true := by
  rcases List.mem_cons.mp hmem with rfl | hmem
  · exact ⟨sole_of_trying hrun hturn hs rfl, _, hs, rfl⟩
  · exact trying_of_mem hrun hturn hs rfl hmem

include hstep hsince

private theorem sparesWatch_of_refused : SparesWatch policy d₁ d₁.tasks.length since d' where
  own := by
    intro p hmem hactor e events hstep
    rw [hsince, List.mem_append, List.mem_singleton] at hmem
    rcases hmem with hmem | rfl
    · obtain ⟨hsole, a, hs, ha⟩ := sole_of_mem hrun hturn hs hmem
      obtain ⟨b, hdeed⟩ := deed_of_trying hstep hs ha hactor
      exact ⟨leavesWatch_of_deed hsole hdeed ha, held_of_trying hdeed ha⟩
    · obtain rfl : (d₁.begin operation).1 = e := congrArg Prod.fst (Option.some.inj hstep)
      exact ⟨leavesWatch_of_begin (sole_before hrun hturn hs) (firstStage_of_run hrun hs),
        .inl (begin_held d₁ operation)⟩
  running := by
    intro p hmem
    rw [hsince, List.mem_append, List.mem_singleton] at hmem
    rcases hmem with hmem | rfl
    · exact (sole_of_mem hrun hturn hs hmem).1.running
    · exact (sole_before hrun hturn hs).running
  watchers := by
    intro w a hw ha
    have hlives := livesOn_of_run hrun hturn hs rfl hw ha
    rcases hlives.step (sole_of_trying hrun hturn hs rfl) hs rfl hstep with hnow | ⟨p, hmem, hends⟩
    · exact .inl hnow
    · exact .inr ⟨p, hsince ▸ List.mem_append_left _ hmem, hends⟩

private theorem refusesReconnect_of_refused (hoperation : operation = .reconnect) :
    RefusesReconnect policy d₁.tasks.length since d' := by
  have h := tries_of_run hrun hturn hs rfl (firstStage_of_run hrun hs)
  have hsub : ∀ p ∈ later, p ∈ since := fun p hmem =>
    hsince ▸ List.mem_append_left _ (.tail _ hmem)
  have hasks := asks_of_refused hs hstep hsince
  cases (step_refused hs).symm.trans hstep
  refine ⟨?_, fun c hc => ?_⟩
  · have hcourse := h.course
    rw [hoperation] at hcourse
    generalize hrequested : asks policy _ _ = requested at hcourse
    cases hcourse with
    | dials e hmem he =>
      refine ⟨e, hsub _ hmem, he, hasks.trans (hoperation ▸ hrequested), fun old hold => ?_⟩
      exact h.closed old (by simp [hoperation, hrequested, hold])
  · obtain ⟨e, w, attempt, hmem, he⟩ := h.brought hoperation nofun c hc
    exact ⟨e, w, attempt, hsub _ hmem, he⟩

end

private theorem refusesConnect_of_refused {error : BrokerError}
    (hrun : Run policy (later ++ (d₁, .call .connect) :: before) d)
    (hturn : InTurn (later ++ (d₁, .call .connect) :: before))
    (hs : d.active? d₁.tasks.length = some (.dialing .connecting))
    (hstep : d.step policy (.answer d₁.tasks.length (.error error)) = some (d', events))
    (hsince : since =
      (d, .answer d₁.tasks.length (.error error)) :: later ++ [(d₁, .call .connect)]) :
    RefusesConnect policy d₁ d₁.tasks.length since d' where
  asked := by
    rw [asks_of_refused hs hstep hsince]
    have hcourse := (tries_of_run hrun hturn hs rfl rfl).course
    generalize asks policy _ _ = requested at hcourse ⊢
    cases hcourse
    rfl
  own := by
    intro p hmem hactor e events' hstep'
    rw [hsince, List.mem_append, List.mem_cons, List.mem_singleton] at hmem
    rcases hmem with (rfl | hmem) | rfl
    · obtain ⟨b, hdeed⟩ := deed_of_trying hstep' hs rfl hactor
      exact leavesHeld_of_dialing (ledger_of_run hrun) hdeed
    · exact absurd hactor (actors_of_connect hrun hturn hs rfl hmem)
    · obtain rfl : (d₁.begin .connect).1 = e := congrArg Prod.fst (Option.some.inj hstep')
      exact leavesHeld_of_begin d₁ .connect
  supervised := by
    intro w c hheld hw hpending hquiet hended
    have hbefore := ended_before hstep hended
    have hlater : ∀ p ∈ later, ∀ error, p.2 ≠ .report c error := fun p hmem =>
      hquiet p (hsince ▸ List.mem_append_left _ (.tail _ hmem))
    have h := stillWatched_of_run hrun hturn hs rfl hheld hw hpending hlater hbefore
    -- the call returns, and nothing else happens
    cases (step_refused hs).symm.trans hstep
    have hwt : w ≠ d₁.tasks.length := by
      rintro rfl
      cases hs.symm.trans h.watching
    exact ⟨h.held, (active?_setStage d _ w _).trans ((if_neg hwt).trans h.watching), h.pending,
      h.generation, h.watcher⟩

/-- However the watcher, the connector and the other calls take turns meanwhile: when a call to
connect or to reconnect, which overlaps with no other call that manages the dialer, is answered its
dial with an error, it returns this error. No step of it has changed the generation, the place of
the watcher, where a watcher is, or whether it is to end; no watcher was to end meanwhile, and none
has ended but by itself. A connecting call has dialed once and left alone what is held, so that a
connection that was held and watched still is, unless it has failed. A reconnecting call has dialed
once and asked for the closing of what it found, which is closed once, and what is held was brought
by the watcher meanwhile. -/
theorem refused_dial_spares {error : BrokerError}
    (hrun : Run policy (later ++ (d₁, .call operation) :: before) d)
    (hturn : InTurn (later ++ (d₁, .call operation) :: before))
    (hdials : d.active? d₁.tasks.length = some (.dialing .connecting))
    (hsince : since =
      (d, .answer d₁.tasks.length (.error error)) :: later ++ [(d₁, .call operation)]) :
    ∃ d', d.step policy (.answer d₁.tasks.length (.error error)) =
        some (d', [.returned d₁.tasks.length (.done (.error error))]) ∧
      SparesWatch policy d₁ d₁.tasks.length since d' ∧
      (operation = .connect → RefusesConnect policy d₁ d₁.tasks.length since d') ∧
      (operation = .reconnect → RefusesReconnect policy d₁.tasks.length since d') := by
  have hstep : d.step policy (.answer d₁.tasks.length (.error error)) = _ := step_refused hdials
  refine ⟨_, hstep, ?_, ?_, ?_⟩
  · exact sparesWatch_of_refused hrun hturn hdials hstep hsince
  · rintro rfl
    exact refusesConnect_of_refused hrun hturn hdials hstep hsince
  · exact refusesReconnect_of_refused hrun hturn hdials hstep hsince

/-- While a call connects a dialer that is connected, another one opens a session. -/
def connectingAgain : List Label := [.call .session, .proceed 3, .answer 3 (.ok ())]

/-- The call returns the error, and the connection from before is held and watched as before. -/
theorem refused_while_connected :
    ∃ before d₁ d₂ later d d', replay patient [] .new connecting = some (before, d₁) ∧
      d₁.step patient (.call .connect) = some (d₂, [.asked 2 .dial]) ∧
      replay patient [] d₂ connectingAgain = some (later, d) ∧
      d.step patient (.answer 2 (.error .notConnected)) =
        some (d', [.returned 2 (.done (.error .notConnected))]) ∧
      d'.held = some 0 ∧ d'.active? 1 = some (.watching 0) ∧ d'.generation = 1 ∧
      asks patient 2 ((d, .answer 2 (.error .notConnected)) :: later ++ [(d₁, .call .connect)])
        = [.dial] := by
  obtain ⟨before, d₁, d₂, later, d, hbefore, hcall, hlater, hlength, hturn, hdials, hheld,
      hwatching, hpending, hgeneration, hactors, hended⟩ :
      ∃ before d₁ d₂ later d, replay patient [] .new connecting = some (before, d₁) ∧
        d₁.step patient (.call .connect) = some (d₂, [.asked 2 .dial]) ∧
        replay patient [] d₂ connectingAgain = some (later, d) ∧ d₁.tasks.length = 2 ∧
        InTurn (later ++ (d₁, .call .connect) :: before) ∧
        d.active? 2 = some (.dialing .connecting) ∧ d₁.held = some 0 ∧
        d₁.active? 1 = some (.watching 0) ∧ d₁.pending? 0 = none ∧ d₁.generation = 1 ∧
        (∀ p ∈ later, p.1.actor? p.2 ≠ none) ∧ d.ended 0 = false :=
    ⟨_, _, _, _, _, rfl, rfl, rfl, rfl, by decide, rfl, rfl, rfl, rfl, rfl, by decide, rfl⟩
  have h₂ : Run patient ([] ++ (d₁, .call .connect) :: before) d₂ :=
    .step _ (run_of_replay .new hbefore) hcall
  rw [← hlength] at hdials
  obtain ⟨d', hstep, _, hconnect, _⟩ := refused_dial_spares (h₂.replay hlater) hturn hdials
    (rfl : (d, .answer d₁.tasks.length (.error .notConnected)) :: later ++
      [(d₁, .call .connect)] = _)
  have hrefused := hconnect rfl
  have hquiet : ∀ p ∈ (d, .answer d₁.tasks.length (.error .notConnected)) :: later ++
      [(d₁, .call .connect)], ∀ error, p.2 ≠ .report 0 error := by
    intro p hmem error hreport
    rw [List.mem_append, List.mem_cons, List.mem_singleton] at hmem
    rcases hmem with (rfl | hmem) | rfl
    · cases hreport
    · -- a report is a step of no task
      exact hactors p hmem (by rw [hreport]; rfl)
    · cases hreport
  have hended' : d'.ended 0 = false := by
    cases (step_refused hdials).symm.trans hstep
    exact hended
  have hwatched := hrefused.supervised 1 0 hheld hwatching hpending hquiet hended'
  have hasked := hrefused.asked
  rw [hlength] at hstep hasked
  exact ⟨before, d₁, d₂, later, d, d', hbefore, hcall, hlater, hstep, hwatched.held,
    hwatched.watching, hwatched.generation.trans hgeneration, hasked⟩

end Courier.Dialer
