import Courier.Proofs.Dialer.Closing
import Courier.Proofs.Dialer.Marks
import Courier.Proofs.Retry

/-!
# The vigil of a watcher

From the return of a connecting call on, as long as nobody calls to connect, to reconnect or to
close, one watcher sees to the connection of a dialer. Its marks tell what it has come to: it
watches one connection after another, and between two of them lies an outage, in which it dials and
waits in turn until a dial succeeds or the policy says stop. The marks determine where the watcher
is and what is held.
-/

namespace Courier.Dialer

variable {policy : Policy} {history before later : List (Dialer × Label)} {d d₀ d' : Dialer}
  {label : Label} {events : List Event} {t u w c k : Nat} {a b : Stage} {held : Option Nat}
  {ms ms' : List Mark}

/-! ## §1 Outages -/

/-- The marks of an outage of a connection up to dial `k`, counted from zero: every dial before has
failed, the policy did not say stop, and the watcher has waited as long as the policy says. -/
inductive Outage (policy : Policy) (c : Nat) : Nat → List Mark → Prop where
  | lost (error : BrokerError) : Outage policy c 0 [.failed c error, .dials]
  | again {k : Nat} {ms : List Mark} (error : BrokerError) : Outage policy c k ms →
      (policy (min k maxAttempts)).stop = false →
      Outage policy c (k + 1) (ms ++
        [.answered (.error error), .pauses (policy (min k maxAttempts)).wait, .dials])

/-- The marks of a watcher that watches connection `c`: each connection before has failed, and the
last dial of the outage that followed has brought the next one. -/
inductive Watches (policy : Policy) : Nat → List Mark → Prop where
  | first (c : Nat) : Watches policy c []
  | next {c k : Nat} {ms outage : List Mark} (c' : Nat) : Watches policy c ms →
      Outage policy c k outage →
      Watches policy c' (ms ++ outage ++ [.answered (.ok c'), .holds c'])

/-- What is held and where a watcher is, by its marks. -/
inductive Supervises (policy : Policy) : Option Nat → Stage → List Mark → Prop where
  | watching {c : Nat} {ms : List Mark} : Watches policy c ms →
      Supervises policy (some c) (.watching c) ms
  | dismissed {c : Nat} {ms : List Mark} : Watches policy c ms →
      Supervises policy (some c) .exited (ms ++ [.ended c])
  | losing {c : Nat} {ms : List Mark} (error : BrokerError) : Watches policy c ms →
      Supervises policy (some c) .losing (ms ++ [.failed c error])
  | dialing {c k : Nat} {ms outage : List Mark} : Watches policy c ms → Outage policy c k outage →
      Supervises policy none (.dialing (.redialing (min k maxAttempts))) (ms ++ outage)
  | pausing {c k : Nat} {ms outage : List Mark} (error : BrokerError) : Watches policy c ms →
      Outage policy c k outage → (policy (min k maxAttempts)).stop = false →
      Supervises policy none (.pausing (min k maxAttempts) (policy (min k maxAttempts)).wait)
        (ms ++ outage ++
          [.answered (.error error), .pauses (policy (min k maxAttempts)).wait])
  | gaveUp {c k : Nat} {ms outage : List Mark} (error : BrokerError) : Watches policy c ms →
      Outage policy c k outage → (policy (min k maxAttempts)).stop = true →
      Supervises policy none .exited (ms ++ outage ++ [.answered (.error error)])
  | installing {c k : Nat} {ms outage : List Mark} (c' : Nat) : Watches policy c ms →
      Outage policy c k outage →
      Supervises policy none (.installing (.redialing (min k maxAttempts)) c')
        (ms ++ outage ++ [.answered (.ok c')])

/-! ## §2 Steps of a watcher -/

/-- How a watcher goes on from a stage to another, and with which marks. -/
inductive Advances (policy : Policy) (d : Dialer) : Stage → List Mark → Stage → Prop where
  | failed (c : Nat) (error : BrokerError) : d.pending? c = some error →
      Advances policy d (.watching c) [.failed c error] .losing
  | ended (c : Nat) : d.pending? c = none → Advances policy d (.watching c) [.ended c] .exited
  | lost : Advances policy d .losing [.dials] (.dialing (.redialing 0))
  | dialed (attempt : Nat) : Advances policy d (.dialing (.redialing attempt))
      [.answered (.ok d.connections.length)] (.installing (.redialing attempt) d.connections.length)
  | refused (attempt : Nat) (error : BrokerError) : (policy attempt).stop = false →
      Advances policy d (.dialing (.redialing attempt))
        [.answered (.error error), .pauses (policy attempt).wait]
        (.pausing attempt (policy attempt).wait)
  | gaveUp (attempt : Nat) (error : BrokerError) : (policy attempt).stop = true →
      Advances policy d (.dialing (.redialing attempt)) [.answered (.error error)] .exited
  | again (attempt : Nat) (wait : Duration) : Advances policy d (.pausing attempt wait) [.dials]
      (.dialing (.redialing (oneMoreAttempt attempt)))
  | holds (attempt c : Nat) : Advances policy d (.installing (.redialing attempt) c) [.holds c]
      (.watching c)

/-- The marks go on telling what is held and where the watcher is. -/
theorem Supervises.advances (h : Supervises policy held a ms)
    (hadvances : Advances policy d a ms' b) :
    Supervises policy (a.heldAfter held) b (ms ++ ms') := by
  cases hadvances with
  | failed c error =>
    cases h with
    | watching hwatches => exact .losing error hwatches
  | ended c =>
    cases h with
    | watching hwatches => exact .dismissed hwatches
  | lost =>
    cases h with
    | losing error hwatches =>
      rw [List.append_assoc]
      exact .dialing (k := 0) hwatches (.lost error)
  | dialed attempt =>
    cases h with
    | dialing hwatches houtage => exact .installing _ hwatches houtage
  | refused attempt error hstop =>
    cases h with
    | dialing hwatches houtage => exact .pausing error hwatches houtage hstop
  | gaveUp attempt error hstop =>
    cases h with
    | dialing hwatches houtage => exact .gaveUp error hwatches houtage hstop
  | again attempt wait =>
    cases h with
    | pausing error hwatches houtage hstop =>
      rw [oneMoreAttempt_min, List.append_assoc, List.append_assoc]
      exact .dialing hwatches (.again error houtage hstop)
  | holds attempt c =>
    cases h with
    | installing _ hwatches houtage =>
      rw [List.append_assoc]
      exact .watching (.next c hwatches houtage)

/-- What a step of a watcher changes: the watcher goes on, and what is held and counted follows from
where it was. -/
structure Strides (policy : Policy) (d : Dialer) (w : Nat) (a : Stage) (ms : List Mark)
    (d' : Dialer) : Prop where
  goes : ∃ b, Advances policy d a ms b ∧ Puts d d' w b
  held : d'.held = a.heldAfter d.held
  watcher : d'.watcher = d.watcher
  shutdown : d'.shutdown = d.shutdown
  generation : d'.generation = d.generation + ms.countP Mark.isHolds

section

variable {result : Except BrokerError Unit}

/-- A task that was not aborted goes on of itself or by an answer, as long as nobody closes. -/
private theorem label_of_own (hs : d.active? w = some a) (hrunning : d.shutdown = false)
    (hactor : d.actor? label = some w) (hstep : d.step policy label = some (d', events)) :
    label = .proceed w ∧ d.proceed w = some (d', events) ∨
      ∃ result, label = .answer w result ∧ d.answered policy w result = some (d', events) := by
  cases label with
  | call operation =>
    cases hactor
    rw [active?_length] at hs
    cases hs
  | proceed t =>
    cases hactor
    exact .inl ⟨rfl, (step_proceed hs).symm.trans hstep⟩
  | answer t result =>
    cases hactor
    exact .inr ⟨result, rfl, (step_answer hs result).symm.trans hstep⟩
  | stop t =>
    cases hactor
    simp [step, stage?_of_active? hs, hrunning] at hstep
  | drop t =>
    cases hactor
    simp [step, isAborted_of_active? hs] at hstep
  | report | hangUp => cases hactor

private theorem given?_of_active? (hs : d.active? w = some a) (hactor : d.actor? label = some w) :
    d.given? w label = d.news? a label := by
  simp [given?, hactor, hs]

private theorem strides_of_watching (hs : d.active? w = some (.watching c))
    (h : d.proceed w = some (d', events)) :
    Strides policy d w (.watching c)
      ((d.given? w (.proceed w)).toList ++ events.filterMap (Event.mark? w)) d' := by
  rw [given?_of_active? hs rfl]
  simp only [proceed, stage?_of_active? hs, notice] at h
  split at h
  · cases h
  · rename_i x hx
    split at h
    · rename_i error hp
      cases h
      have hpending : d.pending? c = some error := by simp [pending?, hx, hp]
      simp only [news?, hpending]
      exact ⟨⟨.losing, .failed c error hpending, puts_of_tasks hs rfl⟩, rfl, rfl, rfl, rfl⟩
    · rename_i hp
      split at h
      · cases h
        have hpending : d.pending? c = none := by simp [pending?, hx, hp]
        simp only [news?, hpending]
        exact ⟨⟨.exited, .ended c hpending, puts_of_tasks hs rfl⟩, rfl, rfl, rfl, rfl⟩
      · cases h

private theorem strides_of_losing (hs : d.active? w = some .losing)
    (h : d.proceed w = some (d', events)) :
    Strides policy d w .losing
      ((d.given? w (.proceed w)).toList ++ events.filterMap (Event.mark? w)) d' := by
  rw [given?_of_active? hs rfl]
  simp only [proceed, stage?_of_active? hs] at h
  split at h
  · cases h
    refine ⟨⟨.dialing (.redialing 0), ?_, puts_of_tasks hs rfl⟩, rfl, rfl, rfl, ?_⟩
    · simpa [news?, Event.mark?] using Advances.lost
    · simp [news?, Event.mark?]
      rfl
  · split at h
    · cases h
    · cases h

private theorem strides_of_pausing {attempt : Nat} {wait : Duration}
    (hs : d.active? w = some (.pausing attempt wait)) (h : d.proceed w = some (d', events)) :
    Strides policy d w (.pausing attempt wait)
      ((d.given? w (.proceed w)).toList ++ events.filterMap (Event.mark? w)) d' := by
  rw [given?_of_active? hs rfl]
  simp only [proceed, stage?_of_active? hs] at h
  cases h
  refine ⟨⟨_, ?_, puts_of_tasks hs rfl⟩, rfl, rfl, rfl, ?_⟩
  · simpa [news?, Event.mark?] using Advances.again attempt wait
  · simp [news?, Event.mark?]
    rfl

private theorem strides_of_installing {attempt : Nat} (hheld : d.held = none)
    (hs : d.active? w = some (.installing (.redialing attempt) c))
    (h : d.proceed w = some (d', events)) :
    Strides policy d w (.installing (.redialing attempt) c)
      ((d.given? w (.proceed w)).toList ++ events.filterMap (Event.mark? w)) d' := by
  rw [given?_of_active? hs rfl]
  simp only [proceed, stage?_of_active? hs] at h
  split at h
  · simp only [proceedHeld, install, hheld] at h
    cases h
    refine ⟨⟨.watching c, ?_, puts_of_tasks hs rfl⟩, rfl, rfl, rfl, ?_⟩
    · simpa [news?, List.filterMap_cons, Event.mark?] using Advances.holds attempt c
    · simp [news?, List.filterMap_cons, Event.mark?, Mark.isHolds]
      rfl
  · split at h
    · cases h
    · cases h

private theorem strides_of_dialing {attempt : Nat}
    (hs : d.active? w = some (.dialing (.redialing attempt)))
    (h : d.answered policy w result = some (d', events)) :
    Strides policy d w (.dialing (.redialing attempt))
      ((d.given? w (.answer w result)).toList ++ events.filterMap (Event.mark? w)) d' := by
  rw [given?_of_active? hs rfl]
  simp only [answered, stage?_of_active? hs] at h
  cases result with
  | ok _ =>
    cases h
    exact ⟨⟨_, .dialed attempt, puts_of_tasks hs rfl⟩, rfl, rfl, rfl, rfl⟩
  | error error =>
    simp only [refuse, Option.some.injEq] at h
    split at h
    · rename_i hstop
      cases h
      exact ⟨⟨.exited, .gaveUp attempt error hstop, puts_of_tasks hs rfl⟩, rfl, rfl, rfl, rfl⟩
    · rename_i hstop
      cases h
      refine ⟨⟨_, ?_, puts_of_tasks hs rfl⟩, rfl, rfl, rfl, ?_⟩
      · simpa [news?, List.filterMap_cons, Event.mark?, Except.map] using
          Advances.refused attempt error (Bool.not_eq_true _ ▸ hstop)
      · simp [news?, List.filterMap_cons, Event.mark?, Mark.isHolds]
        rfl

end

/-- A step of a watcher, as long as nobody closes: its marks tell how it goes on. -/
theorem strides_of_step (h : Supervises policy d.held a ms) (hs : d.active? w = some a)
    (hrunning : d.shutdown = false) (hactor : d.actor? label = some w)
    (hstep : d.step policy label = some (d', events)) :
    Strides policy d w a (marked policy w d label) d' := by
  rw [marked_of_step hstep]
  generalize hheld : d.held = held at h
  rcases label_of_own hs hrunning hactor hstep with ⟨rfl, h'⟩ | ⟨result, rfl, h'⟩
  · cases h with
    | watching => exact strides_of_watching hs h'
    | losing => exact strides_of_losing hs h'
    | pausing => exact strides_of_pausing hs h'
    | installing => exact strides_of_installing hheld hs h'
    | dialing | dismissed | gaveUp =>
      simp [proceed, stage?_of_active? hs, proceedHeld, proceedWatcher] at h'
  · cases h with
    | dialing => exact strides_of_dialing hs h'
    | watching | losing | pausing | installing | dismissed | gaveUp =>
      simp [answered, stage?_of_active? hs] at h'

/-! ## §3 Bystanders -/

/-- Whether a stage is one of a task that neither manages the dialer nor watches: of a call for a
session, of a call that looks whether a connection is held, or of a task that has ended. -/
def Stage.isBystander : Stage → Bool
  | .seeking | .opening _ | .checking | .returned _ | .exited => true
  | _ => false

/-- All tasks but one are bystanders. -/
def OnlyBystanders (d : Dialer) (t : Nat) : Prop :=
  ∀ u a, u ≠ t → d.active? u = some a → a.isBystander = true

/-- What a step of another task leaves as it is for a task. -/
structure Spares (d : Dialer) (t : Nat) (d' : Dialer) (events : List Event) : Prop where
  active : d'.active? t = d.active? t
  held : d'.held = d.held
  watcher : d'.watcher = d.watcher
  shutdown : d'.shutdown = d.shutdown
  generation : d'.generation = d.generation
  others : OnlyBystanders d' t
  dials : ∀ u, .asked u .dial ∉ events

theorem Goes.bystander (h : Goes policy d a b) (ha : a.isBystander = true) :
    b.isBystander = true ∧ b.awaits? ≠ some .dial ∧ a.carries? = none ∧
      a.heldAfter d.held = d.held ∧ a ≠ .stopping := by
  cases h with
  | finds | misses | opened | checked => exact ⟨rfl, nofun, rfl, rfl, nofun⟩
  | _ => cases ha

theorem OnlyBystanders.puts (h : OnlyBystanders d t) (hputs : Puts d d' u b)
    (hb : u ≠ t → b.isBystander = true) : OnlyBystanders d' t := by
  intro v s hv hs
  rw [hputs.active?] at hs
  split at hs
  · rename_i hvu
    cases hs
    exact hb (hvu ▸ hv)
  · exact h v s hv hs

theorem mem_requests {request : Request} (h : .asked u request ∈ events) :
    (u, request) ∈ requests events :=
  List.mem_filterMap.mpr ⟨_, h, rfl⟩

/-- A task that does not come to dial asks for no connection. -/
theorem Deed.not_dials (h : Deed policy d label t a b d' events) (hb : b.awaits? ≠ some .dial)
    (u : Nat) : .asked u .dial ∉ events := by
  intro hmem
  have hasked := mem_requests hmem
  rw [h.asked, Option.mem_toList, Option.map_eq_some_iff] at hasked
  obtain ⟨request, hrequest, heq⟩ := hasked
  cases heq
  exact hb hrequest

/-- A bystander leaves everything as it is, also a call that begins and does not manage the
dialer. -/
theorem OnlyBystanders.spares (h : OnlyBystanders d t) (ht : d.active? t = some a)
    (hsteps : Steps policy d label d' events) (hactor : d.actor? label ≠ some t)
    (hunmanaged : label.manages = false) : Spares d t d' events := by
  cases hsteps with
  | call operation =>
    have hputs := puts_begin d operation
    have hne : t ≠ d.tasks.length := Nat.ne_of_lt (lt_of_active? ht)
    have hactive : (d.begin operation).1.active? t = d.active? t := by rw [hputs.active?, if_neg hne]
    cases operation with
    | session | check =>
      exact ⟨hactive, rfl, rfl, rfl, rfl, h.puts hputs fun _ => rfl, nofun⟩
    | connect | reconnect | close => cases hunmanaged
  | deed _ u a' b _ _ hdeed =>
    have hu : u ≠ t := by
      rintro rfl
      exact hactor hdeed.actor
    obtain ⟨hb, hawaits, hcarries, hheld, hstopping⟩ :=
      hdeed.goes.bystander (h u a' hu hdeed.active)
    refine ⟨by rw [hdeed.puts.active?, if_neg hu.symm], hdeed.held.trans hheld, ?_, ?_, ?_,
      h.puts hdeed.puts fun _ => hb, hdeed.not_dials hawaits⟩
    · rw [hdeed.watcher, if_neg hstopping]
    · have hdialing : b ≠ .dialing .connecting := by
        rintro rfl
        cases hb
      simp [hdeed.shutdown, hdialing]
    · simp [hdeed.generation, hcarries]
  | adopt u c hs =>
    have hu : u ≠ t := by
      rintro rfl
      exact hactor rfl
    cases h u _ hu hs
  | exit _ u _ hends hasked =>
    have hu : u ≠ t := by
      rintro rfl
      exact hactor hends.actor
    refine ⟨by rw [active?_exit, if_neg hu.symm], rfl, rfl, rfl, rfl, ?_, fun v hmem => ?_⟩
    · intro v s hv hs
      rw [active?_exit] at hs
      split at hs
      · obtain ⟨_, _, rfl⟩ := Option.map_eq_some_iff.mp hs
        rfl
      · exact h v s hv hs
    · have hnone := mem_requests hmem
      rw [hasked] at hnone
      cases hnone
  | report | hangUp => exact ⟨rfl, rfl, rfl, rfl, rfl, h, by simp⟩

/-! ## §4 Vigils -/

/-- A watcher has the place, its marks tell where it is, and nobody else does anything about the
connection. The generation was `g` when its vigil began. -/
structure Attended (policy : Policy) (g w : Nat) (ms : List Mark) (d : Dialer) : Prop where
  place : d.watcher = some w
  course : ∃ a, d.active? w = some a ∧ Supervises policy d.held a ms
  generation : d.generation = g + ms.countP Mark.isHolds
  running : d.shutdown = false
  others : OnlyBystanders d w

variable {g : Nat}

/-- Every step keeps a vigil, as long as nobody calls to manage the dialer. -/
theorem Attended.step (h : Attended policy g w ms d)
    (hstep : d.step policy label = some (d', events)) (hunmanaged : label.manages = false) :
    Attended policy g w (ms ++ marked policy w d label) d' ∧
      ∀ u, .asked u .dial ∈ events → u = w := by
  obtain ⟨a, hs, hsupervises⟩ := h.course
  by_cases hactor : d.actor? label = some w
  · have hstrides := strides_of_step hsupervises hs h.running hactor hstep
    obtain ⟨b, hadvances, hputs⟩ := hstrides.goes
    have hcourse := hsupervises.advances hadvances
    rw [← hstrides.held] at hcourse
    refine ⟨⟨?_, ⟨b, ?_, hcourse⟩, ?_, ?_, ?_⟩, fun u hmem => ?_⟩
    · rw [hstrides.watcher, h.place]
    · rw [hputs.active?, if_pos rfl]
    · rw [hstrides.generation, h.generation, List.countP_append, Nat.add_assoc]
    · rw [hstrides.shutdown, h.running]
    · exact h.others.puts hputs fun hne => absurd rfl hne
    · have htold := told_of_step hstep hmem rfl
      exact Option.some.inj (htold.symm.trans hactor)
  · have hspares := h.others.spares hs (steps_of_step hstep) hactor hunmanaged
    rw [marked_of_ne hactor, List.append_nil]
    refine ⟨⟨?_, ⟨a, ?_, ?_⟩, ?_, ?_, hspares.others⟩, fun u hmem => absurd hmem (hspares.dials u)⟩
    · rw [hspares.watcher, h.place]
    · rw [hspares.active, hs]
    · rw [hspares.held]
      exact hsupervises
    · rw [hspares.generation, h.generation]
    · rw [hspares.shutdown, h.running]

/-- What is held and what the generation is, by the stage of a call that connects a dialer and has
not brought a watcher yet; the generation was `g` when the call began. -/
inductive Launch (g : Nat) : Option Nat → Nat → Stage → Prop where
  | dialing (held : Option Nat) : Launch g held g (.dialing .connecting)
  | installing (held : Option Nat) (c : Nat) : Launch g held g (.installing .connecting c)
  | replacing (c old : Nat) : Launch g (some c) (g + 1) (.replacing .connecting c old)
  | adopting (c : Nat) : Launch g (some c) (g + 1) (.adopting c)
  | refused (held : Option Nat) (error : BrokerError) :
      Launch g held g (.returned (.done (.error error)))

/-- A call connects a dialer, and nobody else does anything about the connection. -/
structure Launching (g t : Nat) (d : Dialer) : Prop where
  course : ∃ a, d.active? t = some a ∧ Launch g d.held d.generation a
  running : d.shutdown = false
  others : OnlyBystanders d t

private theorem launching_of_begin (hrest : ∀ u a, d.active? u = some a → a.isBystander = true) :
    Launching d.generation d.tasks.length (d.begin .connect).1 := by
  have hputs := puts_begin d .connect
  refine ⟨⟨.dialing .connecting, by rw [hputs.active?, if_pos rfl]; rfl, ?_⟩, rfl, ?_⟩
  · rw [begin_generation]
    exact .dialing _
  · intro u a hu hs
    rw [hputs.active?, if_neg hu] at hs
    exact hrest u a hs

private theorem Launch.goes (h : Launch g held k a) (hgoes : Goes policy d a b) :
    Launch g (a.heldAfter held) (k + a.carries?.toList.length) b ∧ b.awaits? ≠ some .dial := by
  cases h with
  | dialing =>
    cases hgoes with
    | refused error => exact ⟨.refused _ error, nofun⟩
    | dialed => exact ⟨.installing _ _, nofun⟩
  | installing _ c =>
    cases hgoes with
    | replaces _ _ old => exact ⟨.replacing c old, nofun⟩
    | holds => exact ⟨.adopting c, nofun⟩
  | replacing c old =>
    cases hgoes with
    | replaced => exact ⟨.adopting c, nofun⟩
  | adopting c => cases hgoes
  | refused => cases hgoes

private theorem Launch.isWatcher (h : Launch g held k a) : a.isWatcher = false := by
  cases h <;> rfl

private theorem Launch.held_of_adopting (h : Launch g held k (.adopting c)) :
    held = some c ∧ k = g + 1 := by
  cases h
  exact ⟨rfl, rfl⟩

/-- The vigil of a watcher begins when the call that has brought its connection returns. -/
private theorem Launching.attended_of_adopt (h : Launching g t d)
    (hs : d.active? t = some (.adopting c)) :
    Attended policy (g + 1) d.tasks.length [] (d.adopt t c).1 := by
  obtain ⟨a, hs', hlaunch⟩ := h.course
  obtain rfl : .adopting c = a := Option.some.inj (hs.symm.trans hs')
  have hview : (d.adopt t c).1.view = _ := view_adopt hs
  have hheld : (d.adopt t c).1.held = d.held := congrArg View.held hview
  have hgeneration : (d.adopt t c).1.generation = d.generation := rfl
  refine ⟨congrArg View.watcher hview, ⟨.watching c, ?_, ?_⟩, ?_, ?_, ?_⟩
  · rw [active?_adopt hs, if_pos rfl]
  · rw [hheld, hlaunch.held_of_adopting.1]
    exact .watching (.first c)
  · rw [hgeneration, hlaunch.held_of_adopting.2]
    rfl
  · rw [adopt_shutdown, h.running]
  · intro u s hu hs''
    rw [active?_adopt hs, if_neg hu] at hs''
    split at hs''
    · cases hs''
    · split at hs''
      · cases hs''
        rfl
      · rename_i hne
        exact h.others u s hne hs''

/-- A call that connects a dialer goes on, unless it has brought a connection and gives it its
watcher. -/
private theorem Launching.step (h : Launching g t d)
    (hstep : d.step policy label = some (d', events)) (hunmanaged : label.manages = false) :
    (Launching g t d' ∨ Attended policy (g + 1) d.tasks.length [] d' ∧
      d.actor? label ≠ some d.tasks.length) ∧ ∀ u, .asked u .dial ∉ events := by
  obtain ⟨a, hs, hlaunch⟩ := h.course
  have hsteps : Steps policy d label d' events := steps_of_step hstep
  by_cases hactor : d.actor? label = some t
  · cases hsteps with
    | call operation =>
      cases hactor
      rw [active?_length] at hs
      cases hs
    | deed _ u a' b _ _ hdeed =>
      obtain rfl : u = t := Option.some.inj (hdeed.actor.symm.trans hactor)
      have hsame : a' = a := Option.some.inj (hdeed.active.symm.trans hs)
      subst hsame
      obtain ⟨hnext, hawaits⟩ := hlaunch.goes hdeed.goes
      rw [← hdeed.held, ← hdeed.generation] at hnext
      refine ⟨.inl ⟨⟨b, by rw [hdeed.puts.active?, if_pos rfl], hnext⟩, ?_, ?_⟩,
        hdeed.not_dials hawaits⟩
      · rw [hdeed.shutdown, h.running]
        rfl
      · exact h.others.puts hdeed.puts fun hne => absurd rfl hne
    | adopt u c hs' =>
      obtain rfl : u = t := Option.some.inj hactor
      have hne : u ≠ d.tasks.length := Nat.ne_of_lt (lt_of_active? hs')
      refine ⟨.inr ⟨h.attended_of_adopt hs', ?_⟩, by simp [adopt, finish]⟩
      rw [hactor]
      exact fun heq => hne (Option.some.inj heq)
    | exit _ u _ hends =>
      obtain rfl : u = t := Option.some.inj (hends.actor.symm.trans hactor)
      have hwatcher := hends.isWatcher hs
      rw [hlaunch.isWatcher] at hwatcher
      cases hwatcher
    | report | hangUp => cases hactor
  · have hspares := h.others.spares hs hsteps hactor hunmanaged
    refine ⟨.inl ⟨⟨a, hspares.active.trans hs, ?_⟩, ?_, hspares.others⟩, hspares.dials⟩
    · rw [hspares.held, hspares.generation]
      exact hlaunch
    · rw [hspares.shutdown, h.running]

/-- Nobody is called to connect, to reconnect or to close in a part of a run. -/
def Unmanaged (history : List (Dialer × Label)) : Prop :=
  ∀ p ∈ history, p.2.manages = false

instance : Decidable (Unmanaged history) :=
  inferInstanceAs (Decidable (∀ p ∈ history, p.2.manages = false))

theorem unmanaged_cons : Unmanaged ((d, label) :: later) ↔
    label.manages = false ∧ Unmanaged later :=
  List.forall_mem_cons

/-- How far a dialer has come since a call to connect it, `t`, was begun. -/
inductive Phase (policy : Policy) (g t : Nat) (later : List (Dialer × Label)) (d : Dialer) : Prop
    where
  | launching : Launching g t d → (∀ w, d.tasks.length ≤ w → marks policy w later = []) →
      (∀ u, .asked u .dial ∉ shown policy later) → Phase policy g t later d
  | attended (w : Nat) : Attended policy (g + 1) w (marks policy w later) d →
      (∀ u, .asked u .dial ∈ shown policy later → u = w) → Phase policy g t later d

private theorem Phase.step (h : Phase policy g t later d)
    (hstep : d.step policy label = some (d', events)) (hunmanaged : label.manages = false) :
    Phase policy g t ((d, label) :: later) d' := by
  cases h with
  | launching hlaunching hmarks hdials =>
    obtain ⟨hcase, hnone⟩ := hlaunching.step hstep hunmanaged
    have hquiet : ∀ u, .asked u .dial ∉ shown policy ((d, label) :: later) := by
      intro u
      rw [shown_cons hstep, List.mem_append]
      exact not_or.mpr ⟨hnone u, hdials u⟩
    rcases hcase with hlaunching' | ⟨hattended, hactor⟩
    · refine .launching hlaunching' (fun w hw => ?_) hquiet
      have hother : d.actor? label ≠ some w := fun hactor =>
        absurd (actor_lt_of_step hstep hactor) (Nat.not_lt_of_le hw)
      rw [marks_cons, marked_of_ne hother, hmarks w (Nat.le_trans (length_le_of_step hstep) hw)]
      rfl
    · -- the watcher is new, so nothing has left a mark on it yet
      have hfresh : marks policy d.tasks.length ((d, label) :: later) = [] := by
        rw [marks_cons, marked_of_ne hactor, hmarks _ (Nat.le_refl _)]
        rfl
      refine .attended d.tasks.length (hfresh ▸ hattended) fun u hmem => absurd hmem (hquiet u)
  | attended w hattended hdials =>
    obtain ⟨hnext, hdials'⟩ := hattended.step hstep hunmanaged
    refine .attended w (marks_cons ▸ hnext) fun u hmem => ?_
    rw [shown_cons hstep, List.mem_append] at hmem
    exact hmem.elim (hdials' u) (hdials u)

/-- A dialer of bystanders is called to connect, and to nothing else that manages it: the call
connects it, or it is attended by one watcher, and nobody else dials. -/
theorem phase_of_run {d₀ : Dialer} (hrest : ∀ u a, d₀.active? u = some a → a.isBystander = true)
    (hrun : Run policy (later ++ (d₀, .call .connect) :: before) d) (hunmanaged : Unmanaged later) :
    Phase policy d₀.generation d₀.tasks.length later d := by
  obtain ⟨d₁, h₁⟩ := hrun.earlier
  have hbegun : d₁ = (d₀.begin .connect).1 := by
    cases h₁ with
    | step _ _ hstep => exact (congrArg Prod.fst (Option.some.inj hstep)).symm
  -- on the part of the run after the call was begun
  refine Run.resume (P := fun later d => Unmanaged later →
    Phase policy d₀.generation d₀.tasks.length later d) h₁ hrun (fun _ => ?_) ?_ hunmanaged
  · rw [hbegun]
    exact .launching (launching_of_begin hrest) (fun _ _ => rfl) (by simp [shown])
  · intro later d d' events label hrun ih hstep hunmanaged
    obtain ⟨hlabel, hlater⟩ := unmanaged_cons.mp hunmanaged
    exact (ih hlater).step hstep hlabel

end Courier.Dialer
