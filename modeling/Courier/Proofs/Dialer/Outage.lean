import Courier.Proofs.Dialer.Vigil

/-!
# Outages

What an outage is to the calls. As long as nobody manages the dialer, a vigil goes on, and a watcher
that has ended leaves everything as it is. From the step in which a watcher takes note of a failure
until a redial succeeds, whoever calls for a session is told that there is no connection: a call
that is begun since waits behind the watcher, and finds nothing when its turn comes.
-/

namespace Courier.Dialer

variable {policy : Policy} {before later since : List (Dialer × Label)} {d d₁ d' : Dialer}
  {label : Label} {events : List Event} {u w c g : Nat} {a b : Stage} {held : Option Nat}
  {ms : List Mark}

/-! ## §1 During a vigil -/

section

variable (h : Attended policy g w ms d)

include h

/-- Whoever does anything about the connection is the watcher. -/
theorem Attended.eq_watcher (hs : d.active? u = some a) (ha : a.isBystander = false) :
    u = w := by
  by_cases hu : u = w
  · exact hu
  · rw [h.others u a hu hs] at ha
    cases ha

theorem Attended.not_adopting (u c : Nat) : d.active? u ≠ some (.adopting c) := by
  intro hs
  obtain ⟨a, hw, hsupervises⟩ := h.course
  rw [h.eq_watcher hs rfl, hw] at hs
  cases hs
  generalize d.held = held at hsupervises
  cases hsupervises

/-- The other tasks are where they were after a step of one of them. -/
theorem Attended.active?_of_ne (hsteps : Steps policy d label d' events)
    (hs : d.active? u = some a) (hactor : d.actor? label ≠ some u) : d'.active? u = some a :=
  hsteps.active?_of_ne h.not_adopting hs hactor

/-- A call takes its steps by going on. -/
theorem Attended.deed_of_call (hsteps : Steps policy d label d' events)
    (hs : d.active? u = some a) (hcall : a.isWatcher = false) (hactor : d.actor? label = some u) :
    ∃ b, Deed policy d label u a b d' events := by
  refine hsteps.deed_of_call hs hcall ?_ hactor
  rintro c rfl
  exact h.not_adopting u c hs

end

/-- A vigil lasts as long as nobody calls to manage the dialer, and only the watcher dials. -/
theorem Attended.resume (h₁ : Run policy before d₁) (hattended : Attended policy g w ms d₁)
    (hrun : Run policy (later ++ before) d) (hunmanaged : Unmanaged later) :
    Attended policy g w (ms ++ marks policy w later) d ∧
      ∀ u, .asked u .dial ∈ shown policy later → u = w := by
  refine Run.resume (P := fun later d => Unmanaged later →
    Attended policy g w (ms ++ marks policy w later) d ∧
      ∀ u, .asked u .dial ∈ shown policy later → u = w) h₁ hrun (fun _ => ?_) ?_ hunmanaged
  · have hnone : ms ++ marks policy w [] = ms := List.append_nil ms
    rw [hnone]
    exact ⟨hattended, by simp [shown]⟩
  · intro later d d' events label hrun ih hstep hunmanaged
    obtain ⟨hlabel, hlater⟩ := unmanaged_cons.mp hunmanaged
    obtain ⟨hd, hdials⟩ := ih hlater
    obtain ⟨hnext, hdials'⟩ := hd.step hstep hlabel
    refine ⟨?_, fun u hmem => ?_⟩
    · rw [marks_cons, ← List.append_assoc]
      exact hnext
    · rw [shown_cons hstep, List.mem_append] at hmem
      exact hmem.elim (hdials' u) (hdials u)

/-- A watcher that has ended takes no further step. -/
private theorem Attended.exited_step (h : Attended policy g w ms d)
    (hs : d.active? w = some .exited) (hstep : d.step policy label = some (d', events))
    (hunmanaged : label.manages = false) :
    d.actor? label ≠ some w ∧ d'.active? w = some .exited ∧ d'.held = d.held := by
  obtain ⟨a, hs', hsupervises⟩ := h.course
  obtain rfl : a = .exited := Option.some.inj (hs'.symm.trans hs)
  have hactor : d.actor? label ≠ some w := by
    intro hactor
    obtain ⟨b, hadvances, _⟩ := (strides_of_step hsupervises hs h.running hactor hstep).goes
    cases hadvances
  have hspares := h.others.spares hs (steps_of_step hstep) hactor hunmanaged
  exact ⟨hactor, hspares.active.trans hs, hspares.held⟩

/-- A watcher that has ended leaves everything as it is for good. -/
theorem Attended.exited_resume (h₁ : Run policy before d₁) (hattended : Attended policy g w ms d₁)
    (hs : d₁.active? w = some .exited) (hrun : Run policy (later ++ before) d)
    (hunmanaged : Unmanaged later) :
    d.active? w = some .exited ∧ d.held = d₁.held ∧ marks policy w later = [] := by
  refine Run.resume (P := fun later d => Unmanaged later → d.active? w = some .exited ∧
    d.held = d₁.held ∧ marks policy w later = []) h₁ hrun (fun _ => ⟨hs, rfl, rfl⟩) ?_ hunmanaged
  intro later d d' events label hrun ih hstep hunmanaged
  obtain ⟨hlabel, hlater⟩ := unmanaged_cons.mp hunmanaged
  obtain ⟨hexited, hheld, hmarks⟩ := ih hlater
  obtain ⟨hd, _⟩ := hattended.resume h₁ hrun hlater
  obtain ⟨hactor, hexited', hheld'⟩ := hd.exited_step hexited hstep hlabel
  refine ⟨hexited', hheld'.trans hheld, ?_⟩
  rw [marks_cons, marked_of_ne hactor, hmarks]
  rfl

/-! ## §2 Sessions -/

/-- Who looks for a connection where none is held is told so. -/
theorem step_seeking_of_none (hheld : d.held = none) (hs : d.active? u = some .seeking)
    (hlock : d.heldLock.isHeldBy u = true) : ∃ d', d.step policy (.proceed u)
      = some (d', [.returned u (.session (.error .notConnected))]) := by
  rw [step_proceed hs]
  simp [proceed, stage?_of_active? hs, hlock, proceedHeld, hheld, finish]

private theorem isHeldBy_of_seeking (hs : d.active? u = some .seeking)
    (h : d.step policy (.proceed u) = some (d', events)) : d.heldLock.isHeldBy u = true := by
  rw [step_proceed hs] at h
  cases hlock : d.heldLock.isHeldBy u with
  | true => rfl
  | false => simp [proceed, stage?_of_active? hs, hlock, proceedWatcher] at h

/-- Whoever waits for the lock of the connection keeps the place behind the watcher. -/
private theorem Attended.behind_of_ne (h : Attended policy g w ms d) (ho : Orderly d)
    (hsteps : Steps policy d label d' events)
    (hactor : d.actor? label ≠ some u) (hactor' : d.actor? label ≠ some w)
    (hunmanaged : label.manages = false) (hbehind : [w, u].Sublist d.heldLock.queue) :
    [w, u].Sublist d'.heldLock.queue := by
  have hkeeps {v : Nat} {s s' : Lock.Stake} (hv : d.actor? label = some v)
      (hs : d.stake Stage.heldStake v = s) (huse : d.heldLock.Use v s s' d'.heldLock) :
      [w, u].Sublist d'.heldLock.queue := by
    subst hs
    refine ho.held.sublist_queue huse (fun hmem => ?_) hbehind
    rcases List.mem_cons.mp hmem with rfl | hmem
    · exact hactor' hv
    · exact hactor (List.mem_singleton.mp hmem ▸ hv)
  cases hsteps with
  | call operation =>
    have hnone : d.stake Stage.heldStake d.tasks.length = .none := by
      simp [stake, stage?_length]
    cases operation with
    | session | check => exact hkeeps rfl hnone (.request _)
    | connect | reconnect | close => cases hunmanaged
  | deed _ v a b _ _ hdeed =>
    exact hkeeps hdeed.actor (stake_of_active? hdeed.active) hdeed.heldLock
  | adopt v c hs' => exact absurd hs' (h.not_adopting v c)
  | exit _ v _ hends => exact hkeeps hends.actor rfl (.leave _ _)
  | report | hangUp => exact hbehind

/-- Since a watcher took note of a failure: it has yet to give up what is held, or nothing is held.
A call for a session that was begun since has been refused, or it has yet to look for a connection:
in the first case it waits behind the watcher. -/
structure Refuses (w : Nat) (since : List (Dialer × Label)) (d : Dialer) : Prop where
  state : d.active? w = some .losing ∨ d.held = none
  calls : ∀ u, Called since u .session →
    d.active? u = some .seeking ∧
      (d.active? w = some .losing → [w, u].Sublist d.heldLock.queue) ∨
    d.active? u = some (.returned (.session (.error .notConnected)))

section

variable (h : Refuses w since d) (hattended : Attended policy g w ms d)

include h hattended

/-- When the watcher goes on, it gives up what is held, or it has done so before. -/
private theorem Refuses.watcher_step (hactor : d.actor? label = some w)
    (hstep : d.step policy label = some (d', events))
    (hmarked : ∀ c, .holds c ∉ marked policy w d label) :
    d'.held = none ∧ d'.active? w ≠ some .losing := by
  obtain ⟨a, hs, hsupervises⟩ := hattended.course
  have hstrides := strides_of_step hsupervises hs hattended.running hactor hstep
  obtain ⟨b, hadvances, hputs⟩ := hstrides.goes
  rw [hstrides.held, hputs.active?, if_pos rfl]
  generalize marked policy w d label = ms' at hmarked hadvances
  rcases h.state with hlosing | hnone
  · obtain rfl : a = .losing := Option.some.inj (hs.symm.trans hlosing)
    cases hadvances
    exact ⟨rfl, nofun⟩
  · rw [hnone] at hsupervises ⊢
    cases hsupervises with
    | dialing => cases hadvances <;> exact ⟨rfl, nofun⟩
    | pausing => cases hadvances; exact ⟨rfl, nofun⟩
    | gaveUp => cases hadvances
    | installing c =>
      cases hadvances
      exact absurd (List.mem_singleton.mpr rfl) (hmarked c)

private theorem Refuses.state_step (hstep : d.step policy label = some (d', events))
    (hunmanaged : label.manages = false) (hmarked : ∀ c, .holds c ∉ marked policy w d label) :
    d'.active? w = some .losing ∨ d'.held = none := by
  by_cases hactor : d.actor? label = some w
  · exact .inr (h.watcher_step hattended hactor hstep hmarked).1
  · obtain ⟨a, hs, _⟩ := hattended.course
    have hspares := hattended.others.spares hs (steps_of_step hstep) hactor hunmanaged
    rw [hspares.active, hspares.held]
    exact h.state

/-- A watcher that has yet to give up what is held has not taken the step. -/
private theorem Refuses.losing_before (hstep : d.step policy label = some (d', events))
    (hunmanaged : label.manages = false) (hmarked : ∀ c, .holds c ∉ marked policy w d label)
    (hlosing : d'.active? w = some .losing) :
    d.active? w = some .losing ∧ d.actor? label ≠ some w := by
  by_cases hactor : d.actor? label = some w
  · exact absurd hlosing (h.watcher_step hattended hactor hstep hmarked).2
  · obtain ⟨a, hs, _⟩ := hattended.course
    have hspares := hattended.others.spares hs (steps_of_step hstep) hactor hunmanaged
    exact ⟨hspares.active.symm.trans hlosing, hactor⟩

/-- A call that looks for a connection finds none. -/
private theorem Refuses.seeking_step (ho : Orderly d)
    (hs : d.active? u = some .seeking)
    (hbehind : d.active? w = some .losing → [w, u].Sublist d.heldLock.queue)
    (hstep : d.step policy label = some (d', events)) (hactor : d.actor? label = some u) :
    d'.active? u = some (.returned (.session (.error .notConnected))) := by
  obtain ⟨b, hdeed⟩ := hattended.deed_of_call (steps_of_step hstep) hs rfl hactor
  have hlabel : label = .proceed u := hdeed.driven
  subst hlabel
  have hb : b = .returned (.session (.error .notConnected)) := by
    cases hdeed.goes with
    | misses => rfl
    | finds c hfound =>
      rcases h.state with hlosing | hnone
      · -- the watcher is before it in the queue, and nobody else has the lock
        have hlock := isHeldBy_of_seeking hs hstep
        rw [ho.held.not_isHeldBy_of_behind (hbehind hlosing)] at hlock
        cases hlock
      · rw [hnone] at hfound
        cases hfound
  rw [hdeed.puts.active?, if_pos rfl, hb]

private theorem Refuses.step (ho : Orderly d) (hstep : d.step policy label = some (d', events))
    (hunmanaged : label.manages = false) (hmarked : ∀ c, .holds c ∉ marked policy w d label) :
    Refuses w ((d, label) :: since) d' := by
  have hsteps : Steps policy d label d' events := steps_of_step hstep
  refine ⟨h.state_step hattended hstep hunmanaged hmarked, fun u hcalled => ?_⟩
  have hbefore := h.losing_before hattended hstep hunmanaged hmarked
  rcases called_cons.mp hcalled with ⟨rfl, rfl⟩ | hlater
  · -- a call that begins joins the queue at its end
    have hbegun : (d.begin .session).1 = d' := congrArg Prod.fst (Option.some.inj hstep)
    have hputs := puts_begin d .session
    rw [hbegun] at hputs
    refine .inl ⟨by rw [hputs.active?, if_pos rfl]; rfl, fun hlosing => ?_⟩
    have hqueue : w ∈ d.heldLock.queue := by
      rw [ho.held.mem_queue, stake_of_active? (hbefore hlosing).1]
      simp [Stage.heldStake]
    have hlock : d'.heldLock = d.heldLock.request d.tasks.length := by
      rw [← hbegun]
      rfl
    rw [hlock, Lock.queue_request ho.held.served]
    exact (List.singleton_sublist.mpr hqueue).append (List.Sublist.refl _)
  · rcases h.calls u hlater with ⟨hs, hbehind⟩ | hs
    · by_cases hactor : d.actor? label = some u
      · exact .inr (h.seeking_step hattended ho hs hbehind hstep hactor)
      · refine .inl ⟨hattended.active?_of_ne hsteps hs hactor, fun hlosing => ?_⟩
        obtain ⟨hlosing', hactor'⟩ := hbefore hlosing
        exact hattended.behind_of_ne ho hsteps hactor hactor' hunmanaged (hbehind hlosing')
    · refine .inr (hattended.active?_of_ne hsteps hs fun hactor => ?_)
      obtain ⟨b, hdeed⟩ := hattended.deed_of_call hsteps hs rfl hactor
      cases hdeed.goes

end

/-- From the step in which a watcher takes note of a failure until a redial succeeds, whoever calls
for a session is refused. -/
theorem refuses_of_run (h₁ : Run policy before d₁) (hattended : Attended policy g w ms d₁)
    (hlosing : d₁.active? w = some .losing) (hrun : Run policy (since ++ before) d)
    (hunmanaged : Unmanaged since) (hmarks : ∀ c, .holds c ∉ marks policy w since) :
    Refuses w since d := by
  refine Run.resume (P := fun since d => Unmanaged since →
    (∀ c, .holds c ∉ marks policy w since) → Refuses w since d) h₁ hrun ?_ ?_ hunmanaged hmarks
  · intro _ _
    refine ⟨.inl hlosing, fun u => ?_⟩
    rintro ⟨_, hmem, _⟩
    cases hmem
  · intro since d d' events label hrun ih hstep hunmanaged hmarks
    simp only [marks_cons, List.mem_append, not_or] at hmarks
    obtain ⟨hlabel, hsince⟩ := unmanaged_cons.mp hunmanaged
    obtain ⟨hd, _⟩ := hattended.resume h₁ hrun hsince
    exact (ih hsince fun c => (hmarks c).1).step hd (orderly_of_run hrun) hstep hlabel
      fun c => (hmarks c).2

end Courier.Dialer
