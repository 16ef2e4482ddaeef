import Courier.Proofs.Dialer.Order
import Courier.Proofs.Dialer.Supervision

/-!
# The order to end

A closing call orders the watchers to end and waits for the end of the one whose place it has taken.
The order stands exactly as long as no connecting call begins to dial: such a call takes it back,
whether or not a closing call waits. As long as it stands, the watcher that a closing call waits for
can end at once, except while it is about to give up the connection that has failed.
-/

namespace Courier.Dialer

variable {policy : Policy} {history earlier later : List (Dialer × Label)} {d d₀ d' : Dialer}
  {label : Label} {events : List Event} {t w : Nat}

/-! ## §1 The order -/

/-- Whether a connecting or a reconnecting call begins to dial with a step. -/
def resumes (d : Dialer) : Label → Bool
  | .call operation => decide (operation = .connect)
  | .proceed t => decide (d.stage? t = some .discarding) && d.held.isNone
  | .answer t _ => ((d.stage? t).map fun
    | .clearingOut _ => true
    | _ => false).getD false
  | _ => false

private theorem resumes_of_deed {a b : Stage} (h : Deed policy d label t a b d' events) :
    d.resumes label = decide (b = .dialing .connecting) := by
  have hstage := stage?_of_active? h.active
  have hdriven := h.driven
  cases h.goes with
  | refused | paused | dialed | discarded | opened | closed =>
    obtain ⟨result, rfl⟩ := hdriven
    simp [resumes, hstage]
  | replaced p c old =>
    obtain ⟨result, rfl⟩ := hdriven
    cases p <;> simp [resumes, hstage, settledStage]
  | holds p c =>
    obtain rfl : label = .proceed t := hdriven
    cases p <;> simp [resumes, hstage, settledStage]
  | _ =>
    obtain rfl : label = .proceed t := hdriven
    simp_all [resumes]

private theorem resumes_of_ends (h : Ends policy d t label) : d.resumes label = false := by
  cases h with
  | stopped | dropped => rfl
  | hungUp c hs => simp [resumes, stage?_of_active? hs]
  | gaveUp attempt e hs => simp [resumes, stage?_of_active? hs]

/-- The order is given by closing calls and taken back by connecting calls. -/
theorem shutdown_of_steps (hsteps : Steps policy d label d' events) :
    d'.shutdown = (decide (label = .call .close) || (d.shutdown && !d.resumes label)) := by
  cases hsteps with
  | call operation =>
    cases operation <;>
      simp [begin, startConnect, ask, requestHeld, requestWatcher, setStage, resumes]
  | deed _ t a b _ _ h =>
    have hcall : label ≠ .call .close := by
      rintro rfl
      rcases h.driven.proceeds_or_answers with ⟨_, hlabel⟩ | ⟨_, _, hlabel⟩
      · cases hlabel
      · cases hlabel
    simp [h.shutdown, resumes_of_deed h, hcall]
  | adopt t c hs => simp [resumes, stage?_of_active? hs]
  | exit _ t _ hends =>
    have hcall : label ≠ .call .close := by
      rintro rfl
      cases hends
    simp [resumes_of_ends hends, hcall]
  | report | hangUp => simp [resumes, changeConnection]

private theorem shutdown_kept_iff {d₁ : Dialer} {before : List (Dialer × Label)}
    (h₁ : Run policy before d₁) (hgiven : d₁.shutdown = true)
    (hrun : Run policy (later ++ before) d) :
    ((∀ p ∈ later, p.1.shutdown = true) ∧ d.shutdown = true) ↔
      ∀ p ∈ later, p.1.resumes p.2 = false := by
  -- on the later part of the run: a step counts with the order before and after it
  refine Run.resume (P := fun later d => ((∀ p ∈ later, p.1.shutdown = true) ∧ d.shutdown = true) ↔
    ∀ p ∈ later, p.1.resumes p.2 = false) h₁ hrun ?_ ?_
  · simp [hgiven]
  · intro later d d' events label _ ih hstep
    have hshutdown : d'.shutdown = _ := shutdown_of_steps (steps_of_step hstep)
    rw [List.forall_mem_cons, List.forall_mem_cons, ← ih]
    dsimp only
    constructor
    · rintro ⟨⟨hd, hlater⟩, hd'⟩
      refine ⟨?_, hlater, hd⟩
      rw [hshutdown] at hd'
      by_cases hcall : label = .call .close
      · rw [hcall]
        rfl
      · simpa [hcall, hd] using hd'
    · rintro ⟨hresumes, hlater, hd⟩
      have hd' : d'.shutdown = true := by simp [hshutdown, hresumes, hd]
      exact ⟨⟨hd, hlater⟩, hd'⟩

/-! ## §2 The watcher that a closing call waits for -/

private theorem Goes.watches {a b : Stage} (h : Goes policy d a b) (ha : a.isWatcher = true) :
    b.isWatcher = true := by
  cases h with
  | dialed p | replaces p | holds p | replaced p =>
    cases p with
    | connecting => cases ha
    | redialing _ => rfl
  | failed | lost | paused | again => rfl
  | _ => cases ha

private theorem Goes.joining {a : Stage} (h : Goes policy d a (.joining w)) :
    a = .stopping ∧ d.watcher = some w := by
  generalize hb : Stage.joining w = b at h
  cases h with
  | joins w' hw =>
    cases hb
    exact ⟨rfl, hw⟩
  | holds p | replaced p => cases p <;> cases hb
  | _ => cases hb

/-- While a task has the lock of the watcher, no other one has it to bring a watcher. -/
private theorem isHeldBy_adopting {u c : Nat} {a : Stage} (hheld : d.watcherLock.isHeldBy t = true)
    (hs : d.active? t = some a) (ha : a ≠ .adopting c) (hu : d.active? u = some (.adopting c)) :
    d.watcherLock.isHeldBy u = false := by
  cases hother : d.watcherLock.isHeldBy u with
  | false => rfl
  | true =>
    rw [Lock.isHeldBy_unique hheld hother, hs] at hu
    exact absurd (Option.some.inj hu) ha

/-- A watcher goes on or ends of itself, if no call brings another one. -/
theorem watcher_of_steps {stage : Stage} (hsteps : Steps policy d label d' events)
    (hs : d.active? w = some stage) (hwatcher : stage.isWatcher = true ∨ stage = .exited)
    (hkept : ∀ u c, d.active? u = some (.adopting c) → d.watcherLock.isHeldBy u = false) :
    ∃ stage', d'.active? w = some stage' ∧ (stage'.isWatcher = true ∨
      stage' = .exited ∧ (stage.isWatcher = true → Ends policy d w label)) := by
  have hstays : stage.isWatcher = true ∨
      stage = .exited ∧ (stage.isWatcher = true → Ends policy d w label) := by
    rcases hwatcher with hwatcher | rfl
    · exact .inl hwatcher
    · exact .inr ⟨rfl, nofun⟩
  cases hsteps with
  | call operation =>
    refine ⟨stage, ?_, hstays⟩
    rw [(puts_begin d operation).active?, if_neg (Nat.ne_of_lt (lt_of_active? hs))]
    exact hs
  | deed _ u a b _ _ h =>
    simp only [h.puts.active?]
    by_cases hu : w = u
    · subst hu
      have hsame : a = stage := Option.some.inj (h.active.symm.trans hs)
      subst hsame
      refine ⟨b, if_pos rfl, .inl ?_⟩
      rcases hwatcher with hwatcher | rfl
      · exact h.goes.watches hwatcher
      · cases h.goes
    · exact ⟨stage, (if_neg hu).trans hs, hstays⟩
  | adopt u c hs' hheld =>
    -- this is the only step that aborts a watcher
    rw [hkept u c hs'] at hheld
    cases hheld
  | exit _ u _ hends =>
    simp only [active?_exit]
    by_cases hu : w = u
    · subst hu
      exact ⟨.exited, by simp [hs], .inr ⟨rfl, fun _ => hends⟩⟩
    · exact ⟨stage, (if_neg hu).trans hs, hstays⟩
  | report c e => exact ⟨stage, hs, hstays⟩
  | hangUp c => exact ⟨stage, hs, hstays⟩

/-- A closing call waits for a watcher that goes on or has ended: nobody aborts it, since the call
has the lock of the watcher. -/
theorem joined_of_run (hrun : Run policy history d) (hs : d.active? t = some (.joining w)) :
    ∃ stage, d.active? w = some stage ∧ (stage.isWatcher = true ∨ stage = .exited) := by
  induction hrun generalizing t with
  | new =>
    cases lt_of_active? hs
  | @step history d d' events label hrun hstep ih =>
    have hl := ledger_of_run hrun
    have hsteps : Steps policy d label d' events := steps_of_step hstep
    -- the lock of the watcher is with the call that waits, before and after the step
    cases came_of_steps hsteps hs with
    | stayed hs =>
      obtain ⟨stage, hw, hwatcher⟩ := ih hs
      have hheld := (orderly_of_run hrun).watcher.keeps t (stake_of_active? hs)
      obtain ⟨stage', hw', hcase⟩ := watcher_of_steps hsteps hw hwatcher fun u c =>
        isHeldBy_adopting hheld hs nofun
      exact ⟨stage', hw', hcase.imp_right And.left⟩
    | went a hdeed =>
      obtain ⟨rfl, hw⟩ := hdeed.goes.joining
      obtain ⟨stage, hstage, hwatcher⟩ := hl.slot w hw
      have hheld := hdeed.watcherLock.keeps
      obtain ⟨stage', hw', hcase⟩ := watcher_of_steps hsteps hstage hwatcher fun u c =>
        isHeldBy_adopting hheld hdeed.active nofun
      exact ⟨stage', hw', hcase.imp_right And.left⟩
    | began operation _ _ hfirst => cases operation <;> cases hfirst
    | appointed _ _ hb | handedOver _ _ hb | ended _ _ _ hb => cases hb

/-- Where a task was when it ends makes no difference. -/
theorem exit_setStage (d : Dialer) (t : Nat) (stage : Stage) :
    (d.setStage t stage).exit t = d.exit t := by
  simp [exit, setStage, List.modify_modify_eq, Function.comp_def]

/-- A watcher that has given up its connection and is to end can stop as soon as it has asked for the
dial, and everything is as if it had ended instead. -/
theorem stop_of_losing (hs : d.active? t = some .losing) (hheld : d.heldLock.isHeldBy t = true)
    (horder : d.shutdown = true) :
    ∃ d', d.step policy (.proceed t) = some (d', [.asked t .dial]) ∧
      d'.step policy (.stop t) = some ({ d with held := none }.releaseHeld.exit t, []) := by
  let lost := { d with held := none }.releaseHeld
  have hlost : lost.active? t = some .losing := hs
  have hdialing : (lost.setStage t (.dialing (.redialing 0))).active? t
      = some (.dialing (.redialing 0)) := by
    rw [active?_setStage, if_pos rfl, hlost, Option.map_some]
  refine ⟨lost.setStage t (.dialing (.redialing 0)), ?_, ?_⟩
  · simp [step_proceed hs, proceed, stage?_of_active? hs, hheld, proceedHeld, ask, lost]
  · have hflag : (lost.setStage t (.dialing (.redialing 0))).shutdown = true := horder
    simp [step, stage?_of_active? hdialing, isAborted_of_active? hdialing, hflag,
      Stage.isStoppable, exit_setStage, lost]

private theorem isStoppable_iff {stage : Stage} (h : stage.isWatcher = true) :
    stage.isStoppable = true ↔ stage ≠ .losing := by
  cases stage with
  | dialing p | installing p _ | replacing p _ _ =>
    cases p with
    | connecting => cases h
    | redialing _ => exact iff_of_true rfl nofun
  | losing => exact iff_of_false nofun fun hne => hne rfl
  | watching | pausing => exact iff_of_true rfl nofun
  | _ => cases h

private theorem stop_iff (hrun : Run policy history d) (hs : d.active? t = some (.joining w))
    (hrunning : d.hasEnded w = false) : (d.step policy (.stop w)).isSome = true ↔
      d.shutdown = true ∧ d.stage? w ≠ some .losing := by
  obtain ⟨stage, hw, hwatcher⟩ := joined_of_run hrun hs
  have hstage := stage?_of_active? hw
  rcases hwatcher with hwatcher | rfl
  · -- it was not aborted, so the order and its own stage decide
    have hactive : d.isAborted w = false := isAborted_of_active? hw
    rw [hstage, Ne, Option.some.injEq, ← Ne, ← isStoppable_iff hwatcher]
    simp [step, hstage, hactive]
  · simp [hasEnded, hstage] at hrunning

/-! ## §3 Watchers that have ended -/

/-- The task that takes a step. -/
def Label.task? : Label → Option Nat
  | .proceed t | .answer t _ | .stop t | .drop t => some t
  | _ => none

private theorem step_of_exited (hs : d.stage? w = some .exited) (hlabel : label.task? = some w) :
    d.step policy label = none := by
  cases label with
  | proceed t =>
    cases hlabel
    simp [step, proceed, hs, proceedHeld, proceedWatcher]
  | answer t result =>
    cases hlabel
    simp [step, answered, hs]
  | stop t =>
    cases hlabel
    simp [step, hs, Stage.isStoppable]
  | drop t =>
    cases hlabel
    simp [step, hasEnded, hs]
  | _ => cases hlabel

private theorem exited_of_steps (hsteps : Steps policy d label d' events)
    (hs : d.stage? w = some .exited) : d'.stage? w = some .exited := by
  have hlt : w ≠ d.tasks.length := by
    rintro rfl
    rw [stage?_length] at hs
    cases hs
  cases hsteps with
  | call operation =>
    rw [(puts_begin d operation).stage?, if_neg hlt]
    exact hs
  | deed _ t a b _ _ h =>
    have ht : w ≠ t := by
      rintro rfl
      have hsame := (stage?_of_active? h.active).symm.trans hs
      cases hsame
      cases h.goes
    rw [h.puts.stage?, if_neg ht]
    exact hs
  | adopt t c hs' =>
    have ht : w ≠ t := by
      rintro rfl
      rw [stage?_of_active? hs'] at hs
      cases hs
    rw [stage?_adopt hs', if_neg ht, if_neg hlt]
    exact hs
  | exit _ t _ _ =>
    rw [stage?_exit]
    split
    · rename_i ht
      simp [← ht, hs]
    · exact hs
  | report | hangUp => exact hs

private theorem exited_of_stop (hstep : d.step policy (.stop w) = some (d', events)) :
    d'.stage? w = some .exited := by
  unfold step at hstep
  cases hstage : d.stage? w with
  | none => simp [hstage] at hstep
  | some stage =>
    simp only [hstage, Option.ite_none_right_eq_some, Option.some.injEq, Prod.mk.injEq] at hstep
    rw [← hstep.2.1, stage?_exit, if_pos rfl, hstage]
    rfl

private theorem exited_of_stopped (hrun : Run policy history d) {e : Dialer}
    (hstop : (e, .stop w) ∈ history) : d.stage? w = some .exited := by
  induction hrun with
  | new => cases hstop
  | @step history d d' events label hrun hstep ih =>
    rcases List.mem_cons.mp hstop with heq | hmem
    · cases heq
      exact exited_of_stop hstep
    · exact exited_of_steps (steps_of_step hstep) (ih hmem)

/-- However calls, watchers and failures take turns: the order to end that a closing call gives
stands exactly as long as no connecting call begins to dial. As long as it stands, the watcher that
a closing call waits for can end at once, except while it is about to give up the connection that
has failed. A watcher that has ended for this reason takes no step any more. -/
theorem shutdown_stands_iff (hrun : Run policy (later ++ (d₀, .call .close) :: earlier) d) :
    ((∀ p ∈ later, p.1.shutdown = true) ∧ d.shutdown = true ↔
      ∀ p ∈ later, p.1.resumes p.2 = false) ∧
    (∀ t w, d.active? t = some (.joining w) → d.hasEnded w = false →
      ((d.step policy (.stop w)).isSome = true ↔
        d.shutdown = true ∧ d.stage? w ≠ some .losing)) ∧
    ∀ e w label, (e, .stop w) ∈ later → label.task? = some w → d.step policy label = none := by
  obtain ⟨d₁, h₁⟩ := hrun.earlier
  have hgiven : d₁.shutdown = true := by
    cases h₁ with
    | step _ _ hstep =>
      have hshutdown := shutdown_of_steps (steps_of_step hstep)
      simpa using hshutdown
  refine ⟨shutdown_kept_iff h₁ hgiven hrun, ?_, ?_⟩
  · intro t w hs hrunning
    exact stop_iff hrun hs hrunning
  · intro e w label hstop hlabel
    exact step_of_exited (exited_of_stopped hrun (List.mem_append_left _ hstop)) hlabel

/-- A closing call that is alone takes the place of the watcher, which can end at once. -/
theorem stops_for_close :
    ∃ earlier d₀ d₁ events later d, replay patient [] .new connecting = some (earlier, d₀) ∧
      d₀.step patient (.call .close) = some (d₁, events) ∧
      replay patient [] d₁ [.proceed 2] = some (later, d) ∧ d.shutdown = true ∧
      (d.step patient (.stop 1)).isSome = true := by
  obtain ⟨earlier, d₀, d₁, events, later, d, hearlier, hclose, hlater, hresumes, hjoining, hrunning,
      hstage⟩ :
      ∃ earlier d₀ d₁ events later d, replay patient [] .new connecting = some (earlier, d₀) ∧
        d₀.step patient (.call .close) = some (d₁, events) ∧
        replay patient [] d₁ [.proceed 2] = some (later, d) ∧
        (∀ p ∈ later, p.1.resumes p.2 = false) ∧ d.active? 2 = some (.joining 1) ∧
        d.hasEnded 1 = false ∧ d.stage? 1 ≠ some .losing :=
    ⟨_, _, _, _, _, _, rfl, rfl, rfl, by decide, rfl, rfl, by decide⟩
  have h₀ : Run patient earlier d₀ := run_of_replay .new hearlier
  have h₁ : Run patient ([] ++ (d₀, .call .close) :: earlier) d₁ := .step _ h₀ hclose
  obtain ⟨hstands, hstops, _⟩ := shutdown_stands_iff (h₁.replay hlater)
  have hshutdown := (hstands.mpr hresumes).2
  exact ⟨earlier, d₀, d₁, events, later, d, hearlier, hclose, hlater, hshutdown,
    (hstops 2 1 hjoining hrunning).mpr ⟨hshutdown, hstage⟩⟩

/-- A call reconnects a dialer and closes what is held slowly; meanwhile the connection fails, and
another call closes the dialer. -/
def closedWhileReconnecting : List Label :=
  connecting ++ [.call .reconnect, .proceed 2, .report 0 (.connectionLost "reset"), .proceed 1,
    .call .close, .proceed 3, .answer 2 (.ok ())]

/-- An order to end may well be lost: the reconnecting call takes it back when the old connection is
closed, and the closing call goes on waiting for a watcher that is not to end any more. -/
theorem not_shutdown_until_joined :
    ¬∀ (policy : Policy) (history : List (Dialer × Label)) (d : Dialer), Run policy history d →
      ∀ t w, d.active? t = some (.joining w) → d.hasEnded w = false → d.shutdown = true := by
  intro h
  obtain ⟨history, d, hreplay, hjoining, hrunning, hlost⟩ :
      ∃ history d, replay patient [] .new closedWhileReconnecting = some (history, d) ∧
        d.active? 3 = some (.joining 1) ∧ d.hasEnded 1 = false ∧ d.shutdown = false :=
    ⟨_, _, rfl, rfl, rfl, rfl⟩
  have hshutdown := h patient history d (run_of_replay .new hreplay) 3 1 hjoining hrunning
  rw [hlost] at hshutdown
  cases hshutdown

end Courier.Dialer
