import Courier.Proofs.Dialer.Shutdown
import Courier.Proofs.Dialer.Vigil

/-!
# Calls that try to connect

A call to connect or to reconnect that overlaps with no other call that manages the dialer is alone
with the watcher until it is answered its dial: nobody else brings a connection, a watcher or the
order to end, wherever the watcher was when the call began.
-/

namespace Courier.Dialer

variable {policy : Policy} {history before later : List (Dialer × Label)} {d d₁ d' : Dialer}
  {label : Label} {events : List Event} {t u w c : Nat} {a b : Stage} {operation : Operation}

/-! ## §1 The order to end and the watchers

A closing call gives the order to end, and a call that begins to dial takes it back. Since the calls
take turns, the order never meets a watcher except while a closing call sees to its end. -/

/-- Whether a stage is one of a call that dials, or that has a new connection in its hands. -/
def Stage.isBringing : Stage → Bool
  | .dialing .connecting | .installing .connecting _ | .replacing .connecting _ _ => true
  | .adopting _ => true
  | _ => false

/-- Whether a stage is one of a closing call that has not seen the end of the watcher yet. -/
def Stage.isDismissing : Stage → Bool
  | .stopping | .joining _ => true
  | _ => false

/-- How a dialer is while the order to end stands. -/
structure Ordered (d : Dialer) : Prop where
  still : ∀ t a, d.active? t = some a → a.isBringing = false
  dismissed : (∃ t a, d.active? t = some a ∧ a.isDismissing = true) ∨
    ∀ t a, d.active? t = some a → a.isWatcher = false

private theorem isManaging_of_isBringing (h : a.isBringing = true) : a.isManaging = true := by
  cases a with
  | dialing p | installing p _ | replacing p _ _ =>
    cases p with
    | connecting => rfl
    | redialing _ => cases h
  | adopting | discarding | clearingOut | stopping | joining | emptying | closing => rfl
  | _ => cases h

private theorem Goes.bringing (h : Goes policy d a b) (hb : b.isBringing = true) :
    b = .dialing .connecting ∨ a.isBringing = true := by
  cases h with
  | bare | discarded => exact .inl rfl
  | dialed p | replaces p | holds p | replaced p =>
    cases p with
    | connecting => exact .inr rfl
    | redialing _ => cases hb
  | _ => cases hb

private theorem Goes.dismissing (h : Goes policy d a b) (ha : a.isDismissing = true) :
    b.isDismissing = true ∨ b = .emptying := by
  cases h with
  | joins => exact .inl rfl
  | alone | joined => exact .inr rfl
  | _ => cases ha

/-- Only a watcher becomes a watcher. -/
theorem Goes.isWatcher (h : Goes policy d a b) (hb : b.isWatcher = true) :
    a.isWatcher = true := by
  cases h with
  | dialed p | replaces p | holds p | replaced p =>
    cases p with
    | connecting => cases hb
    | redialing _ => rfl
  | failed | lost | paused | again => rfl
  | _ => cases hb

/-- A watcher was one before, or a call brings it. -/
private theorem watcher_or_adopting (hsteps : Steps policy d label d' events)
    (hs : d'.active? t = some b) (hb : b.isWatcher = true) :
    (∃ a, d.active? t = some a ∧ a.isWatcher = true) ∨ ∃ u c, d.active? u = some (.adopting c) := by
  cases hsteps with
  | call operation =>
    rw [(puts_begin d operation).active?] at hs
    split at hs
    · cases hs
      cases operation <;> cases hb
    · exact .inl ⟨b, hs, hb⟩
  | deed _ u a b' _ _ hdeed =>
    rw [hdeed.puts.active?] at hs
    split at hs
    · rename_i ht
      cases hs
      exact .inl ⟨a, ht ▸ hdeed.active, hdeed.goes.isWatcher hb⟩
    · exact .inl ⟨b, hs, hb⟩
  | adopt u c hs' => exact .inr ⟨u, c, hs'⟩
  | exit _ u =>
    rw [active?_exit] at hs
    split at hs
    · obtain ⟨_, _, rfl⟩ := Option.map_eq_some_iff.mp hs
      cases hb
    · exact .inl ⟨b, hs, hb⟩
  | report | hangUp => exact .inl ⟨b, hs, hb⟩

/-- A closing call stays in the way of the watcher until it has seen its end. -/
private theorem dismissing_of_steps {Lost Orphaned : Nat → Prop} (hl : Ledger Lost Orphaned d.view)
    (hsteps : Steps policy d label d' events) (hs : d.active? t = some a)
    (ha : a.isDismissing = true) :
    ∃ b, d'.active? t = some b ∧ (b.isDismissing = true ∨ b = .emptying) := by
  have hcovers : Operation.close.covers a = true := by
    cases a with
    | stopping | joining | emptying | closing => rfl
    | _ => cases ha
  obtain ⟨b, hb, hcovers'⟩ := covers_of_step hl hsteps hs hcovers
  refine ⟨b, hb, ?_⟩
  cases came_of_steps hsteps hb with
  | stayed hs' =>
    rw [hs] at hs'
    cases hs'
    exact .inl ha
  | went a' hdeed =>
    have hsame : a' = a := Option.some.inj (hdeed.active.symm.trans hs)
    exact hdeed.goes.dismissing (hsame ▸ ha)
  | began _ _ ht => exact absurd (ht ▸ lt_of_active? hs) (Nat.lt_irrefl _)
  | appointed _ _ heq | ended _ _ _ heq =>
    rw [heq] at hcovers'
    cases hcovers'
  | handedOver c hs' =>
    rw [hs] at hs'
    cases hs'
    cases ha

section

variable (hstep : d.step policy label = some (d', events))
  (hturn : label = .call .close → ∀ t a, d.active? t = some a → a.isManaging = false)
  (h : d.shutdown = true → Ordered d) (hgiven : d'.shutdown = true)

include hstep hturn h hgiven

private theorem still_before (hs : d.active? t = some a) : a.isBringing = false := by
  have hshutdown : d'.shutdown = _ := shutdown_of_steps (steps_of_step hstep)
  by_cases hclose : label = .call .close
  · cases hbringing : a.isBringing with
    | false => rfl
    | true => cases (hturn hclose t a hs).symm.trans (isManaging_of_isBringing hbringing)
  · -- the order stood before
    have hbefore : d.shutdown = true := by simp_all
    exact (h hbefore).still t a hs

private theorem still_step (hs : d'.active? t = some b) : b.isBringing = false := by
  have hsteps : Steps policy d label d' events := steps_of_step hstep
  cases hbringing : b.isBringing with
  | false => rfl
  | true =>
    cases came_of_steps hsteps hs with
    | stayed hs => exact hbringing ▸ still_before hstep hturn h hgiven hs
    | began operation hlabel _ hfirst =>
      rw [hfirst] at hbringing
      -- a connecting call takes the order back
      have hshutdown := shutdown_of_steps hsteps
      cases operation <;> simp_all [resumes, Operation.firstStage, Stage.isBringing]
    | went a hdeed =>
      rcases hdeed.goes.bringing hbringing with rfl | ha
      · have hshutdown := hdeed.shutdown
        simp_all
      · cases ha.symm.trans (still_before hstep hturn h hgiven hdeed.active)
    | appointed _ _ heq | handedOver _ _ heq | ended _ _ _ heq =>
      rw [heq] at hbringing
      cases hbringing

private theorem dismissed_step {Lost Orphaned : Nat → Prop} (hl : Ledger Lost Orphaned d.view)
    {Lost' Orphaned' : Nat → Prop} (hl' : Ledger Lost' Orphaned' d'.view) (hm' : Managed d') :
    (∃ t a, d'.active? t = some a ∧ a.isDismissing = true) ∨
      ∀ t a, d'.active? t = some a → a.isWatcher = false := by
  have hsteps : Steps policy d label d' events := steps_of_step hstep
  by_cases hclose : label = .call .close
  · subst hclose
    have hbegin : d.begin .close = (d', events) := Option.some.inj hstep
    have hputs := puts_begin d .close
    rw [hbegin] at hputs
    exact .inl ⟨d.tasks.length, .stopping, (hputs.active? _).trans (if_pos rfl), rfl⟩
  · have hshutdown : d'.shutdown = _ := shutdown_of_steps hsteps
    have hbefore : d.shutdown = true := by simp_all
    rcases (h hbefore).dismissed with ⟨t, a, hs, ha⟩ | hnone
    · obtain ⟨b, hb, hdismissing | rfl⟩ := dismissing_of_steps hl hsteps hs ha
      · exact .inl ⟨t, b, hb, hdismissing⟩
      · exact .inr fun u s hu => hm'.unwatched hl' hb rfl nofun hu
    · -- nobody brings a watcher, so there is none
      refine .inr fun u s hu => ?_
      cases hwatcher : s.isWatcher with
      | false => rfl
      | true =>
        rcases watcher_or_adopting hsteps hu hwatcher with ⟨a, ha, hwatcher'⟩ | ⟨v, c, hv⟩
        · cases hwatcher'.symm.trans (hnone u a ha)
        · cases still_before hstep hturn h hgiven hv

end

/-- In every run whose calls come in turn, the order to end meets a watcher only while a closing
call sees to its end. -/
theorem ordered_of_run (hrun : Run policy history d) (hturn : InTurn history)
    (hgiven : d.shutdown = true) : Ordered d := by
  induction hrun with
  | new => cases hgiven
  | @step history d d' events label hrun hstep ih =>
    have h := ih fun e operation hmem => hturn e operation (.tail _ hmem)
    have hlabel : label = .call .close → ∀ t a, d.active? t = some a → a.isManaging = false := by
      rintro rfl
      exact hturn d .close (.head _) rfl
    have hrun' := hrun.step label hstep
    exact {
      still := fun t a hs => still_step hstep hlabel h hgiven hs
      dismissed := dismissed_step hstep hlabel h hgiven (ledger_of_run hrun) (ledger_of_run hrun')
        (managed_of_run hrun' hturn) }

/-! ## §2 Calls that try to connect -/

/-- Whether a stage is one of a call that is to connect and has not been answered its dial. -/
def Stage.isTrying : Stage → Bool
  | .discarding | .clearingOut _ | .dialing .connecting => true
  | _ => false

/-- No task but one manages the dialer, and watchers are not to end. -/
structure Sole (d : Dialer) (t : Nat) : Prop where
  others : ∀ u a, u ≠ t → d.active? u = some a →
    a.isBystander = true ∨ a.isWatcher = true ∧ d.watcher = some u
  running : ∀ w a, d.active? w = some a → a.isWatcher = true → d.shutdown = false

private theorem isManaging_of_isTrying (h : a.isTrying = true) : a.isManaging = true := by
  cases a with
  | dialing p =>
    cases p with
    | connecting => rfl
    | redialing _ => cases h
  | adopting | discarding | clearingOut | stopping | joining | emptying | closing => rfl
  | _ => cases h

theorem not_isWatcher_of_isTrying (h : a.isTrying = true) : a.isWatcher = false := by
  cases a with
  | dialing p =>
    cases p with
    | connecting => rfl
    | redialing _ => cases h
  | installing | replacing | watching | losing | pausing => cases h
  | _ => rfl

private theorem isBystander_or_isWatcher (h : a.isManaging = false) :
    a.isBystander = true ∨ a.isWatcher = true := by
  cases a with
  | dialing p | installing p _ | replacing p _ _ =>
    cases p with
    | connecting => cases h
    | redialing => exact .inr rfl
  | watching | losing | pausing => exact .inr rfl
  | seeking | opening | checking | returned | exited => exact .inl rfl
  | _ => cases h

/-- A call is alone in its turn until it is answered its dial, and before it begins. -/
theorem sole_of_run (hrun : Run policy history d) (hturn : InTurn history)
    (hself : ∀ a, d.active? t = some a → a.isTrying = true)
    (hothers : ∀ u a, u ≠ t → d.active? u = some a → a.isManaging = false) : Sole d t := by
  have hl := ledger_of_run hrun
  -- nobody takes the place of the watcher or sees to its end
  have hnone : ∀ u a, d.active? u = some a → a.isDismissing = false := by
    intro u a hs
    by_cases hu : u = t
    · subst hu
      have ha := hself a hs
      cases a with
      | stopping | joining => cases ha
      | _ => rfl
    · have ha := hothers u a hu hs
      cases a with
      | stopping | joining => cases ha
      | _ => rfl
  refine ⟨fun u a hu hs => ?_, fun w a hs hwatcher => ?_⟩
  · refine (isBystander_or_isWatcher (hothers u a hu hs)).imp_right fun hwatcher => ⟨hwatcher, ?_⟩
    rcases hl.placed u a hs hwatcher with hplace | ⟨v, hv⟩
    · exact hplace
    · cases hnone v _ hv
  · cases hgiven : d.shutdown with
    | false => rfl
    | true =>
      rcases (ordered_of_run hrun hturn hgiven).dismissed with ⟨u, b, hu, hb⟩ | hno
      · cases hb.symm.trans (hnone u b hu)
      · cases hwatcher.symm.trans (hno w a hs)

private theorem Goes.trying (h : Goes policy d a b) (hb : b.isTrying = true) :
    a.isTrying = true := by
  cases h with
  | discards | bare | discarded => rfl
  | holds p | replaced p => cases p <;> cases hb
  | _ => cases hb

/-- A call that has not been answered its dial was not answered it before. -/
private theorem trying_of_step (hrun : Run policy history d) (hcalled : Called history t operation)
    (hstep : d.step policy label = some (d', events)) (hs : d'.active? t = some b)
    (hb : b.isTrying = true) : ∃ a, d.active? t = some a ∧ a.isTrying = true := by
  obtain ⟨a, ha, _⟩ := stage_of_called hrun hcalled
  cases came_of_steps (steps_of_step hstep) hs with
  | stayed hs => exact ⟨b, hs, hb⟩
  | went a hdeed => exact ⟨a, hdeed.active, hdeed.goes.trying hb⟩
  | began _ _ ht => exact absurd (ht ▸ lt_of_active? ha) (Nat.lt_irrefl _)
  | appointed _ _ heq | handedOver _ _ heq | ended _ _ _ heq =>
    rw [heq] at hb
    cases hb

theorem sole_of_trying (hrun : Run policy history d) (hturn : InTurn history)
    (hs : d.active? t = some a) (ha : a.isTrying = true) : Sole d t := by
  refine sole_of_run hrun hturn (fun b hb => Option.some.inj (hs.symm.trans hb) ▸ ha) ?_
  intro u b hu hb
  cases hmanaging : b.isManaging with
  | false => rfl
  | true =>
    have hm := managed_of_run hrun hturn
    exact absurd (hm.single u t b a hb hs hmanaging (isManaging_of_isTrying ha)) hu

/-- What holds of a call when it begins, and is kept by every step until it is answered its dial,
holds as long as it is not answered. -/
theorem resume_of_trying {P : List (Dialer × Label) → Dialer → Stage → Prop}
    (hrun : Run policy (later ++ (d₁, .call operation) :: before) d)
    (hturn : InTurn (later ++ (d₁, .call operation) :: before))
    (hs : d.active? d₁.tasks.length = some a) (ha : a.isTrying = true)
    (here : P [] (d₁.begin operation).1 operation.firstStage)
    (next : ∀ {later d d' events a b} (label : Label),
      Run policy (later ++ (d₁, .call operation) :: before) d → Sole d d₁.tasks.length →
      d.active? d₁.tasks.length = some a → a.isTrying = true → P later d a →
      d.step policy label = some (d', events) → d'.active? d₁.tasks.length = some b →
      b.isTrying = true → P ((d, label) :: later) d' b) : P later d a := by
  obtain ⟨d₂, h₂⟩ := hrun.earlier
  have hbegin : (d₁.begin operation).1 = d₂ := by
    cases h₂ with
    | step _ _ hstep => exact congrArg Prod.fst (Option.some.inj hstep)
  refine Run.resume (P := fun later d => InTurn (later ++ (d₁, .call operation) :: before) →
    ∀ a, d.active? d₁.tasks.length = some a → a.isTrying = true → P later d a) h₂ hrun ?_ ?_ hturn
    a hs ha
  · intro _ a hs _
    rw [← hbegin, (puts_begin d₁ operation).active?, if_pos rfl] at hs
    cases hs
    exact hbegin ▸ here
  · intro later d d' events label hrun ih hstep hturn b hb hb'
    have hturn' : InTurn (later ++ (d₁, .call operation) :: before) :=
      fun e operation hmem => hturn e operation (.tail _ hmem)
    have hcalled : Called (later ++ (d₁, .call operation) :: before) d₁.tasks.length operation :=
      ⟨d₁, List.mem_append_right _ (.head _), rfl⟩
    obtain ⟨a, hs, ha⟩ := trying_of_step hrun hcalled hstep hb hb'
    exact next label hrun (sole_of_trying hrun hturn' hs ha) hs ha (ih hturn' a hs ha) hstep hb hb'

/-! ## §3 Steps meanwhile -/

theorem Sole.not_adopting (h : Sole d t) (hs : d.active? t = some a)
    (ha : a.isTrying = true) (u c : Nat) : d.active? u ≠ some (.adopting c) := by
  intro hu
  by_cases hut : u = t
  · rw [hut, hs] at hu
    cases hu
    cases ha
  · rcases h.others u _ hut hu with hno | ⟨hno, _⟩ <;> cases hno

/-- The call takes its steps by going on. -/
theorem deed_of_trying (hstep : d.step policy label = some (d', events))
    (hs : d.active? t = some a) (ha : a.isTrying = true) (hactor : d.actor? label = some t) :
    ∃ b, Deed policy d label t a b d' events := by
  refine (steps_of_step hstep).deed_of_call hs (not_isWatcher_of_isTrying ha) ?_ hactor
  rintro c rfl
  cases ha

/-- Nobody else has anything to do with the connection than the watcher. -/
theorem Sole.pass (h : Sole d t) (hsteps : Steps policy d label d' events)
    (hs : d.active? t = some a) (ha : a.isTrying = true) (hactor : d.actor? label ≠ some t)
    (hwatcher : ∀ w, d.watcher = some w → d.actor? label ≠ some w) :
    d'.held = d.held ∧ d'.generation = d.generation ∧ d'.watcher = d.watcher := by
  cases hsteps with
  | call operation =>
    exact ⟨begin_held d operation, begin_generation d operation, begin_watcher d operation⟩
  | deed _ u x y _ _ hdeed =>
    have hu : u ≠ t := by
      rintro rfl
      exact hactor hdeed.actor
    rcases h.others u x hu hdeed.active with hbystander | ⟨_, hplace⟩
    · obtain ⟨_, _, hcarries, hheld, hstopping⟩ := hdeed.goes.bystander hbystander
      refine ⟨hdeed.held.trans hheld, ?_, hdeed.watcher.trans (if_neg hstopping)⟩
      rw [hdeed.generation, hcarries]
      rfl
    · exact absurd hdeed.actor (hwatcher u hplace)
  | adopt u c hu => exact absurd hu (h.not_adopting hs ha u c)
  | exit | report | hangUp => exact ⟨rfl, rfl, rfl⟩

end Courier.Dialer
