import Courier.Proofs.Dialer.View

/-!
# Moves of a dialer

A `Move` says what a step can do to the view of a dialer, and which connection it lets go of or leaves
without a watcher. `move_of_step` reads it off the step; everything about runs is derived from it.
-/

namespace Courier.Dialer

/-! ## §1 Moves -/

namespace Stage

/-- Whether a stage is one of a watcher that has not ended. -/
def isWatcher : Stage → Bool
  | .watching _ | .losing | .pausing _ _ => true
  | .dialing (.redialing _) | .installing (.redialing _) _ | .replacing (.redialing _) _ _ => true
  | _ => false

/-- Whether a stage is one of a call that has no connection in its hands. -/
def isIdle (stage : Stage) : Bool :=
  stage.carries?.isNone && stage.tends?.isNone && !stage.isWatcher && decide (stage ≠ .exited)

/-- Whether a task may go on from one stage to another without a change of what is held: what it
tends stays the same, and a call does not become a watcher. -/
structure GoesOn (a b : Stage) : Prop where
  carries : a.carries? = none ∧ b.carries? = none
  tends : a.tends? = b.tends?
  watches : b.isWatcher = true → a.isWatcher = true
  ends : a.isWatcher = true → b.isWatcher = true ∨ b = .exited
  stays : a ≠ .losing ∧ a ≠ .exited

theorem goesOn_of_idle {a b : Stage} (ha : a.isIdle = true) (hb : b.isIdle = true) :
    a.GoesOn b := by
  simp only [isIdle, Bool.and_eq_true, Option.isNone_iff_eq_none, Bool.not_eq_true',
    decide_eq_true_eq] at ha hb
  obtain ⟨⟨⟨hca, hta⟩, hwa⟩, hea⟩ := ha
  obtain ⟨⟨⟨hcb, htb⟩, hwb⟩, _⟩ := hb
  refine ⟨⟨hca, hcb⟩, hta.trans htb.symm, ?_, ?_, ?_, hea⟩
  · intro h
    rw [hwb] at h
    cases h
  · intro h
    rw [hwa] at h
    cases h
  · rintro rfl
    cases hwa

end Stage

/-- What a step can do to a view, with the connection that it lets go of and the one that it leaves
without a watcher. -/
inductive Move : View → (lost orphaned : Option Nat) → View → Prop where
  | remark (v : View) (ended : Nat → Bool) : (∀ c, v.ended c = true → ended c = true) →
      Move v none none { v with ended := ended }
  | enter (v : View) (t : Nat) (stage : Stage) : v.active t = none → stage.isIdle = true →
      Move v none none (v.set t stage)
  | pass (v : View) (t : Nat) (stage stage' : Stage) : v.active t = some stage →
      stage.GoesOn stage' → (∀ w, stage ≠ .joining w) → Move v none none (v.set t stage')
  | joined (v : View) (t w : Nat) : v.active t = some (.joining w) →
      (∀ stage, v.active w = some stage → stage.isWatcher = false) →
      Move v none none (v.set t .emptying)
  | fail (v : View) (t c : Nat) : v.active t = some (.watching c) →
      Move v none none (v.set t .losing)
  | finish (v : View) (t c : Nat) : v.active t = some (.watching c) → v.ended c = true →
      Move v none none (v.set t .exited)
  | stop (v : View) (t : Nat) (stage : Stage) : v.active t = some stage → stage.isWatcher = true →
      stage ≠ .losing →
      Move v stage.carries? (stage.tends?.filter fun c => decide (v.held = some c))
        (v.set t .exited)
  | dialed (v : View) (t : Nat) (p : Purpose) : v.active t = some (.dialing p) →
      Move v none none { v.set t (.installing p v.count) with count := v.count + 1 }
  | hold (v : View) (t : Nat) (p : Purpose) (c : Nat) (stage' : Stage) :
      v.active t = some (.installing p c) → stage'.carries? = none → stage'.tends? = some c →
      stage'.isWatcher = (Stage.installing p c).isWatcher →
      Move v none none ((v.set t stage').replace (some c))
  | clear (v : View) (t : Nat) (stage stage' : Stage) : v.active t = some stage →
      stage.isIdle = true → stage'.isIdle = true → (∀ w, stage ≠ .joining w) →
      Move v none none ((v.set t stage').replace none)
  | lose (v : View) (t : Nat) : v.active t = some .losing →
      Move v v.held none { v.set t (.dialing (.redialing 0)) with held := none }
  | appoint (v : View) (t n c : Nat) (outcome : Outcome) (orphaned : Option Nat) :
      v.active t = some (.adopting c) → v.active n = none →
      (∀ c', orphaned = some c' ↔ v.held = some c' ∧ c' ≠ c ∧
        ∀ u stage, v.active u = some stage → stage.sponsors? ≠ some c') →
      Move v ((v.watcher.bind v.active).bind Stage.carries?) orphaned (v.appoint n t c outcome)
  | take (v : View) (t w : Nat) : v.active t = some .stopping → v.watcher = some w →
      Move v none none { v.set t (.joining w) with watcher := none }

/-! ## §2 Moves of the parts of steps -/

variable {d d' : Dialer} {t : Nat} {stage stage' : Stage} {events : List Event}

private theorem active?_of_stage? (hs : d.stage? t = some stage) (ha : d.isAborted t = false) :
    d.active? t = some stage := by
  unfold stage? at hs
  unfold isAborted at ha
  unfold active?
  cases htask : d.tasks[t]? with
  | none =>
    rw [htask] at hs
    cases hs
  | some task =>
    rw [htask] at hs ha
    simp only [Option.map_some, Option.getD_some] at ha
    simp only [ha, Bool.false_eq_true, if_false]
    exact hs

private theorem isWatcher_of_hasEnded {w : Nat} (h : d.hasEnded w = true)
    (hs : d.active? w = some stage) : stage.isWatcher = false := by
  rw [active?_eq_some] at hs
  unfold hasEnded stage? at h
  rw [hs] at h
  cases stage with
  | dialing | installing | replacing | watching | losing | pausing => cases h
  | _ => rfl

/-- The stage at which a call begins to wait. -/
def Operation.firstStage : Operation → Stage
  | .connect => .dialing .connecting
  | .reconnect => .discarding
  | .session => .seeking
  | .check => .checking
  | .close => .stopping

private theorem view_begin (d : Dialer) (operation : Operation) :
    (d.begin operation).1.view = d.view.set d.tasks.length operation.firstStage := by
  -- a call is appended with a stage that is replaced at once
  let e : Dialer := { d with tasks := d.tasks ++ [Task.at .checking] }
  have hactive : e.active? d.tasks.length = some .checking := by
    have happend := active?_append d .checking d.tasks.length
    rw [if_pos rfl] at happend
    exact happend
  have hset : ∀ stage', (e.setStage d.tasks.length stage').view
      = d.view.set d.tasks.length stage' := by
    intro stage'
    rw [view_setStage hactive, view_append]
    unfold View.set
    congr 1
    funext u
    by_cases hu : u = d.tasks.length
    · simp only [hu, if_true]
    · simp only [hu, if_false]
  cases operation <;> exact hset _

private theorem move_of_begin (d : Dialer) (operation : Operation) :
    Move d.view none none (d.begin operation).1.view := by
  rw [view_begin]
  exact .enter _ _ _ (active?_length d) (by cases operation <;> rfl)

private theorem view_of_change (d : Dialer) (c : Nat) {f : Connection → Connection}
    (hc : ∀ x, (f x).closings = x.closings) (he : ∀ x, (f x).ended = x.ended) :
    (d.changeConnection c f).view = d.view := by
  unfold view
  congr 1
  · exact List.length_modify _ _ _
  · exact closings_of_change d c hc
  · exact ended_of_change d c he

private theorem move_of_notice {c : Nat} (hs : d.active? t = some (.watching c))
    (h : d.notice t c = some (d', events)) : Move d.view none none d'.view := by
  unfold notice at h
  cases hx : d.connections[c]? with
  | none =>
    rw [hx] at h
    cases h
  | some x =>
    rw [hx] at h
    dsimp only at h
    cases hp : x.pending with
    | some e =>
      -- a failure comes before the end of the signal
      rw [hp] at h
      cases h
      have hchange := view_of_change d c (f := fun x => { x with pending := none })
        (fun _ => rfl) (fun _ => rfl)
      have hlosing : ((d.changeConnection c fun x => { x with pending := none }).requestHeld t
          .losing).view = d.view.set t .losing := by
        rw [← hchange]
        exact view_setStage hs
      rw [hlosing]
      exact .fail _ _ _ hs
    | none =>
      rw [hp] at h
      cases he : x.ended with
      | false =>
        rw [he] at h
        cases h
      | true =>
        rw [he] at h
        cases h
        have hexit : (d.exit t).view = d.view.set t .exited := view_setStage hs
        rw [hexit]
        apply Move.finish _ _ _ hs
        show d.ended c = true
        unfold ended
        rw [hx]
        exact he

private theorem Move.pass_of {d e : Dialer} (hs : d.active? t = some stage)
    (he : e.view = d.view.set t stage') (hgo : stage.GoesOn stage')
    (hj : ∀ w, stage ≠ .joining w) : Move d.view none none e.view := by
  rw [he]
  exact .pass _ _ _ _ hs hgo hj

private theorem move_of_install {p : Purpose} {c : Nat} (hs : d.active? t = some (.installing p c)) :
    Move d.view none none (d.install t p c).1.view := by
  let e : Dialer := { d with generation := d.generation + 1, heldLock := d.heldLock.release }
  cases hheld : d.held with
  | some old =>
    -- the connection that was held is closed before the task goes on
    have hview : (d.install t p c).1.view
        = (d.view.set t (.replacing p c old)).replace (some c) := by
      unfold install
      rw [hheld]
      exact view_ask_close (d := e) hs hheld (some c)
    rw [hview]
    exact .hold _ _ _ _ _ hs rfl rfl (by cases p <;> rfl)
  | none =>
    have hview : (d.install t p c).1.view = (d.view.set t (settledStage p c)).replace (some c) := by
      unfold install
      rw [hheld]
      have hreplace : ({ e with held := some c } : Dialer).view = d.view.replace (some c) :=
        view_replace_none hheld (some c)
      have hsettle := view_settle (d := { e with held := some c }) hs p c
      rw [hreplace] at hsettle
      exact hsettle
    rw [hview]
    exact .hold _ _ _ _ _ hs (by cases p <;> rfl) (by cases p <;> rfl) (by cases p <;> rfl)

private theorem move_of_clear {e : Dialer} {old : Nat} (hs : e.active? t = some stage)
    (hidle : stage.isIdle = true) (hidle' : stage'.isIdle = true)
    (hj : ∀ w, stage ≠ .joining w) (hheld : e.held = some old) :
    Move e.view none none (({ e with held := none } : Dialer).ask t (.close old) stage').1.view := by
  rw [view_ask_close hs hheld none]
  exact .clear _ _ _ _ hs hidle hidle' hj

private theorem move_of_clear_none {e : Dialer} (hs : e.active? t = some stage)
    (hidle : stage.isIdle = true) (hidle' : stage'.isIdle = true)
    (hj : ∀ w, stage ≠ .joining w) (hheld : e.held = none) :
    Move e.view none none (({ e with held := none } : Dialer).setStage t stage').view := by
  have hset : (({ e with held := none } : Dialer).setStage t stage').view
      = ({ e with held := none } : Dialer).view.set t stage' := view_setStage hs
  rw [hset, view_replace_none hheld none]
  exact .clear _ _ _ _ hs hidle hidle' hj

private theorem move_of_proceedHeld (hs : d.active? t = some stage) (hl : stage ≠ .losing)
    (h : d.proceedHeld t stage = some (d', events)) : Move d.view none none d'.view := by
  unfold proceedHeld at h
  cases stage with
  | installing p c =>
    have heq : (d.install t p c).1 = d' := congrArg Prod.fst (Option.some.inj h)
    rw [← heq]
    exact move_of_install hs
  | discarding =>
    cases hheld : d.held with
    | some old =>
      rw [hheld] at h
      cases h
      exact move_of_clear hs rfl rfl nofun hheld
    | none =>
      rw [hheld] at h
      cases h
      exact Move.pass_of hs (view_setStage hs) (Stage.goesOn_of_idle rfl rfl) nofun
  | seeking =>
    cases hheld : d.held with
    | some old =>
      rw [hheld] at h
      cases h
      exact Move.pass_of hs (view_setStage hs) (Stage.goesOn_of_idle rfl rfl) nofun
    | none =>
      rw [hheld] at h
      cases h
      exact Move.pass_of hs (view_setStage hs) (Stage.goesOn_of_idle rfl rfl) nofun
  | checking =>
    cases h
    exact Move.pass_of hs (view_setStage hs) (Stage.goesOn_of_idle rfl rfl) nofun
  | emptying =>
    dsimp only at h
    cases hheld : d.held with
    | some old =>
      rw [hheld] at h
      cases h
      exact move_of_clear (e := d.releaseHeld) hs rfl rfl nofun hheld
    | none =>
      rw [hheld] at h
      cases h
      exact move_of_clear_none (e := d.releaseHeld) hs rfl rfl nofun hheld
  | losing => exact absurd rfl hl
  | _ => cases h

private theorem move_of_losing (hs : d.active? t = some .losing)
    (h : d.proceedHeld t .losing = some (d', events)) : Move d.view d.held none d'.view := by
  cases h
  have hset : ((({ d with held := none } : Dialer).releaseHeld.setStage t
      (.dialing (.redialing 0))).view)
      = { d.view.set t (.dialing (.redialing 0)) with held := none } := view_setStage hs
  show Move d.view d.held none (({ d with held := none } : Dialer).releaseHeld.setStage t
      (.dialing (.redialing 0))).view
  rw [hset]
  exact .lose _ _ hs

private theorem move_of_adopt {c : Nat} (hs : d.active? t = some (.adopting c)) :
    Move d.view (d.loses? (.proceed t)) (d.orphans? (.proceed t)) (d.adopt t c).1.view := by
  rw [view_adopt hs]
  have hlost : d.loses? (.proceed t) = (d.watcher.bind d.active?).bind Stage.carries? := by
    simp only [loses?, hs]
  rw [hlost]
  apply Move.appoint _ _ _ _ _ _ hs (active?_length d)
  intro c'
  simp only [orphans?, hs, Option.filter_eq_some_iff, Bool.and_eq_true, decide_eq_true_eq,
    List.all_eq_true, List.mem_range]
  -- the tasks that are looked through are all that there are
  refine and_congr_right fun _ => and_congr_right fun _ => ⟨?_, ?_⟩
  · intro h u stage hu hc
    have hu' : d.active? u = some stage := hu
    apply h u (lt_of_active? hu')
    rw [hu']
    exact hc
  · intro h u _ hc
    obtain ⟨stage, hu, hs⟩ := Option.bind_eq_some_iff.mp hc
    exact h u stage hu hs

private theorem move_of_stopping (hs : d.active? t = some .stopping)
    (h : d.proceedWatcher t .stopping = some (d', events)) : Move d.view none none d'.view := by
  unfold proceedWatcher at h
  dsimp only at h
  cases hw : d.watcher with
  | some w =>
    rw [hw] at h
    cases h
    have hset : (({ d with watcher := none } : Dialer).setStage t (.joining w)).view
        = { d.view.set t (.joining w) with watcher := none } := view_setStage hs
    rw [hset]
    exact .take _ _ _ hs hw
  | none =>
    rw [hw] at h
    cases h
    exact Move.pass_of hs (view_setStage hs) (Stage.goesOn_of_idle rfl rfl) nofun

/-! ## §3 Moves of steps -/

private theorem loses?_proceed (hs : d.active? t = some stage) (hl : stage ≠ .losing)
    (ha : ∀ c, stage ≠ .adopting c) : d.loses? (.proceed t) = none := by
  simp only [loses?, hs]
  cases stage with
  | losing => exact absurd rfl hl
  | adopting c => exact absurd rfl (ha c)
  | _ => rfl

private theorem orphans?_proceed (hs : d.active? t = some stage)
    (ha : ∀ c, stage ≠ .adopting c) : d.orphans? (.proceed t) = none := by
  simp only [orphans?, hs]
  cases stage with
  | adopting c => exact absurd rfl (ha c)
  | _ => rfl

private theorem move_of_proceed (hs : d.active? t = some stage)
    (h : d.proceed t = some (d', events)) :
    Move d.view (d.loses? (.proceed t)) (d.orphans? (.proceed t)) d'.view := by
  -- only a watcher that loses its connection and a call that appoints a watcher do harm
  have harmless (hl : stage ≠ .losing) (ha : ∀ c, stage ≠ .adopting c)
      (hm : Move d.view none none d'.view) :
      Move d.view (d.loses? (.proceed t)) (d.orphans? (.proceed t)) d'.view := by
    rw [loses?_proceed hs hl ha, orphans?_proceed hs ha]
    exact hm
  unfold proceed at h
  rw [stage?_of_active? hs] at h
  split at h
  · -- there is no such task
    rename_i heq
    cases heq
  · -- a watcher looks at the signal of its connection
    rename_i c heq
    cases heq
    exact harmless nofun nofun (move_of_notice hs h)
  · -- a closing call waits for a watcher
    rename_i w heq
    cases heq
    split at h
    · rename_i hended
      cases h
      have hset : ((d.releaseWatcher.requestHeld t .emptying)).view = d.view.set t .emptying :=
        view_setStage hs
      apply harmless nofun nofun
      rw [hset]
      exact .joined _ _ w hs fun stage hw => isWatcher_of_hasEnded hended hw
    · cases h
  · -- a watcher has waited long enough
    rename_i attempt wait heq
    cases heq
    cases h
    exact harmless nofun nofun (Move.pass_of hs (view_setStage hs)
      ⟨⟨rfl, rfl⟩, rfl, fun _ => rfl, fun _ => .inl rfl, ⟨nofun, nofun⟩⟩ nofun)
  · -- any other task waits for one of the two locks
    rename_i heq
    cases heq
    split at h
    · by_cases hl : stage = .losing
      · subst hl
        have hlost : d.loses? (.proceed t) = d.held := by
          simp only [loses?, hs]
        rw [hlost, orphans?_proceed hs nofun]
        exact move_of_losing hs h
      · by_cases ha : ∃ c, stage = .adopting c
        · obtain ⟨c, rfl⟩ := ha
          cases h
        · exact harmless hl (fun c hc => ha ⟨c, hc⟩) (move_of_proceedHeld hs hl h)
    · split at h
      · cases stage with
        | adopting c =>
          have heq : (d.adopt t c).1 = d' := congrArg Prod.fst (Option.some.inj h)
          rw [← heq]
          exact move_of_adopt hs
        | stopping => exact harmless nofun nofun (move_of_stopping hs h)
        | _ => cases h
      · cases h

private theorem move_of_refuse {policy : Policy} {p : Purpose} {e : BrokerError}
    (hs : d.active? t = some (.dialing p)) : Move d.view none none (refuse policy d t p e).1.view := by
  cases p with
  | connecting =>
    exact Move.pass_of hs (view_setStage hs) (Stage.goesOn_of_idle rfl rfl) nofun
  | redialing attempt =>
    unfold refuse
    dsimp only
    split
    · exact Move.pass_of hs (view_setStage hs)
        ⟨⟨rfl, rfl⟩, rfl, nofun, fun _ => .inr rfl, ⟨nofun, nofun⟩⟩ nofun
    · exact Move.pass_of hs (view_setStage hs)
        ⟨⟨rfl, rfl⟩, rfl, fun _ => rfl, fun _ => .inl rfl, ⟨nofun, nofun⟩⟩ nofun

private theorem move_of_settle {p : Purpose} {c old : Nat}
    (hs : d.active? t = some (.replacing p c old)) :
    Move d.view none none (d.settle t p c).1.view := by
  refine Move.pass_of hs (view_settle hs p c) ?_ nofun
  cases p with
  | connecting => exact ⟨⟨rfl, rfl⟩, rfl, nofun, nofun, ⟨nofun, nofun⟩⟩
  | redialing attempt => exact ⟨⟨rfl, rfl⟩, rfl, fun _ => rfl, fun _ => .inl rfl, ⟨nofun, nofun⟩⟩

private theorem move_of_answered {policy : Policy} {result : Except BrokerError Unit}
    (hs : d.active? t = some stage) (h : d.answered policy t result = some (d', events)) :
    Move d.view none none d'.view := by
  unfold answered at h
  rw [stage?_of_active? hs] at h
  split at h
  · -- a connection is returned
    rename_i p heq
    cases heq
    cases h
    let e : Dialer := { d with connections := d.connections ++ [Connection.fresh] }
    have hset : (e.requestHeld t (.installing p d.connections.length)).view
        = e.view.set t (.installing p d.connections.length) := view_setStage hs
    have hdialed : e.view = { d.view with count := d.view.count + 1 } := view_dialed d
    rw [hdialed] at hset
    refine hset ▸ ?_
    exact .dialed _ _ _ hs
  · -- dialing fails
    rename_i p e heq
    cases heq
    have heq : (refuse policy d t p e).1 = d' := congrArg Prod.fst (Option.some.inj h)
    rw [← heq]
    exact move_of_refuse hs
  · -- the connection that was replaced is closed
    rename_i p c old heq
    cases heq
    have heq : (d.settle t p c).1 = d' := congrArg Prod.fst (Option.some.inj h)
    rw [← heq]
    exact move_of_settle hs
  · -- the old connection is closed, and the call goes on to connect
    rename_i old heq
    cases heq
    cases h
    exact Move.pass_of hs (view_setStage hs) (Stage.goesOn_of_idle rfl rfl) nofun
  · -- a session is open, or it is not
    rename_i c heq
    cases heq
    cases h
    exact Move.pass_of hs (view_setStage hs) (Stage.goesOn_of_idle rfl rfl) nofun
  · -- a closing call ends
    rename_i c heq
    cases heq
    cases h
    exact Move.pass_of hs (view_setStage hs) (Stage.goesOn_of_idle rfl rfl) nofun
  · cases h

private theorem move_of_stop (hs : d.active? t = some stage) (hw : stage.isStoppable = true) :
    Move d.view (d.loses? (.stop t)) (d.orphans? (.stop t)) (d.exit t).view := by
  have hexit : (d.exit t).view = d.view.set t .exited := view_setStage hs
  have hlost : d.loses? (.stop t) = stage.carries? := by
    simp only [loses?, hs, Option.bind_some]
  have horphaned : d.orphans? (.stop t)
      = stage.tends?.filter fun c => decide (d.view.held = some c) := by
    simp only [orphans?, hs, Option.bind_some]
    rfl
  rw [hexit, hlost, horphaned]
  apply Move.stop _ _ _ hs
  · cases stage with
    | dialing p | installing p _ | replacing p _ _ =>
      cases p with
      | connecting => cases hw
      | redialing _ => rfl
    | watching _ | pausing _ _ => rfl
    | _ => cases hw
  · rintro rfl
    cases hw

private theorem view_drop (ha : d.isAborted t = true) : (d.exit t).view = d.view := by
  -- the task is out of sight before, and it stays so
  have hactive : d.active? t = none := by
    unfold isAborted at ha
    unfold active?
    cases htask : d.tasks[t]? with
    | none => rfl
    | some task =>
      rw [htask] at ha
      exact if_pos ha
  unfold view
  congr 1
  funext u
  refine (active?_setStage _ t u .exited).trans ?_
  by_cases hu : u = t
  · subst hu
    rw [if_pos rfl]
    have hexit : ({ d with heldLock := d.heldLock.leave u } : Dialer).active? u = none := hactive
    rw [hexit, hactive]
    rfl
  · rw [if_neg hu]
    rfl

private theorem Move.unseen {d e : Dialer} (h : e.view = d.view) : Move d.view none none e.view := by
  -- a remark on no signal at all
  rw [h]
  exact .remark d.view d.view.ended fun _ hc => hc

private theorem move_of_hangUp (d : Dialer) (c : Nat) :
    Move d.view none none (d.changeConnection c fun x => { x with ended := true }).view := by
  have hview : (d.changeConnection c fun x => { x with ended := true }).view
      = { d.view with ended := (d.changeConnection c fun x => { x with ended := true }).ended } := by
    unfold view
    congr 1
    · exact List.length_modify _ _ _
    · exact closings_of_change d c fun _ => rfl
  rw [hview]
  apply Move.remark
  intro c' hc'
  have hended : (d.connections[c']?.map Connection.ended).getD false = true := hc'
  unfold ended changeConnection
  rw [List.getElem?_modify]
  cases hx : d.connections[c']? with
  | none =>
    rw [hx] at hended
    cases hended
  | some x =>
    rw [hx] at hended
    by_cases hcc : c = c'
    · simp [hcc]
    · simpa [hcc] using hended

/-- Every step of a dialer makes a move of its view. -/
theorem move_of_step {policy : Policy} {label : Label}
    (h : d.step policy label = some (d', events)) :
    Move d.view (d.loses? label) (d.orphans? label) d'.view := by
  unfold step at h
  cases label with
  | call operation =>
    have heq : (d.begin operation).1 = d' := congrArg Prod.fst (Option.some.inj h)
    rw [← heq]
    exact move_of_begin d operation
  | proceed t =>
    dsimp only at h
    split at h
    · cases h
    · rename_i ha
      cases hs : d.stage? t with
      | none =>
        unfold proceed at h
        rw [hs] at h
        cases h
      | some stage =>
        exact move_of_proceed (active?_of_stage? hs (Bool.not_eq_true _ ▸ ha)) h
  | answer t result =>
    dsimp only at h
    split at h
    · cases h
    · rename_i ha
      cases hs : d.stage? t with
      | none =>
        unfold answered at h
        rw [hs] at h
        cases h
      | some stage =>
        exact move_of_answered (active?_of_stage? hs (Bool.not_eq_true _ ▸ ha)) h
  | stop t =>
    dsimp only at h
    split at h
    · rename_i stage hs
      split at h
      · rename_i hstop
        simp only [Bool.and_eq_true, Bool.not_eq_true'] at hstop
        cases h
        exact move_of_stop (active?_of_stage? hs hstop.2) hstop.1.2
      · cases h
    · cases h
  | drop t =>
    dsimp only at h
    split at h
    · rename_i hdrop
      rw [Bool.and_eq_true] at hdrop
      cases h
      exact Move.unseen (view_drop hdrop.1)
    · cases h
  | report c e =>
    dsimp only at h
    split at h
    · split at h
      · cases h
      · cases h
        exact Move.unseen (view_of_change d c (fun _ => rfl) fun _ => rfl)
    · cases h
  | hangUp c =>
    dsimp only at h
    split at h
    · cases h
      exact move_of_hangUp d c
    · cases h

end Courier.Dialer
