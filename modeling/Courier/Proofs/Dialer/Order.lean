import Courier.Proofs.Dialer.Deeds
import Courier.Proofs.Dialer.Ledger

/-!
# Order among the tasks of a dialer

Every step of a task is a use of the two locks: in every run, exactly the tasks that wait for a lock
or keep it stand in its queue. Only watchers are aborted, and a watcher never asks for the lock of
the watcher; so every call goes on, through the stages of what it was begun for, until it returns.
-/

namespace Courier.Dialer

variable {policy : Policy} {d d' : Dialer} {label : Label} {events : List Event} {t : Nat}

/-! ## §1 What beginnings, successions and ends leave as it is -/

section

variable (d : Dialer) (operation : Operation) (t c : Nat)

@[simp] theorem begin_generation : (d.begin operation).1.generation = d.generation := by
  cases operation <;> rfl

@[simp] theorem begin_held : (d.begin operation).1.held = d.held := by
  cases operation <;> rfl

@[simp] theorem begin_watcher : (d.begin operation).1.watcher = d.watcher := by
  cases operation <;> rfl

@[simp] theorem begin_connections : (d.begin operation).1.connections = d.connections := by
  cases operation <;> rfl

@[simp] theorem adopt_shutdown : (d.adopt t c).1.shutdown = d.shutdown := rfl

@[simp] theorem adopt_connections : (d.adopt t c).1.connections = d.connections := rfl

@[simp] theorem exit_shutdown : (d.exit t).shutdown = d.shutdown := rfl

@[simp] theorem exit_connections : (d.exit t).connections = d.connections := rfl

end

/-! ## §2 Where the tasks are -/

theorem stage?_length (d : Dialer) : d.stage? d.tasks.length = none := by
  simp [stage?]

theorem puts_begin (d : Dialer) (operation : Operation) :
    Puts d (d.begin operation).1 d.tasks.length operation.firstStage := by
  -- a call is appended with a stage that is replaced at once
  have hset (e : Dialer) (stage : Stage) (htasks : e.tasks = (d.tasks ++ [Task.at .checking]).modify
      d.tasks.length fun task => { task with stage := stage }) :
      Puts d e d.tasks.length stage := by
    refine ⟨by simp [htasks, Task.at], fun u hu => ?_⟩
    simp only [htasks, List.getElem?_modify, Ne.symm hu, if_false, id_map']
    rcases Nat.lt_or_gt_of_ne hu with hlt | hgt
    · rw [List.getElem?_append_left hlt]
    · rw [List.getElem?_eq_none (Nat.le_of_lt hgt), List.getElem?_eq_none]
      simpa using Nat.succ_le_of_lt hgt
  cases operation <;> exact hset _ _ rfl

theorem stage?_exit (d : Dialer) (t u : Nat) :
    (d.exit t).stage? u = if u = t then (d.stage? t).map fun _ => .exited else d.stage? u :=
  stage?_setStage _ t u .exited

theorem active?_exit (d : Dialer) (t u : Nat) :
    (d.exit t).active? u = if u = t then (d.active? t).map fun _ => .exited else d.active? u :=
  active?_setStage _ t u .exited

theorem stage?_adopt {a : Stage} (hs : d.active? t = some a) (c u : Nat) :
    (d.adopt t c).1.stage? u = if u = t then some (.returned (.done (.ok ())))
      else if u = d.tasks.length then some (.watching c) else d.stage? u := by
  -- whether a watcher is aborted makes no difference for where it is
  have hstages (tasks : List Task) (hlength : tasks.length = d.tasks.length)
      (hsame : ∀ u, tasks[u]?.map Task.stage = d.stage? u) (u : Nat) :
      ({ d with tasks := tasks ++ [Task.at (.watching c)] } : Dialer).stage? u
        = if u = d.tasks.length then some (.watching c) else d.stage? u := by
    unfold stage?
    rcases Nat.lt_trichotomy u d.tasks.length with hlt | rfl | hgt
    · rw [if_neg (Nat.ne_of_lt hlt), List.getElem?_append_left (hlength ▸ hlt)]
      exact hsame u
    · simp [← hlength, Task.at]
    · have hnone : (tasks ++ [Task.at (.watching c)])[u]? = none := by
        apply List.getElem?_eq_none
        rw [List.length_append, List.length_singleton, hlength]
        exact hgt
      rw [if_neg (Nat.ne_of_gt hgt), hnone, List.getElem?_eq_none (Nat.le_of_lt hgt)]
  have hreturns (e : Dialer) (he : ∀ u, e.stage? u
      = if u = d.tasks.length then some (.watching c) else d.stage? u) :
      (e.setStage t (.returned (.done (.ok ())))).stage? u
        = if u = t then some (.returned (.done (.ok ())))
          else if u = d.tasks.length then some (.watching c) else d.stage? u := by
    rw [stage?_setStage, he, he, if_neg (Nat.ne_of_lt (lt_of_active? hs)), stage?_of_active? hs]
    rfl
  cases hw : d.watcher with
  | none =>
    simp only [adopt, hw]
    exact hreturns _ (hstages d.tasks rfl fun _ => rfl)
  | some w =>
    simp only [adopt, hw]
    refine hreturns _ (hstages _ (List.length_modify _ _ _) fun u => ?_)
    rw [stage?, List.getElem?_modify]
    by_cases hu : w = u
    · subst hu
      cases d.tasks[w]? <;> simp
    · simp [hu]

theorem active?_adopt {a : Stage} (hs : d.active? t = some a) (c u : Nat) :
    (d.adopt t c).1.active? u = if u = d.tasks.length then some (.watching c)
      else if d.watcher = some u then none
      else if u = t then some (.returned (.done (.ok ()))) else d.active? u :=
  congrFun (congrArg View.active (view_adopt hs)) u

theorem active?_of_isAborted (h : d.isAborted t = true) : d.active? t = none := by
  unfold isAborted at h
  unfold active?
  cases htask : d.tasks[t]? with
  | none => rfl
  | some task =>
    have haborted : task.aborted = true := by simpa [htask] using h
    simp [haborted]

/-- How a task has come to the stage at which a step leaves it. -/
inductive Came (policy : Policy) (d : Dialer) (label : Label) (d' : Dialer) (events : List Event)
    (t : Nat) (b : Stage) : Prop where
  | stayed : d.active? t = some b → Came policy d label d' events t b
  | began (operation : Operation) : label = .call operation → t = d.tasks.length →
      b = operation.firstStage → Came policy d label d' events t b
  | went (a : Stage) : Deed policy d label t a b d' events → Came policy d label d' events t b
  | appointed (c : Nat) : t = d.tasks.length → b = .watching c → Came policy d label d' events t b
  | handedOver (c : Nat) : d.active? t = some (.adopting c) → b = .returned (.done (.ok ())) →
      Came policy d label d' events t b
  | ended (a : Stage) : d.active? t = some a → a.isWatcher = true → b = .exited →
      Came policy d label d' events t b

/-- Only watchers end without a return. -/
theorem Ends.isWatcher {a : Stage} (h : Ends policy d t label) (hs : d.active? t = some a) :
    a.isWatcher = true := by
  cases h with
  | stopped b hb hstoppable =>
    rw [hs] at hb
    cases hb
    cases a with
    | dialing p | installing p _ | replacing p _ _ =>
      cases p with
      | connecting => cases hstoppable
      | redialing _ => rfl
    | watching | losing | pausing => rfl
    | _ => cases hstoppable
  | hungUp c hb =>
    rw [hs] at hb
    cases hb
    rfl
  | gaveUp attempt e hb =>
    rw [hs] at hb
    cases hb
    rfl
  | dropped haborted =>
    rw [active?_of_isAborted haborted] at hs
    cases hs

theorem came_of_steps {b : Stage} (hsteps : Steps policy d label d' events)
    (hs : d'.active? t = some b) : Came policy d label d' events t b := by
  cases hsteps with
  | call operation =>
    rw [(puts_begin d operation).active?] at hs
    split at hs
    · rename_i ht
      exact .began operation rfl ht (Option.some.inj hs).symm
    · exact .stayed hs
  | deed _ u a _ _ _ hdeed =>
    rw [hdeed.puts.active?] at hs
    split at hs
    · rename_i ht
      cases hs
      exact .went a (ht ▸ hdeed)
    · exact .stayed hs
  | adopt u c hs' =>
    rw [active?_adopt hs'] at hs
    split at hs
    · rename_i ht
      exact .appointed c ht (Option.some.inj hs).symm
    · split at hs
      · cases hs
      · split at hs
        · rename_i ht
          exact .handedOver c (ht ▸ hs') (Option.some.inj hs).symm
        · exact .stayed hs
  | exit _ u _ hends =>
    rw [active?_exit] at hs
    split at hs
    · rename_i ht
      subst ht
      obtain ⟨a, ha, hb⟩ := Option.map_eq_some_iff.mp hs
      exact .ended a ha (hends.isWatcher ha) hb.symm
    · exact .stayed hs
  | report c e => exact .stayed hs
  | hangUp c => exact .stayed hs

/-! ## §3 Stakes in the locks -/

/-- What a task has to do with a lock, by what its stage has to do with it. -/
def stake (f : Stage → Lock.Stake) (d : Dialer) (t : Nat) : Lock.Stake :=
  (d.stage? t).elim .none f

section

variable {f : Stage → Lock.Stake} {l l' : Lock} {a b : Stage}

theorem stake_of_active? (hs : d.active? t = some a) : d.stake f t = f a := by
  simp [stake, stage?_of_active? hs]

/-- Whoever has a lock has a use for it. -/
theorem holder_of_serves (h : l.Serves (d.stake f)) (hheld : l.isHeldBy t = true) :
    ∃ a, d.stage? t = some a ∧ f a ≠ .none := by
  have hstake := (h.mem_queue t).mp (Lock.mem_queue_of_isHeldBy hheld)
  unfold stake at hstake
  cases hstage : d.stage? t with
  | none => simp [hstage] at hstake
  | some a =>
    rw [hstage] at hstake
    exact ⟨a, rfl, hstake⟩

/-- A lock that is of use to a task is had by some task. -/
theorem exists_holder {u : Nat} (h : l.Serves (d.stake f)) (hs : d.stage? u = some a)
    (ha : f a ≠ .none) : ∃ t b, l.isHeldBy t = true ∧ d.stage? t = some b ∧ f b ≠ .none := by
  have hqueue : u ∈ l.queue := by
    rw [h.mem_queue]
    simp [stake, hs, ha]
  obtain ⟨t, hheld⟩ := Lock.exists_isHeldBy h.served hqueue
  obtain ⟨b, hb⟩ := holder_of_serves h hheld
  exact ⟨t, b, hheld, hb⟩

theorem Puts.serves (h : l.Serves (d.stake f)) (hputs : Puts d d' t b)
    (huse : l.Use t (d.stake f t) (f b) l') : l'.Serves (d'.stake f) := by
  apply h.use huse
  · simp [stake, hputs.stage?]
  · intro u hu
    simp [stake, hputs.stage?, hu]

private theorem serves_of_adopt (h : l.Serves (d.stake f)) (hs : d.active? t = some a) (c : Nat)
    (hreturned : f (.returned (.done (.ok ()))) = .none) (hwatching : f (.watching c) = .none)
    (huse : l.Use t (f a) .none l') : l'.Serves ((d.adopt t c).1.stake f) := by
  rw [← stake_of_active? (f := f) hs] at huse
  apply h.use huse
  · simp [stake, stage?_adopt hs, hreturned]
  · intro u hu
    by_cases hn : u = d.tasks.length
    · -- there was no such task before
      subst hn
      simp [stake, stage?_adopt hs, hu, hwatching, stage?_length]
    · simp [stake, stage?_adopt hs, hu, hn]

private theorem serves_of_exit (h : l.Serves (d.stake f)) (t : Nat) (hf : f .exited = .none)
    (huse : l.Use t (d.stake f t) .none l') : l'.Serves ((d.exit t).stake f) := by
  apply h.use huse
  · cases hstage : d.stage? t <;> simp [stake, stage?_exit, hstage, hf]
  · intro u hu
    simp [stake, stage?_exit, hu]

end

/-- Whether a stage is one of a call. -/
def Stage.isCall (stage : Stage) : Bool :=
  !stage.isWatcher && decide (stage ≠ .exited)

/-- Only watchers get the place of the watcher, and only who has it is aborted. -/
private theorem slot_ne_of_isCall {Lost Orphaned : Nat → Prop} {a : Stage}
    (hl : Ledger Lost Orphaned d.view) (hs : d.active? t = some a) (hcall : a.isCall = true) :
    d.watcher ≠ some t := by
  intro hw
  obtain ⟨b, hb, hwatcher⟩ := hl.slot t hw
  have hsame : b = a := Option.some.inj (hb.symm.trans hs)
  subst hsame
  rcases hwatcher with hwatcher | rfl
  · simp [Stage.isCall, hwatcher] at hcall
  · cases hcall

/-- The tasks keep to both locks, and no call is aborted. -/
structure Orderly (d : Dialer) : Prop where
  held : d.heldLock.Serves (d.stake Stage.heldStake)
  watcher : d.watcherLock.Serves (d.stake Stage.watcherStake)
  active : ∀ t stage, d.stage? t = some stage → stage.isCall = true → d.active? t = some stage

theorem orderly_new : Orderly .new where
  held := Lock.serves_free fun _ => rfl
  watcher := Lock.serves_free fun _ => rfl
  active := nofun

private theorem Orderly.puts {b : Stage} (h : Orderly d) (hputs : Puts d d' t b)
    (hheld : d.heldLock.Use t (d.stake Stage.heldStake t) b.heldStake d'.heldLock)
    (hwatcher : d.watcherLock.Use t (d.stake Stage.watcherStake t) b.watcherStake d'.watcherLock) :
    Orderly d' where
  held := hputs.serves h.held hheld
  watcher := hputs.serves h.watcher hwatcher
  active := by
    intro u stage hstage hcall
    rw [hputs.stage?] at hstage
    rw [hputs.active?]
    by_cases hu : u = t
    · rw [if_pos hu] at hstage ⊢
      exact hstage
    · rw [if_neg hu] at hstage ⊢
      exact h.active u stage hstage hcall

/-- A call joins the queue of the lock that it needs first. -/
private theorem Orderly.begin (h : Orderly d) (operation : Operation) :
    Orderly (d.begin operation).1 := by
  have hnone (f : Stage → Lock.Stake) : d.stake f d.tasks.length = .none := by
    simp [stake, stage?_length]
  refine h.puts (puts_begin d operation) ?_ ?_
  · rw [hnone]
    cases operation with
    | connect | close => exact .pass _ _
    | reconnect | session | check => exact .request _
  · rw [hnone]
    cases operation with
    | close => exact .request _
    | connect | reconnect | session | check => exact .pass _ _

private theorem Orderly.adopt {Lost Orphaned : Nat → Prop} {c : Nat} (h : Orderly d)
    (hl : Ledger Lost Orphaned d.view) (hs : d.active? t = some (.adopting c))
    (hheld : d.watcherLock.isHeldBy t = true) : Orderly (d.adopt t c).1 where
  held := serves_of_adopt h.held hs c rfl rfl (.pass _ _)
  watcher := serves_of_adopt h.watcher hs c rfl rfl (.release _ _ (.inr hheld))
  active := by
    intro u stage hstage hcall
    rw [stage?_adopt hs] at hstage
    have ht : t ≠ d.tasks.length := Nat.ne_of_lt (lt_of_active? hs)
    by_cases hu : u = t
    · rw [if_pos hu] at hstage
      rw [hu, active?_adopt hs, if_neg ht, if_neg (slot_ne_of_isCall hl hs rfl), if_pos rfl]
      exact hstage
    · rw [if_neg hu] at hstage
      by_cases hn : u = d.tasks.length
      · rw [if_pos hn] at hstage
        cases hstage
        cases hcall
      · rw [if_neg hn] at hstage
        have hactive := h.active u stage hstage hcall
        rw [active?_adopt hs, if_neg hn, if_neg (slot_ne_of_isCall hl hactive hcall), if_neg hu]
        exact hactive

private theorem Orderly.exit (h : Orderly d) (hends : Ends policy d t label) :
    Orderly (d.exit t) where
  held := serves_of_exit h.held t rfl (.leave _ _)
  watcher := by
    have hnone : d.stake Stage.watcherStake t = .none := by
      cases hends with
      | stopped a hs hstoppable =>
        rw [stake_of_active? hs]
        cases a with
        | adopting | stopping | joining => cases hstoppable
        | _ => rfl
      | hungUp c hs => exact stake_of_active? hs
      | gaveUp attempt e hs => exact stake_of_active? hs
      | dropped haborted =>
        -- a task with a stake is a call, which would not have been aborted
        unfold stake
        cases hstage : d.stage? t with
        | none => rfl
        | some stage =>
          have hnot : stage.isCall = false := by
            cases hcall : stage.isCall with
            | false => rfl
            | true =>
              have hactive := h.active t stage hstage hcall
              rw [active?_of_isAborted haborted] at hactive
              cases hactive
          cases stage with
          | adopting | stopping | joining => cases hnot
          | _ => rfl
    apply serves_of_exit h.watcher t rfl
    rw [hnone]
    exact .pass _ _
  active := by
    intro u stage hstage hcall
    rw [stage?_exit] at hstage
    rw [active?_exit]
    by_cases hu : u = t
    · rw [if_pos hu, Option.map_eq_some_iff] at hstage
      obtain ⟨_, _, rfl⟩ := hstage
      cases hcall
    · rw [if_neg hu] at hstage ⊢
      exact h.active u stage hstage hcall

/-- Every step keeps the order. -/
theorem Orderly.step {Lost Orphaned : Nat → Prop} (h : Orderly d)
    (hl : Ledger Lost Orphaned d.view) (hsteps : Steps policy d label d' events) : Orderly d' := by
  cases hsteps with
  | call operation => exact h.begin operation
  | deed _ t a b _ _ hdeed =>
    refine h.puts hdeed.puts ?_ ?_
    · rw [stake_of_active? hdeed.active]
      exact hdeed.heldLock
    · rw [stake_of_active? hdeed.active]
      exact hdeed.watcherLock
  | adopt t c hs hheld => exact h.adopt hl hs hheld
  | exit _ t _ hends => exact h.exit hends
  | report c e => exact ⟨h.held, h.watcher, h.active⟩
  | hangUp c => exact ⟨h.held, h.watcher, h.active⟩

/-- In every run the tasks keep to both locks. -/
theorem orderly_of_run {history : List (Dialer × Label)} (hrun : Run policy history d) :
    Orderly d := by
  -- on the run; the ledger tells that the place of the watcher is a watcher's
  induction hrun with
  | new => exact orderly_new
  | step label hrun hstep ih => exact ih.step (ledger_of_run hrun) (steps_of_step hstep)

/-! ## §4 Tasks that can go on -/

/-- A task takes a step of itself: without a call, an answer of the connector, a failure or the end
of a signal. -/
def Label.IsOwn (label : Label) (t : Nat) : Prop :=
  label = .proceed t ∨ label = .drop t

/-- Whether a task can take a step of itself. -/
def MayGoOn (policy : Policy) (d : Dialer) (t : Nat) : Prop :=
  ∃ label effect, label.IsOwn t ∧ d.step policy label = some effect

section

variable {a : Stage}

theorem mayGoOn_of_proceed (hs : d.active? t = some a) {effect : Effect}
    (h : d.proceed t = some effect) : MayGoOn policy d t :=
  ⟨.proceed t, effect, .inl rfl, (step_proceed hs).trans h⟩

/-- A task that has got the lock that it waits for can go on, also if it was aborted. -/
theorem mayGoOn_of_heldLock (hheld : d.heldLock.isHeldBy t = true) (hs : d.stage? t = some a)
    (hstake : a.heldStake = .wants) : MayGoOn policy d t := by
  cases haborted : d.isAborted t with
  | true =>
    refine ⟨.drop t, (d.exit t, []), .inr rfl, ?_⟩
    have hrunning : d.hasEnded t = false := by
      cases a with
      | returned _ | exited => cases hstake
      | _ => simp [hasEnded, hs]
    simp [step, haborted, hrunning]
  | false =>
    have hproceed : ∃ effect, d.proceed t = some effect := by
      cases a with
      | discarding | seeking | emptying =>
        cases hfound : d.held <;> simp [proceed, hs, hheld, proceedHeld, hfound]
      | installing _ _ | checking | losing => simp [proceed, hs, hheld, proceedHeld]
      | _ => cases hstake
    obtain ⟨effect, heffect⟩ := hproceed
    exact ⟨.proceed t, effect, .inl rfl, by simp [step, haborted, heffect]⟩

/-- Only calls have to do with the lock of the watcher. -/
theorem isCall_of_watcherStake (h : a.watcherStake ≠ .none) : a.isCall = true := by
  cases a with
  | dialing | installing | replacing | watching | losing | pausing | exited => exact absurd rfl h
  | _ => rfl

theorem mayGoOn_of_watcherLock (h : Orderly d) (hheld : d.watcherLock.isHeldBy t = true)
    (hs : d.stage? t = some a) (hstake : a.watcherStake = .wants) : MayGoOn policy d t := by
  have hcall : a.isCall = true := isCall_of_watcherStake (by rw [hstake]; nofun)
  have hactive : d.active? t = some a := h.active t a hs hcall
  -- a task has to do with one lock at a time
  have hother : d.heldLock.isHeldBy t = false := by
    have hnone : a.heldStake = .none := by
      cases a with
      | installing | discarding | clearingOut | seeking | checking | emptying | losing =>
        cases hstake
      | _ => rfl
    cases hboth : d.heldLock.isHeldBy t with
    | false => rfl
    | true =>
      obtain ⟨b, hb, hstake'⟩ := holder_of_serves h.held hboth
      rw [Option.some.inj (hb.symm.trans hs)] at hstake'
      exact absurd hnone hstake'
  have hproceed : ∃ effect, d.proceed t = some effect := by
    cases a with
    | stopping =>
      cases hplace : d.watcher <;> simp [proceed, hs, hheld, hother, proceedWatcher, hplace]
    | adopting _ => simp [proceed, hs, hheld, hother, proceedWatcher]
    | _ => cases hstake
  obtain ⟨effect, heffect⟩ := hproceed
  exact mayGoOn_of_proceed hactive heffect

end

/-! ## §5 Calls -/

/-- The stages through which a call goes. -/
def Operation.covers (operation : Operation) : Stage → Bool
  | .dialing .connecting | .installing .connecting _ | .replacing .connecting _ _ | .adopting _ =>
    operation = .connect || operation = .reconnect
  | .discarding | .clearingOut _ => operation = .reconnect
  | .seeking | .opening _ | .returned (.session _) => operation = .session
  | .checking | .returned (.connected _) => operation = .check
  | .stopping | .joining _ | .emptying | .closing _ => operation = .close
  | .returned (.done _) => operation = .connect || operation = .reconnect || operation = .close
  | _ => false

theorem Goes.covers {a b : Stage} {operation : Operation} (h : Goes policy d a b)
    (ha : operation.covers a = true) : operation.covers b = true := by
  cases h with
  | holds p | replaced p | dialed p | replaces p => cases p <;> exact ha
  | refused | closed | empty | discards | bare | discarded =>
    -- some stages belong to fewer calls than the ones that follow on them
    simp_all [Operation.covers]
  | _ => exact ha

theorem isCall_of_covers {a : Stage} {operation : Operation} (h : operation.covers a = true) :
    a.isCall = true := by
  cases a with
  | dialing p | installing p _ | replacing p _ _ =>
    cases p with
    | connecting => rfl
    | redialing _ => cases h
  | watching _ | losing | pausing _ _ | exited => cases h
  | _ => rfl

/-- A call goes on with its own stages. -/
theorem covers_of_step {Lost Orphaned : Nat → Prop} {operation : Operation} {a : Stage}
    (hl : Ledger Lost Orphaned d.view) (hsteps : Steps policy d label d' events)
    (hs : d.active? t = some a) (ha : operation.covers a = true) :
    ∃ b, d'.active? t = some b ∧ operation.covers b = true := by
  cases hsteps with
  | call operation' =>
    refine ⟨a, ?_, ha⟩
    rw [(puts_begin d operation').active?, if_neg (Nat.ne_of_lt (lt_of_active? hs))]
    exact hs
  | deed _ u a' b _ _ hdeed =>
    simp only [hdeed.puts.active?]
    by_cases hu : t = u
    · subst hu
      have hsame : a' = a := Option.some.inj (hdeed.active.symm.trans hs)
      exact ⟨b, if_pos rfl, hdeed.goes.covers (hsame ▸ ha)⟩
    · exact ⟨a, (if_neg hu).trans hs, ha⟩
  | adopt u c hs' =>
    simp only [active?_adopt hs', Nat.ne_of_lt (lt_of_active? hs), if_false]
    -- the watcher that is aborted is no call
    rw [if_neg (slot_ne_of_isCall hl hs (isCall_of_covers ha))]
    by_cases hu : t = u
    · subst hu
      rw [hs] at hs'
      cases hs'
      refine ⟨_, if_pos rfl, ?_⟩
      simp_all [Operation.covers]
    · exact ⟨a, (if_neg hu).trans hs, ha⟩
  | exit _ u _ hends =>
    simp only [active?_exit]
    have hu : t ≠ u := by
      rintro rfl
      have hcall := isCall_of_covers ha
      simp [Stage.isCall, hends.isWatcher hs] at hcall
    exact ⟨a, (if_neg hu).trans hs, ha⟩
  | report c e => exact ⟨a, hs, ha⟩
  | hangUp c => exact ⟨a, hs, ha⟩

/-- A call goes through its stages and through no others, and it is never aborted. -/
theorem stage_of_called {history : List (Dialer × Label)} {operation : Operation}
    (hrun : Run policy history d) (h : Called history t operation) :
    ∃ a, d.active? t = some a ∧ operation.covers a = true := by
  induction hrun with
  | new =>
    obtain ⟨_, hmem, _⟩ := h
    cases hmem
  | @step _ e _ _ label hrun hstep ih =>
    rcases called_cons.mp h with ⟨rfl, ht⟩ | hcalled
    · have hbegin : e.begin operation = _ := Option.some.inj hstep
      have hputs := puts_begin e operation
      rw [hbegin] at hputs
      exact ⟨operation.firstStage, by rw [hputs.active?, if_pos ht.symm],
        by cases operation <;> rfl⟩
    · obtain ⟨a, hs, ha⟩ := ih hcalled
      exact covers_of_step (ledger_of_run hrun) (steps_of_step hstep) hs ha

end Courier.Dialer
