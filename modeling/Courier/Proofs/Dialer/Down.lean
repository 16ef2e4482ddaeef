import Courier.Proofs.Dialer.Waiting
import Courier.Proofs.Total

/-!
# Dialers that are down

A dialer is down when nothing is held, nobody has the place of the watcher, and no task is left that
could change this. It stays down until it is called to connect or to reconnect: the connector is
asked for nothing, nothing is installed, and what is called for meanwhile comes to nothing. Left to
itself, every such call returns.
-/

namespace Courier.Dialer

variable {policy : Policy} {history before later : List (Dialer × Label)} {d d₁ d' : Dialer}
  {label : Label} {events : List Event} {t u : Nat} {a b : Stage} {operation : Operation}

/-! ## §1 Dialers that are down -/

/-- Whether a task at a stage leaves a dialer down. -/
def Stage.isStill : Stage → Bool
  | .seeking | .opening _ | .checking | .stopping | .emptying | .returned _ | .exited => true
  | _ => false

/-- Nothing is held, nobody watches, and no task brings a connection. -/
structure Down (d : Dialer) : Prop where
  held : d.held = none
  watcher : d.watcher = none
  still : ∀ t a, d.active? t = some a → a.isStill = true

/-- Whether a call is one to connect or to reconnect. -/
def Operation.revives : Operation → Bool
  | .connect | .reconnect => true
  | _ => false

/-- How a task goes on when the dialer is down: no call finds anything. -/
inductive Ebbs : Stage → Stage → Prop where
  | misses : Ebbs .seeking (.returned (.session (.error .notConnected)))
  | opened (c : Nat) (result : Except BrokerError Unit) :
      Ebbs (.opening c) (.returned (.session (result.map fun _ => c)))
  | checked : Ebbs .checking (.returned (.connected false))
  | alone : Ebbs .stopping .emptying
  | empty : Ebbs .emptying (.returned (.done (.ok ())))

private theorem Down.ebbs (h : Down d) (ha : a.isStill = true) (hgoes : Goes policy d a b) :
    Ebbs a b := by
  cases hgoes with
  | finds c hheld | closes c hheld =>
    rw [h.held] at hheld
    cases hheld
  | joins w hw =>
    rw [h.watcher] at hw
    cases hw
  | checked =>
    rw [h.held]
    exact .checked
  | misses => exact .misses
  | opened c result => exact .opened c result
  | alone => exact .alone
  | empty => exact .empty
  | _ => cases ha

private theorem Ebbs.still (h : Ebbs a b) :
    b.isStill = true ∧ b.awaits? = none ∧ a.carries? = none := by
  cases h <;> exact ⟨rfl, rfl, rfl⟩

/-- What a dialer that is down goes through in a step. -/
structure StaysDown (d d' : Dialer) (events : List Event) : Prop where
  down : Down d'
  generation : d'.generation = d.generation
  asked : requests events = []
  closings : ∀ c, d'.closings c = d.closings c

private theorem Down.begin (h : Down d) (hdown : operation.revives = false) :
    StaysDown d (d.begin operation).1 (d.begin operation).2 where
  down := by
    refine ⟨(begin_held d operation).trans h.held, (begin_watcher d operation).trans h.watcher, ?_⟩
    intro u b hb
    rw [(puts_begin d operation).active?] at hb
    split at hb
    · cases hb
      cases operation with
      | connect | reconnect => cases hdown
      | _ => rfl
    · exact h.still u b hb
  generation := begin_generation d operation
  asked := by
    cases operation with
    | connect => cases hdown
    | _ => rfl
  closings := by simp [Dialer.closings]

private theorem Down.deed (h : Down d) (hdeed : Deed policy d label t a b d' events) :
    StaysDown d d' events := by
  have ha := h.still t a hdeed.active
  obtain ⟨hb, hawaits, hcarries⟩ := (h.ebbs ha hdeed.goes).still
  refine ⟨⟨?_, ?_, ?_⟩, ?_, ?_, ?_⟩
  · rw [hdeed.held, h.held]
    cases a with
    | installing => cases ha
    | _ => rfl
  · rw [hdeed.watcher, h.watcher]
    exact ite_self none
  · intro u s hs
    rw [hdeed.puts.active?] at hs
    split at hs
    · cases hs
      exact hb
    · exact h.still u s hs
  · rw [hdeed.generation, hcarries]
    rfl
  · rw [hdeed.asked, hawaits]
    rfl
  · intro c
    rw [hdeed.closings (by simp [h.held]) c, hawaits]
    simp

/-- A dialer that is down stays down in every step that is no call to connect or to reconnect. -/
theorem Down.step (h : Down d) (hsteps : Steps policy d label d' events)
    (hdown : ∀ operation, label = .call operation → operation.revives = false) :
    StaysDown d d' events := by
  cases hsteps with
  | call operation => exact h.begin (hdown operation rfl)
  | deed _ t a b _ _ hdeed => exact h.deed hdeed
  | adopt t c hs => cases h.still t _ hs
  | exit _ t _ hends hasked =>
    refine ⟨⟨h.held, h.watcher, ?_⟩, rfl, hasked, fun _ => rfl⟩
    intro u s hs
    rw [active?_exit] at hs
    split at hs
    · obtain ⟨_, _, rfl⟩ := Option.map_eq_some_iff.mp hs
      rfl
    · exact h.still u s hs
  | report c | hangUp c =>
    have hclosings := fun f hf => congrFun (closings_of_change d c (f := f) hf)
    exact ⟨⟨h.held, h.watcher, h.still⟩, rfl, rfl, hclosings _ fun _ => rfl⟩

/-! ## §2 Calls that come to nothing -/

/-- Whether a stage is one of a call that was begun while the dialer was down. -/
def Stage.isVain : Stage → Bool
  | .seeking | .checking | .stopping | .emptying => true
  | .returned outcome => outcome = .session (.error .notConnected) || outcome = .connected false ||
      outcome = .done (.ok ())
  | _ => false

/-- What a call answers while the dialer is down: there is no connection for a session, and nothing
to close. -/
def Operation.vain? : Operation → Option Outcome
  | .connect | .reconnect => none
  | .session => some (.session (.error .notConnected))
  | .check => some (.connected false)
  | .close => some (.done (.ok ()))

private theorem Ebbs.vain (h : Ebbs a b) (ha : a.isVain = true) : b.isVain = true := by
  cases h with
  | opened => cases ha
  | _ => rfl

private theorem isStill_of_isVain (h : a.isVain = true) : a.isStill = true := by
  cases a with
  | seeking | opening | checking | stopping | emptying | returned | exited => rfl
  | _ => cases h

private theorem vain?_of_returned {outcome : Outcome}
    (hcovers : operation.covers (.returned outcome) = true) (hdown : operation.revives = false)
    (hvain : (Stage.returned outcome).isVain = true) : operation.vain? = some outcome := by
  simp only [Stage.isVain, Bool.or_eq_true, decide_eq_true_eq] at hvain
  rcases hvain with (rfl | rfl) | rfl
  · cases operation with
    | session => rfl
    | _ => cases hcovers
  · cases operation with
    | check => rfl
    | _ => cases hcovers
  · cases operation with
    | connect | reconnect => cases hdown
    | session | check => cases hcovers
    | close => rfl

/-- What has become of a dialer since it was down. -/
structure DownSince (policy : Policy) (d₁ : Dialer) (later : List (Dialer × Label)) (d : Dialer) :
    Prop extends StaysDown d₁ d (shown policy later) where
  vain : ∀ u operation a, Called later u operation → d.active? u = some a → a.isVain = true

private theorem DownSince.vain_step (h : DownSince policy d₁ later d)
    (hrun' : Run policy ((d, label) :: later ++ before) d')
    (hsteps : Steps policy d label d' events)
    (hdown : ∀ operation, label = .call operation → operation.revives = false)
    (hcalled : Called ((d, label) :: later) u operation) (hb : d'.active? u = some b) :
    b.isVain = true := by
  obtain ⟨b', hb', hcovers⟩ := stage_of_called hrun' (hcalled.append before)
  have hsame : b' = b := Option.some.inj (hb'.symm.trans hb)
  cases came_of_steps hsteps hb with
  | stayed hs => exact h.vain u operation b (called_of_active? hcalled hs) hs
  | began operation' hlabel _ hfirst =>
    have hnot := hdown operation' hlabel
    rw [hfirst]
    cases operation' with
    | connect | reconnect => cases hnot
    | _ => rfl
  | went a hdeed =>
    -- a call that was begun when the dialer was down already finds nothing
    have ha := h.vain u operation a (called_of_active? hcalled hdeed.active) hdeed.active
    exact (h.down.ebbs (isStill_of_isVain ha) hdeed.goes).vain ha
  | appointed c _ hwatching =>
    rw [hsame, hwatching] at hcovers
    cases hcovers
  | handedOver c hs _ => cases h.down.still u _ hs
  | ended a _ _ hexited =>
    rw [hsame, hexited] at hcovers
    cases hcovers

/-- A dialer that is down stays down in every run without a call to connect or to reconnect. -/
theorem downSince_of_run (h₁ : Run policy before d₁) (hd₁ : Down d₁)
    (hrun : Run policy (later ++ before) d)
    (hdown : ∀ e operation, (e, .call operation) ∈ later → operation.revives = false) :
    DownSince policy d₁ later d := by
  -- on the later part of the run, with what has become of the dialer as the invariant
  refine Run.resume (P := fun later d =>
    (∀ e operation, (e, .call operation) ∈ later → operation.revives = false) →
      DownSince policy d₁ later d) h₁ hrun ?_ ?_ hdown
  · intro _
    refine ⟨⟨hd₁, rfl, rfl, fun _ => rfl⟩, ?_⟩
    rintro u operation a ⟨_, hmem, _⟩
    cases hmem
  · intro later d d' events label hrun ih hstep hdown
    have hd := ih fun e operation hmem => hdown e operation (.tail _ hmem)
    have hlabel : ∀ operation, label = .call operation → operation.revives = false := by
      rintro operation rfl
      exact hdown d operation (.head _)
    have hsteps : Steps policy d label d' events := steps_of_step hstep
    have hnext := hd.down.step hsteps hlabel
    refine ⟨⟨hnext.down, hnext.generation.trans hd.generation, ?_, ?_⟩, ?_⟩
    · rw [shown_cons hstep, requests, List.filterMap_append]
      exact List.append_eq_nil_iff.mpr ⟨hnext.asked, hd.asked⟩
    · intro c
      exact (hnext.closings c).trans (hd.closings c)
    · intro u operation b hcalled hb
      exact hd.vain_step (.step label hrun hstep) hsteps hlabel hcalled hb

/-! ## §3 Dialers that are left to themselves -/

/-- Left to itself, a dialer comes to where `P` holds, whichever of its tasks go on: as long as it
is not there, some task can go on, and it gets there in the end. -/
inductive ComesTo (policy : Policy) (P : Dialer → Prop) : Dialer → Prop where
  | here {d : Dialer} : P d → ComesTo policy P d
  | step {d : Dialer} : (∃ t, MayGoOn policy d t) →
      (∀ t label d' events, label.IsOwn t → d.step policy label = some (d', events) →
        ComesTo policy P d') → ComesTo policy P d

/-- How many steps a call has yet to take when the dialer is down. -/
def Stage.toGo : Stage → Nat
  | .seeking | .checking | .emptying => 1
  | .stopping => 2
  | _ => 0

/-- How many steps a task has yet to take when the dialer is down: one that was aborted has only to
end. -/
def Task.toGo (task : Task) : Nat :=
  match task.aborted, task.stage with
  | true, .exited | true, .returned _ => 0
  | true, _ => 1
  | false, stage => stage.toGo

def toGo (d : Dialer) : Nat :=
  d.tasks.foldr (fun task rest => task.toGo + rest) 0

private theorem toGo_lt {x y : Task} (hx : d.tasks[t]? = some x)
    (htasks : d'.tasks = d.tasks.set t y) (hlt : y.toGo < x.toGo) : d'.toGo < d.toGo := by
  unfold toGo
  rw [htasks]
  exact total_set_lt hx hlt

private theorem Ebbs.toGo_lt (h : Ebbs a b) (hawaits : a.awaits? = none) : b.toGo < a.toGo := by
  cases h with
  | opened => cases hawaits
  | _ => simp [Stage.toGo]

theorem tasks_of_puts (hs : d.active? t = some a) (h : Puts d d' t b) :
    d'.tasks = d.tasks.set t (Task.at b) := by
  apply List.ext_getElem?
  intro u
  by_cases hu : u = t
  · rw [hu, h.here, List.getElem?_set_self (lt_of_active? hs)]
  · rw [h.others u hu, List.getElem?_set_ne (Ne.symm hu)]

theorem tasks_exit {x : Task} (hx : d.tasks[t]? = some x) :
    (d.exit t).tasks = d.tasks.set t { x with stage := .exited } := by
  apply List.ext_getElem?
  intro u
  simp only [exit, setStage, List.getElem?_modify]
  by_cases hu : u = t
  · obtain ⟨hlt, _⟩ := List.getElem?_eq_some_iff.mp hx
    rw [hu, List.getElem?_set_self hlt, hx]
    simp
  · simp [Ne.symm hu]

private theorem toGo_exit (haborted : d.isAborted t = true) (hrunning : d.hasEnded t = false) :
    (d.exit t).toGo < d.toGo := by
  cases hx : d.tasks[t]? with
  | none => simp [isAborted, hx] at haborted
  | some x =>
    obtain ⟨stage, aborted⟩ := x
    obtain rfl : aborted = true := by simpa [isAborted, hx] using haborted
    apply toGo_lt hx (tasks_exit hx)
    cases stage with
    | exited | returned => simp [hasEnded, stage?, hx] at hrunning
    | _ => simp [Task.toGo]

/-- Every step that a task takes of itself brings a dialer that is down nearer to its end. -/
private theorem Down.toGo_lt (h : Down d) (hsteps : Steps policy d label d' events)
    (hown : label.IsOwn t) : d'.toGo < d.toGo := by
  cases hsteps with
  | call => rcases hown with hown | hown <;> cases hown
  | deed _ u a b _ _ hdeed =>
    have hawaits : a.awaits? = none := by
      rcases hdeed.driven.proceeds_or_answers with ⟨hnone, _⟩ | ⟨_, _, rfl⟩
      · exact hnone
      · rcases hown with hown | hown <;> cases hown
    have hebbs := h.ebbs (h.still u a hdeed.active) hdeed.goes
    have htask := active?_eq_some.mp hdeed.active
    exact Dialer.toGo_lt htask (tasks_of_puts hdeed.active hdeed.puts) (hebbs.toGo_lt hawaits)
  | adopt u c hs => cases h.still u _ hs
  | exit _ u _ hends =>
    -- the watchers that have not ended were aborted
    have hnone : ∀ a, d.active? u ≠ some a := by
      intro a hs
      have hstill := h.still u a hs
      have hwatcher := hends.isWatcher hs
      cases a with
      | seeking | opening | checking | stopping | emptying | returned | exited => cases hwatcher
      | _ => cases hstill
    cases hends with
    | dropped haborted hrunning => exact toGo_exit haborted hrunning
    | stopped a hs | hungUp c hs | gaveUp attempt e hs => exact absurd hs (hnone _)
  | report | hangUp => rcases hown with hown | hown <;> cases hown

/-- When the dialer is down, no call is stuck. -/
private theorem Down.mayGoOn (h : Down d) (ho : Orderly d) (hs : d.active? u = some a)
    (hvain : a.isVain = true) (hrunning : ∀ outcome, a ≠ .returned outcome) :
    ∃ t, MayGoOn policy d t := by
  by_cases hstopping : a = .stopping
  · -- the one that has the lock of the watcher is a closing call, too
    subst hstopping
    obtain ⟨t, b, hheld, hstage, hstake⟩ :=
      exists_holder ho.watcher (stage?_of_active? hs) (by simp [Stage.watcherStake])
    have hstill := h.still t b (ho.active t b hstage (isCall_of_watcherStake hstake))
    refine ⟨t, mayGoOn_of_watcherLock ho hheld hstage ?_⟩
    cases b with
    | adopting | joining => cases hstill
    | stopping => rfl
    | _ => exact absurd rfl hstake
  · have hstake : a.heldStake ≠ .none := by
      cases a with
      | seeking | checking | emptying => simp [Stage.heldStake]
      | stopping => exact absurd rfl hstopping
      | returned outcome => exact absurd rfl (hrunning outcome)
      | _ => cases hvain
    obtain ⟨t, _, hheld, _⟩ := exists_holder ho.held (stage?_of_active? hs) hstake
    refine ⟨t, ho.mayGoOn hheld fun old hclear => ?_⟩
    cases h.still t _ (ho.active t _ hclear rfl)

section

variable {outcome : Outcome} (h₁ : Run policy before d₁) (hd₁ : Down d₁)
  (hrun : Run policy (later ++ before) d)
  (hdown : ∀ e operation, (e, .call operation) ∈ later → operation.revives = false)
  (hcalled : Called later u operation) (hvain : operation.vain? = some outcome)

include h₁ hd₁ hrun hdown hcalled hvain

/-- A call that is begun while the dialer is down answers what such a call answers. -/
theorem returned_of_downSince {o : Outcome} (hs : d.active? u = some (.returned o)) :
    o = outcome := by
  obtain ⟨a, hs', hcovers⟩ := stage_of_called hrun (hcalled.append before)
  have hsame : a = .returned o := Option.some.inj (hs'.symm.trans hs)
  subst hsame
  have hrevives : operation.revives = false := by
    cases operation with
    | connect | reconnect => cases hvain
    | _ => rfl
  have ha := (downSince_of_run h₁ hd₁ hrun hdown).vain u operation _ hcalled hs
  exact Option.some.inj ((vain?_of_returned hcovers hrevives ha).symm.trans hvain)

/-- A call that is begun while the dialer is down returns. -/
theorem comesTo_of_downSince :
    ComesTo policy (fun e => e.active? u = some (.returned outcome)) d := by
  -- on the steps that the tasks have yet to take
  induction hsize : d.toGo using Nat.strongRecOn generalizing later d with
  | _ n ih =>
    have hd := downSince_of_run h₁ hd₁ hrun hdown
    obtain ⟨a, hs, _⟩ := stage_of_called hrun (hcalled.append before)
    by_cases hreturned : ∃ o, a = .returned o
    · obtain ⟨o, rfl⟩ := hreturned
      rw [returned_of_downSince h₁ hd₁ hrun hdown hcalled hvain hs] at hs
      exact .here hs
    · have ha := hd.vain u operation a hcalled hs
      have hgoesOn : ∃ t, MayGoOn policy d t :=
        hd.down.mayGoOn (orderly_of_run hrun) hs ha fun o ho => hreturned ⟨o, ho⟩
      refine .step hgoesOn fun t label d' events hown hstep => ?_
      have hlt := hd.down.toGo_lt (steps_of_step hstep) hown
      have hdown' : ∀ e operation', (e, .call operation') ∈ (d, label) :: later →
          operation'.revives = false := by
        intro e operation' hmem
        rcases List.mem_cons.mp hmem with heq | hmem
        · obtain rfl : .call operation' = label := congrArg Prod.snd heq
          rcases hown with hown | hown <;> cases hown
        · exact hdown e operation' hmem
      have hrun' : Run policy ((d, label) :: later ++ before) d' := .step label hrun hstep
      exact ih d'.toGo (hsize ▸ hlt) hrun' hdown' (called_cons.mpr (.inr hcalled)) rfl

end

end Courier.Dialer
