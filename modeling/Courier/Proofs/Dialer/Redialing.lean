import Courier.Proofs.Dialer.Outage

/-!
# Redialing

Left to itself, a dialer that is attended by a watcher settles: every lock is handed on, every pause
passes, and the watcher waits for the answer to a dial, or for news of its connection, or it has
ended. So a dial that has failed is followed by the next one, unless the policy says stop; and if
every dial of an outage fails, there are as many as the policy allows.
-/

namespace Courier.Dialer

variable {policy : Policy} {history before later : List (Dialer × Label)} {d d₀ d' : Dialer}
  {label : Label} {events : List Event} {t u w c g k n : Nat} {a b : Stage} {held : Option Nat}
  {ms outage : List Mark}

/-! ## §1 Where a dialer is led to -/

/-- Left to what is allowed, a dialer comes to where `P` holds of it and of what has happened since,
whatever happens: as long as it is not there, something allowed can happen, and it gets there in the
end. -/
inductive LedTo (policy : Policy) (allowed : Label → Prop)
    (P : List (Dialer × Label) → Dialer → Prop) : List (Dialer × Label) → Dialer → Prop where
  | here {since : List (Dialer × Label)} {d : Dialer} : P since d → LedTo policy allowed P since d
  | step {since : List (Dialer × Label)} {d : Dialer} :
      (∃ label effect, allowed label ∧ d.step policy label = some effect) →
      (∀ label d' events, allowed label → d.step policy label = some (d', events) →
        LedTo policy allowed P ((d, label) :: since) d') →
      LedTo policy allowed P since d

section

variable {allowed : Label → Prop} {P I : List (Dialer × Label) → Dialer → Prop}
  {since : List (Dialer × Label)}

/-- A dialer is led to where `P` holds by steps that keep an invariant and lower a rank. -/
theorem ledTo_of_rank (rank : Dialer → Nat)
    (live : ∀ since d, I since d → P since d ∨
      ∃ label effect, allowed label ∧ d.step policy label = some effect)
    (next : ∀ since d label d' events, I since d → allowed label →
      d.step policy label = some (d', events) → I ((d, label) :: since) d' ∧ rank d' < rank d)
    (h : I since d) : LedTo policy allowed P since d := by
  induction hrank : rank d using Nat.strongRecOn generalizing since d with
  | _ n ih =>
    rcases live since d h with hp | hgoesOn
    · exact .here hp
    · refine .step hgoesOn fun label d' events hallowed hstep => ?_
      obtain ⟨hnext, hlt⟩ := next since d label d' events h hallowed hstep
      exact ih (rank d') (hrank ▸ hlt) hnext rfl

/-- A dialer that is led somewhere by the steps that its tasks take of themselves comes there. -/
theorem LedTo.comesTo {P : Dialer → Prop}
    (h : LedTo policy (fun label => ∃ t, label.IsOwn t) (fun _ d => P d) since d) :
    ComesTo policy P d := by
  induction h with
  | here hp => exact .here hp
  | step hgoesOn _ ih =>
    obtain ⟨label, effect, ⟨t, hown⟩, hstep⟩ := hgoesOn
    exact .step ⟨t, label, effect, hown, hstep⟩ fun t label d' events hown hstep =>
      ih label d' events ⟨t, hown⟩ hstep

end

/-! ## §2 How much is left to do -/

/-- How many steps a task at a stage has yet to take of itself, or because a dial is refused, if the
policy says stop after dial `n`. -/
def Stage.stepsLeft (n : Nat) : Stage → Nat
  | .seeking | .checking => 1
  | .installing (.redialing _) _ => 2 * n + 4
  | .watching _ => 2 * n + 3
  | .losing => 2 * n + 2
  | .dialing (.redialing attempt) => 2 * (n - attempt) + 1
  | .pausing attempt _ => 2 * (n - (attempt + 1)) + 2
  | _ => 0

/-- How many steps a task has yet to take: one that was aborted has only to end. -/
def Task.stepsLeft (n : Nat) (task : Task) : Nat :=
  match task.aborted, task.stage with
  | true, .exited | true, .returned _ => 0
  | true, _ => 1
  | false, stage => stage.stepsLeft n

def stepsLeft (n : Nat) (d : Dialer) : Nat := total (Task.stepsLeft n) d.tasks

theorem stepsLeft_lt_of_puts (hs : d.active? t = some a) (hputs : Puts d d' t b)
    (hlt : b.stepsLeft n < a.stepsLeft n) : d'.stepsLeft n < d.stepsLeft n := by
  unfold stepsLeft
  rw [tasks_of_puts hs hputs]
  exact total_set_lt (active?_eq_some.mp hs) hlt

theorem stepsLeft_lt_of_exit (haborted : d.isAborted t = true) (hrunning : d.hasEnded t = false) :
    (d.exit t).stepsLeft n < d.stepsLeft n := by
  cases hx : d.tasks[t]? with
  | none => simp [isAborted, hx] at haborted
  | some x =>
    obtain ⟨stage, aborted⟩ := x
    obtain rfl : aborted = true := by simpa [isAborted, hx] using haborted
    unfold stepsLeft
    rw [tasks_exit hx]
    apply total_set_lt hx
    cases stage with
    | exited | returned => simp [hasEnded, stage?, hx] at hrunning
    | _ => simp [Task.stepsLeft]

theorem Advances.stepsLeft_lt (h : Advances policy d a ms b) (hawaits : a.awaits? = none)
    (hn : n ≤ maxAttempts) : b.stepsLeft n < a.stepsLeft n := by
  cases h with
  | failed | ended | lost | holds =>
    simp only [Stage.stepsLeft]
    omega
  | again attempt wait =>
    simp only [Stage.stepsLeft, oneMoreAttempt]
    omega
  | dialed | refused | gaveUp => cases hawaits

theorem Advances.stepsLeft_lt_of_refused {attempt : Nat}
    (h : Advances policy d (.dialing (.redialing attempt)) ms b)
    (hrefused : ∀ c', .answered (.ok c') ∉ ms) (hattempt : attempt ≤ n)
    (hstop : (policy n).stop = true) :
    b.stepsLeft n < (Stage.dialing (.redialing attempt)).stepsLeft n := by
  cases h with
  | dialed => exact absurd (List.mem_singleton.mpr rfl) (hrefused _)
  | refused _ _ hgoesOn =>
    have hne : attempt ≠ n := by
      rintro rfl
      rw [hstop] at hgoesOn
      cases hgoesOn
    simp only [Stage.stepsLeft]
    omega
  | gaveUp =>
    simp only [Stage.stepsLeft]
    omega

theorem Label.IsOwn.actor (h : label.IsOwn t) (d : Dialer) : d.actor? label = some t := by
  rcases h with rfl | rfl <;> rfl

/-- A task that waits for an answer takes no step of itself. -/
theorem awaits?_of_own (hsteps : Steps policy d label d' events) (hs : d.active? t = some a)
    (hown : label.IsOwn t) : a.awaits? = none := by
  have hactor := hown.actor d
  cases hsteps with
  | deed _ u a' b _ _ hdeed =>
    obtain rfl : u = t := Option.some.inj (hdeed.actor.symm.trans hactor)
    obtain rfl : a' = a := Option.some.inj (hdeed.active.symm.trans hs)
    rcases hdeed.driven.proceeds_or_answers with ⟨hnone, _⟩ | ⟨_, _, rfl⟩
    · exact hnone
    · rcases hown with hown | hown <;> cases hown
  | adopt u c hs' =>
    obtain rfl : u = t := Option.some.inj hactor
    obtain rfl : .adopting c = a := Option.some.inj (hs'.symm.trans hs)
    rfl
  | exit _ u _ hends =>
    obtain rfl : u = t := Option.some.inj (hends.actor.symm.trans hactor)
    cases hends with
    | hungUp c hs' =>
      obtain rfl : .watching c = a := Option.some.inj (hs'.symm.trans hs)
      rfl
    | dropped haborted =>
      rw [active?_of_isAborted haborted] at hs
      cases hs
    | stopped | gaveUp => rcases hown with hown | hown <;> cases hown
  | call | report | hangUp => rcases hown with hown | hown <;> cases hown

theorem Goes.stepsLeft_lt_of_bystander (h : Goes policy d a b) (ha : a.isBystander = true)
    (hawaits : a.awaits? = none) : b.stepsLeft n < a.stepsLeft n := by
  cases h with
  | finds | misses | checked => exact Nat.one_pos
  | opened => cases hawaits
  | _ => cases ha

/-- Every step that a task takes of itself leaves fewer of them. -/
theorem Attended.stepsLeft_lt (h : Attended policy g w ms d) (hn : n ≤ maxAttempts)
    (hstep : d.step policy label = some (d', events)) (hown : label.IsOwn t) :
    d'.stepsLeft n < d.stepsLeft n := by
  have hsteps : Steps policy d label d' events := steps_of_step hstep
  by_cases ht : t = w
  · subst ht
    obtain ⟨a, hs, hsupervises⟩ := h.course
    obtain ⟨b, hadvances, hputs⟩ :=
      (strides_of_step hsupervises hs h.running (hown.actor d) hstep).goes
    exact stepsLeft_lt_of_puts hs hputs
      (hadvances.stepsLeft_lt (awaits?_of_own hsteps hs hown) hn)
  · have hother {a : Stage} (hs : d.active? t = some a) (ha : a.isBystander = false) : False :=
      ht (h.eq_watcher hs ha)
    cases hsteps with
    | deed _ u a b _ _ hdeed =>
      obtain rfl : u = t := Option.some.inj (hdeed.actor.symm.trans (hown.actor d))
      have ha := h.others u a ht hdeed.active
      have hawaits := awaits?_of_own (.deed _ u a b _ _ hdeed) hdeed.active hown
      exact stepsLeft_lt_of_puts hdeed.active hdeed.puts
        (hdeed.goes.stepsLeft_lt_of_bystander ha hawaits)
    | adopt u c hs => exact absurd hs (h.not_adopting u c)
    | exit _ u _ hends =>
      obtain rfl : u = t := Option.some.inj (hends.actor.symm.trans (hown.actor d))
      cases hends with
      | dropped haborted hrunning => exact stepsLeft_lt_of_exit haborted hrunning
      | hungUp c hs => exact (hother hs rfl).elim
      | stopped | gaveUp => rcases hown with hown | hown <;> cases hown
    | call | report | hangUp => rcases hown with hown | hown <;> cases hown

/-! ## §3 Dialers that have settled -/

/-- The watcher waits for the answer to a dial, or for news of its connection, or it has ended; and
nobody waits for the lock of the connection. -/
structure Settled (w : Nat) (d : Dialer) : Prop where
  watcher : (∃ attempt, d.active? w = some (.dialing (.redialing attempt))) ∨
    (∃ c, d.active? w = some (.watching c) ∧ d.pending? c = none ∧ d.ended c = false) ∨
    d.active? w = some .exited
  others : ∀ u a, d.active? u = some a → a.heldStake = .none

/-- A watcher takes note of what its signal has brought. -/
private theorem mayGoOn_of_news (hs : d.active? w = some (.watching c))
    (hlt : c < d.connections.length) (hnews : d.pending? c ≠ none ∨ d.ended c = true) :
    MayGoOn policy d w := by
  obtain ⟨effect, heffect⟩ : ∃ effect, d.notice w c = some effect := by
    have hx : d.connections[c]? = some d.connections[c] := List.getElem?_eq_getElem hlt
    simp only [pending?, ended, hx, Option.bind_some, Option.map_some, Option.getD_some] at hnews
    cases hp : d.connections[c].pending with
    | some error => simp [notice, hx, hp]
    | none =>
      have hended := hnews.resolve_left (by simp [hp])
      simp [notice, hx, hp, hended]
  exact mayGoOn_of_proceed hs (by simpa [proceed, stage?_of_active? hs] using heffect)

/-- When a pause has passed, the watcher dials. -/
theorem step_pausing {attempt : Nat} {wait : Duration}
    (hs : d.active? w = some (.pausing attempt wait)) :
    ∃ d', d.step policy (.proceed w) = some (d', [.asked w .dial]) := by
  rw [step_proceed hs]
  simp [proceed, stage?_of_active? hs, ask]

/-- An attended dialer of which no task can go on has settled. -/
theorem Attended.settled (h : Attended policy g w ms d) (hrun : Run policy history d)
    (hstuck : ∀ t, ¬MayGoOn policy d t) : Settled w d := by
  have ho := orderly_of_run hrun
  have hothers : ∀ u a, d.active? u = some a → a.heldStake = .none := by
    intro u a hs
    refine Classical.byContradiction fun hstake => ?_
    obtain ⟨t, b, hlock, hstage, _⟩ := exists_holder ho.held (stage?_of_active? hs) hstake
    -- nobody keeps the lock while the connector closes something
    refine hstuck t (ho.mayGoOn hlock fun old hclear => ?_)
    have hclear' := ho.active t _ hclear rfl
    obtain ⟨a', hw, hsupervises⟩ := h.course
    rw [h.eq_watcher hclear' rfl, hw] at hclear'
    cases hclear'
    generalize d.held = held at hsupervises
    cases hsupervises
  refine ⟨?_, hothers⟩
  obtain ⟨a, hs, hsupervises⟩ := h.course
  generalize d.held = held at hsupervises
  cases hsupervises with
  | dialing => exact .inl ⟨_, hs⟩
  | dismissed | gaveUp => exact .inr (.inr hs)
  | losing | installing => cases hothers w _ hs
  | pausing =>
    obtain ⟨_, hstep⟩ : ∃ e, d.step policy (.proceed w) = some (e, [.asked w .dial]) :=
      step_pausing hs
    exact absurd ⟨_, _, .inl rfl, hstep⟩ (hstuck w)
  | @watching c =>
    have hlt : c < d.connections.length := (ledger_of_run hrun).counted w _ c hs rfl
    refine .inr (.inl ⟨c, hs, ?_, ?_⟩)
    · cases hp : d.pending? c with
      | none => rfl
      | some error => exact absurd (mayGoOn_of_news hs hlt (.inl (by simp [hp]))) (hstuck w)
    · cases hended : d.ended c with
      | false => rfl
      | true => exact absurd (mayGoOn_of_news hs hlt (.inr hended)) (hstuck w)

/-- Left to itself, an attended dialer settles. -/
theorem Attended.settles (h : Attended policy g w ms d) (hrun : Run policy history d) :
    ComesTo policy (Settled w) d := by
  have hled : LedTo policy (fun label => ∃ t, label.IsOwn t) (fun _ d => Settled w d) [] d := by
    -- the invariant is the vigil itself, with the marks that it has by then
    refine ledTo_of_rank (I := fun _ d => ∃ ms history, Attended policy g w ms d ∧
      Run policy history d) (stepsLeft 0) ?_ ?_ ⟨ms, history, h, hrun⟩
    · rintro _ d ⟨ms, history, h, hrun⟩
      by_cases hgoesOn : ∃ t, MayGoOn policy d t
      · obtain ⟨t, label, effect, hown, hstep⟩ := hgoesOn
        exact .inr ⟨label, effect, ⟨t, hown⟩, hstep⟩
      · exact .inl (h.settled hrun fun t ht => hgoesOn ⟨t, ht⟩)
    · rintro _ d label d' events ⟨ms, history, h, hrun⟩ ⟨t, hown⟩ hstep
      have hunmanaged : label.manages = false := by rcases hown with rfl | rfl <;> rfl
      exact ⟨⟨_, _, (h.step hstep hunmanaged).1, .step label hrun hstep⟩,
        h.stepsLeft_lt (Nat.zero_le _) hstep hown⟩
  exact hled.comesTo

/-! ## §4 How many dials -/

theorem Outage.count_dials (h : Outage policy c k outage) : outage.count .dials = k + 1 := by
  induction h with
  | lost error => rfl
  | again error _ _ ih => simp [ih]

/-- As long as an outage goes on, the policy does not say stop. -/
theorem Outage.goesOn (h : Outage policy c k outage) {i : Nat} (hi : i < k) :
    (policy (min i maxAttempts)).stop = false := by
  induction h with
  | lost error => cases hi
  | again error _ hstop ih =>
    rcases Nat.lt_succ_iff_lt_or_eq.mp hi with hlt | rfl
    · exact ih hlt
    · exact hstop

/-- Dial `n` is the first one after which a policy says stop. -/
structure StopsAfter (policy : Policy) (n : Nat) : Prop where
  counted : n ≤ maxAttempts
  stop : (policy n).stop = true
  goesOn : ∀ i, i < n → (policy i).stop = false

theorem StopsAfter.le (h : StopsAfter policy n) (houtage : Outage policy c k outage) : k ≤ n := by
  refine Nat.le_of_not_lt fun hlt => ?_
  have hstop := h.stop
  rw [← Nat.min_eq_left h.counted, houtage.goesOn hlt] at hstop
  cases hstop

/-- A watcher gives up after the first dial at which the policy says stop. -/
theorem StopsAfter.eq (h : StopsAfter policy n) (houtage : Outage policy c k outage)
    (hstop : (policy (min k maxAttempts)).stop = true) : k = n := by
  refine Nat.le_antisymm (h.le houtage) (Nat.le_of_not_lt fun hlt => ?_)
  rw [Nat.min_eq_left (Nat.le_of_lt (Nat.lt_of_lt_of_le hlt h.counted)), h.goesOn k hlt] at hstop
  cases hstop

/-- An exponential backoff stops after the first dial whose wait is above the ceiling. -/
theorem stopsAfter_exponential {base ceiling : Duration} {multiplier : Nat}
    {hb : base.isZero = false} {hm : multiplier ≠ 0} {hc : ceiling.isZero = false}
    (hceiling : ceiling < Duration.max)
    (hcounted : ceiling.totalNanos / (base.totalNanos * multiplier) < maxAttempts) :
    StopsAfter (Backoff.exponential base multiplier ceiling hb hm hc).policy
      (ceiling.totalNanos / (base.totalNanos * multiplier) + 1) where
  counted := hcounted
  stop := (Backoff.stop_exponential_iff hceiling _).mpr (Nat.lt_succ_self _)
  goesOn := by
    intro i hi
    rw [← Bool.not_eq_true, Backoff.stop_exponential_iff hceiling]
    exact Nat.not_lt_of_le (Nat.le_of_lt_succ hi)

/-- Nothing happens but that tasks go on of themselves and that the connector refuses the dials of a
watcher. -/
def RefusesDials (w : Nat) (label : Label) : Prop :=
  (∃ t, label.IsOwn t) ∨ ∃ error, label = .answer w (.error error)

theorem RefusesDials.unmanaged (h : RefusesDials w label) : label.manages = false := by
  rcases h with ⟨t, rfl | rfl⟩ | ⟨error, rfl⟩ <;> rfl

/-- Without an answer that brings a connection, there is one outage only. -/
theorem Watches.eq_nil (h : Watches policy c ms) (hrefused : ∀ c', .answered (.ok c') ∉ ms) :
    ms = [] := by
  cases h with
  | first => rfl
  | next _ => exact absurd (by simp) (hrefused c)

/-- What holds of a watcher that has taken note of a failure, and whose dials have all failed
since. -/
private theorem Supervises.of_refused {error : BrokerError} (hstops : StopsAfter policy n)
    (h : Supervises policy held a (.failed c error :: ms))
    (hrefused : ∀ c', .answered (.ok c') ∉ ms) :
    (∀ c', a ≠ .watching c') ∧ (∀ attempt, a = .dialing (.redialing attempt) → attempt ≤ n) ∧
      (a = .exited → held = none ∧ ms.count .dials = n + 1) := by
  have hrefused' : ∀ c', .answered (.ok c') ∉ Mark.failed c error :: ms := by simpa using hrefused
  generalize hall : Mark.failed c error :: ms = all at h hrefused'
  cases h with
  | watching hwatches =>
    rw [hwatches.eq_nil hrefused'] at hall
    cases hall
  | @dismissed _ before hwatches =>
    simp only [List.mem_append, not_or] at hrefused'
    rw [hwatches.eq_nil fun c' => (hrefused' c').1] at hall
    cases hall
  | losing | pausing => exact ⟨nofun, nofun, nofun⟩
  | dialing hwatches houtage =>
    refine ⟨nofun, ?_, nofun⟩
    rintro _ ⟨⟩
    exact Nat.le_trans (Nat.min_le_left _ _) (hstops.le houtage)
  | @gaveUp _ k before outage _ hwatches houtage hstop =>
    refine ⟨nofun, nofun, fun _ => ⟨rfl, ?_⟩⟩
    simp only [List.mem_append, not_or] at hrefused'
    rw [hwatches.eq_nil fun c' => (hrefused' c').1.1] at hall
    have hcount : (Mark.failed c error :: ms).count .dials = k + 1 := by
      simp [hall, houtage.count_dials]
    rw [← hstops.eq houtage hstop, ← hcount]
    simp
  | installing c' => exact absurd (by simp) (hrefused' c')

theorem RefusesDials.not_answered (h : RefusesDials w label) (c' : Nat) :
    .answered (.ok c') ∉ marked policy w d label := by
  intro hmem
  rcases given_of_marked hmem with hgiven | hdials | ⟨wait, hpauses⟩
  · generalize hmark : Mark.answered (.ok c') = mark at hgiven
    cases hgiven with
    | answered p result =>
      rcases h with ⟨t, hown | hown⟩ | ⟨error, hrefusal⟩
      · cases hown
      · cases hown
      · cases hrefusal
        cases hmark
    | failed | ended | holds => cases hmark
  · cases hdials
  · cases hpauses

/-- The connector may answer a dial as it likes. -/
theorem exists_step_of_dialing {p : Purpose} (hs : d.active? w = some (.dialing p))
    (result : Except BrokerError Unit) :
    ∃ effect, d.step policy (.answer w result) = some effect := by
  rw [step_answer hs]
  cases result <;> simp [answered, stage?_of_active? hs]

/-- A watcher is given an answer only when it has dialed. -/
private theorem dialing_of_answer {result : Except BrokerError Unit}
    (h : Supervises policy held a ms) (hs : d.active? w = some a)
    (hstep : d.step policy (.answer w result) = some (d', events)) :
    ∃ attempt, a = .dialing (.redialing attempt) := by
  rw [step_answer hs] at hstep
  cases h with
  | dialing => exact ⟨_, rfl⟩
  | _ => simp [answered, stage?_of_active? hs] at hstep

/-- What holds of an outage in which every dial has failed so far. -/
private structure Stranded (policy : Policy) (g w c : Nat) (error : BrokerError)
    (since : List (Dialer × Label)) (d : Dialer) : Prop where
  run : ∃ history, Run policy history d
  attended : Attended policy g w (.failed c error :: marks policy w since) d
  refused : ∀ c', .answered (.ok c') ∉ marks policy w since

section

variable {error : BrokerError} {since : List (Dialer × Label)}
  (h : Stranded policy g w c error since d) (hstops : StopsAfter policy n)

include h hstops

private theorem Stranded.live :
    (d.active? w = some .exited ∧ d.held = none ∧ (marks policy w since).count .dials = n + 1) ∨
      ∃ label effect, RefusesDials w label ∧ d.step policy label = some effect := by
  obtain ⟨history, hrun⟩ := h.run
  obtain ⟨a, hs, hsupervises⟩ := h.attended.course
  obtain ⟨hwatching, _, hexited⟩ := hsupervises.of_refused hstops h.refused
  by_cases hgoesOn : ∃ t, MayGoOn policy d t
  · obtain ⟨t, label, effect, hown, hstep⟩ := hgoesOn
    exact .inr ⟨label, effect, .inl ⟨t, hown⟩, hstep⟩
  · have hsettled := h.attended.settled hrun fun t ht => hgoesOn ⟨t, ht⟩
    rcases hsettled.watcher with ⟨attempt, hdialing⟩ | ⟨c', hwatching', _⟩ | hexited'
    · obtain ⟨effect, heffect⟩ := exists_step_of_dialing hdialing (.error .notConnected)
      exact .inr ⟨_, effect, .inr ⟨_, rfl⟩, heffect⟩
    · exact absurd (Option.some.inj (hs.symm.trans hwatching')) (hwatching c')
    · exact .inl ⟨hexited', hexited (Option.some.inj (hs.symm.trans hexited'))⟩

private theorem Stranded.step (hrefuses : RefusesDials w label)
    (hstep : d.step policy label = some (d', events)) :
    Stranded policy g w c error ((d, label) :: since) d' ∧ d'.stepsLeft n < d.stepsLeft n := by
  obtain ⟨history, hrun⟩ := h.run
  refine ⟨⟨⟨_, .step label hrun hstep⟩, ?_, fun c' => ?_⟩, ?_⟩
  · rw [marks_cons]
    exact (h.attended.step hstep hrefuses.unmanaged).1
  · rw [marks_cons, List.mem_append]
    exact not_or.mpr ⟨h.refused c', hrefuses.not_answered c'⟩
  · rcases hrefuses with ⟨t, hown⟩ | ⟨error', rfl⟩
    · exact h.attended.stepsLeft_lt hstops.counted hstep hown
    · obtain ⟨a, hs, hsupervises⟩ := h.attended.course
      obtain ⟨attempt, rfl⟩ := dialing_of_answer hsupervises hs hstep
      obtain ⟨_, hattempt, _⟩ := hsupervises.of_refused hstops h.refused
      obtain ⟨b, hadvances, hputs⟩ :=
        (strides_of_step hsupervises hs h.attended.running rfl hstep).goes
      have hrefused : ∀ c', .answered (.ok c') ∉ marked policy w d (.answer w (.error error')) :=
        RefusesDials.not_answered (.inr ⟨error', rfl⟩)
      exact stepsLeft_lt_of_puts hs hputs
        (hadvances.stepsLeft_lt_of_refused hrefused (hattempt attempt rfl) hstops.stop)

end

/-- If every dial of an outage fails, the watcher dials as often as the policy allows, and ends. -/
theorem Attended.exhausts (h : Attended policy g w ms d) (hrun : Run policy history d)
    (hlosing : d.active? w = some .losing) (hstops : StopsAfter policy n) :
    LedTo policy (RefusesDials w) (fun since d' => d'.active? w = some .exited ∧ d'.held = none ∧
      (marks policy w since).count .dials = n + 1) [] d := by
  obtain ⟨a, hs, hsupervises⟩ := h.course
  obtain rfl : a = .losing := Option.some.inj (hs.symm.trans hlosing)
  -- what was before the outage does not matter, so the vigil may as well begin with it
  obtain ⟨c, error, hsince⟩ : ∃ c error, Supervises policy d.held .losing [.failed c error] := by
    generalize d.held = held at hsupervises
    cases hsupervises with
    | @losing c _ error => exact ⟨c, error, .losing error (.first c)⟩
  have hstranded : Stranded policy d.generation w c error [] d :=
    ⟨⟨history, hrun⟩, ⟨h.place, ⟨_, hs, hsince⟩, rfl, h.running, h.others⟩,
      fun c' => List.not_mem_nil⟩
  exact ledTo_of_rank (I := Stranded policy d.generation w c error) (stepsLeft n)
    (fun since d h => h.live hstops) (fun since d label d' events h hrefuses hstep =>
      h.step hstops hrefuses hstep) hstranded

/-! ## §5 After a call has connected a dialer -/

/-- What is to be said of a dialer at any time of the vigil of a watcher that began after `g`
connections. The run is `history`, of which `later` is the part since the connecting call. -/
structure Vigil (policy : Policy) (g w : Nat) (history later : List (Dialer × Label)) (d : Dialer) :
    Prop where
  place : d.watcher = some w
  /-- The watcher dials in outages only, and its marks tell what is held. -/
  course : ∃ a, d.active? w = some a ∧ Supervises policy d.held a (marks policy w later)
  /-- The errors of which the watcher takes note have come over the signals of its connections. -/
  arrived : ∀ c error, .failed c error ∈ marks policy w later →
    ∃ e, (e, .report c error) ∈ history
  alone : ∀ u, .asked u .dial ∈ shown policy later → u = w
  /-- Every redial that succeeds raises the generation by one. -/
  generation : d.generation = g + 1 + (marks policy w later).countP Mark.isHolds
  /-- A signal that ends without an error lets the watcher end, and nothing else happens. -/
  dismisses : ∀ c, d.active? w = some (.watching c) → d.pending? c = none → d.ended c = true →
    ∃ d', d.step policy (.proceed w) = some (d', []) ∧ d'.active? w = some .exited ∧
      d'.held = d.held
  /-- The connector may answer a dial as it likes. -/
  answers : ∀ p, d.active? w = some (.dialing p) → ∀ result, ∃ effect,
    d.step policy (.answer w result) = some effect
  /-- When a pause has passed, the watcher dials. -/
  redials : ∀ attempt wait, d.active? w = some (.pausing attempt wait) →
    ∃ d', d.step policy (.proceed w) = some (d', [.asked w .dial])
  settles : ComesTo policy (Settled w) d
  /-- Who looks for a connection where none is held is told so. -/
  lookups : d.held = none → ∀ u, d.active? u = some .seeking → d.heldLock.isHeldBy u = true →
    ∃ d', d.step policy (.proceed u)
      = some (d', [.returned u (.session (.error .notConnected))])
  /-- From the step in which the watcher has taken note of a failure until a redial succeeds, a call
  for a session is refused. -/
  refuses : d.active? w = some .losing → ∀ since d', Run policy (since ++ history) d' →
    Unmanaged since → (∀ c, .holds c ∉ marks policy w since) →
    ∀ u a, Called since u .session → d'.active? u = some a →
      a = .seeking ∨ a = .returned (.session (.error .notConnected))
  /-- A watcher that has ended leaves everything as it is, and nobody dials any more. -/
  final : d.active? w = some .exited → ∀ since d', Run policy (since ++ history) d' →
    Unmanaged since → d'.active? w = some .exited ∧ d'.held = d.held ∧
      marks policy w since = [] ∧ ∀ u, .asked u .dial ∉ shown policy since

/-- An outage in which every dial fails makes so many dials. -/
structure Exhausts (policy : Policy) (w dials : Nat) (later : List (Dialer × Label)) (d : Dialer) :
    Prop where
  /-- A watcher that has given up has made so many of them in its last outage. -/
  gaveUp : d.active? w = some .exited → d.held = none → ∃ c k before outage error,
    Watches policy c before ∧ Outage policy c k outage ∧ outage.count .dials = dials ∧
      marks policy w later = before ++ outage ++ [.answered (.error error)]
  /-- If the connector refuses all dials since a failure, the watcher comes to give up. -/
  exhausts : d.active? w = some .losing → LedTo policy (RefusesDials w) (fun since d' =>
    d'.active? w = some .exited ∧ d'.held = none ∧
      (marks policy w since).count .dials = dials) [] d

private theorem step_of_ended (hs : d.active? w = some (.watching c)) (hp : d.pending? c = none)
    (hended : d.ended c = true) : d.step policy (.proceed w) = some (d.exit w, []) := by
  rw [step_proceed hs]
  cases hx : d.connections[c]? with
  | none => simp [ended, hx] at hended
  | some x =>
    have hpending : x.pending = none := by simpa [pending?, hx] using hp
    have hover : x.ended = true := by simpa [ended, hx] using hended
    simp [proceed, stage?_of_active? hs, notice, hx, hpending, hover]

private theorem Attended.exhausted (h : Attended policy g w ms d) (hrun : Run policy history d)
    (hms : marks policy w later = ms) (hstops : StopsAfter policy n) :
    Exhausts policy w (n + 1) later d where
  gaveUp := by
    intro hexited hnone
    obtain ⟨a, hs, hsupervises⟩ := h.course
    obtain rfl : a = .exited := Option.some.inj (hs.symm.trans hexited)
    rw [hnone] at hsupervises
    cases hsupervises with
    | @gaveUp c k before outage error hwatches houtage hstop =>
      refine ⟨c, k, before, outage, error, hwatches, houtage, ?_, hms⟩
      rw [houtage.count_dials, hstops.eq houtage hstop]
  exhausts := fun hlosing => h.exhausts hrun hlosing hstops

/-- The errors of which a watcher takes note have come over the signals of its connections. -/
theorem reported_of_marks (hrun : Run policy history d) {error : BrokerError}
    (hmem : .failed c error ∈ marks policy w history) : ∃ e, (e, .report c error) ∈ history := by
  induction hrun with
  | new => cases hmem
  | step label hrun hstep ih =>
    rw [marks_cons, List.mem_append] at hmem
    rcases hmem with hmem | hmem
    · obtain ⟨e, he⟩ := ih hmem
      exact ⟨e, .tail _ he⟩
    · rcases given_of_marked hmem with hgiven | hdials | ⟨wait, hpauses⟩
      · cases hgiven with
        | failed _ _ _ hpending =>
          obtain ⟨e, he⟩ := reported_of_pending? hrun hpending
          exact ⟨e, .tail _ he⟩
      · cases hdials
      · cases hpauses

section

variable (h : Attended policy g w ms d) (hrun : Run policy history d)

include h hrun

private theorem Attended.refused_calls (hlosing : d.active? w = some .losing)
    {since : List (Dialer × Label)} (hrun' : Run policy (since ++ history) d')
    (hunmanaged : Unmanaged since) (hmarks : ∀ c, .holds c ∉ marks policy w since)
    (hcalled : Called since u .session) (hs : d'.active? u = some a) :
    a = .seeking ∨ a = .returned (.session (.error .notConnected)) := by
  have hrefuses := refuses_of_run hrun h hlosing hrun' hunmanaged hmarks
  rcases hrefuses.calls u hcalled with ⟨hseeking, _⟩ | hreturned
  · exact .inl (Option.some.inj (hs.symm.trans hseeking))
  · exact .inr (Option.some.inj (hs.symm.trans hreturned))

private theorem Attended.no_dial_after_end (hexited : d.active? w = some .exited)
    {since : List (Dialer × Label)} (hrun' : Run policy (since ++ history) d')
    (hunmanaged : Unmanaged since) (u : Nat) : .asked u .dial ∉ shown policy since := by
  intro hmem
  -- it would be the watcher that dials, and it would have a mark of it
  obtain rfl := (h.resume hrun hrun' hunmanaged).2 u hmem
  have hdials := dials_mem_marks hmem
  rw [(h.exited_resume hrun hexited hrun' hunmanaged).2.2] at hdials
  cases hdials

end

private theorem vigil_of_attended
    (h : Attended policy (g + 1) w (marks policy w later) d) (hrun : Run policy (later ++ before) d)
    (halone : ∀ u, .asked u .dial ∈ shown policy later → u = w) :
    Vigil policy g w (later ++ before) later d where
  place := h.place
  course := h.course
  arrived := by
    intro c error hmem
    apply reported_of_marks hrun
    rw [marks_append]
    exact List.mem_append_right _ hmem
  alone := halone
  generation := h.generation
  dismisses := by
    intro c hs hp hended
    refine ⟨d.exit w, step_of_ended hs hp hended, ?_, rfl⟩
    rw [active?_exit, if_pos rfl, hs]
    rfl
  answers := fun _ hs result => exists_step_of_dialing hs result
  redials := fun _ _ hs => step_pausing hs
  settles := h.settles hrun
  lookups := fun hnone _ hs hlock => step_seeking_of_none hnone hs hlock
  refuses := fun hlosing _ _ hrun' hunmanaged hmarks _ _ hcalled hs =>
    h.refused_calls hrun hlosing hrun' hunmanaged hmarks hcalled hs
  final := by
    intro hexited since d' hrun' hunmanaged
    obtain ⟨hexited', hheld, hmarks⟩ := h.exited_resume hrun hexited hrun' hunmanaged
    exact ⟨hexited', hheld, hmarks, h.no_dial_after_end hrun hexited hrun' hunmanaged⟩

/-- However failures, answers of the connector, calls for sessions and pauses follow on each other
after a call has connected a dialer, as long as nobody calls to connect, to reconnect or to close: a
watcher keeps its vigil. It dials only after an error of the connection that it watches; from then
on until a redial succeeds, sessions are refused; a dial that fails is followed by the wait of the
policy and the next dial, or by no dial ever again if the policy says stop; and a connection that is
brought is counted, held and watched next. With an exponential backoff, an outage in which every
dial fails makes one dial for each attempt whose wait fits under the ceiling, and one more. -/
theorem vigil_after_connect (hrest : ∀ u a, d₀.active? u = some a → a.isBystander = true)
    (hrun : Run policy (later ++ (d₀, .call .connect) :: before) d) (hunmanaged : Unmanaged later)
    (hconnected : d.active? d₀.tasks.length = some (.returned (.done (.ok ())))) :
    ∃ w, Vigil policy d₀.generation w (later ++ (d₀, .call .connect) :: before) later d ∧
      ∀ base multiplier ceiling hb hm hc,
        policy = (Backoff.exponential base multiplier ceiling hb hm hc).policy →
        ceiling < Duration.max →
        ceiling.totalNanos / (base.totalNanos * multiplier) < maxAttempts →
        Exhausts policy w (ceiling.totalNanos / (base.totalNanos * multiplier) + 2) later d := by
  cases phase_of_run hrest hrun hunmanaged with
  | launching hlaunching =>
    -- a call that is still connecting has not returned, or not well
    obtain ⟨a, hs, hlaunch⟩ := hlaunching.course
    obtain rfl : a = _ := Option.some.inj (hs.symm.trans hconnected)
    generalize d.held = held, d.generation = k at hlaunch
    cases hlaunch
  | attended w hattended halone =>
    refine ⟨w, vigil_of_attended hattended hrun halone, ?_⟩
    rintro base multiplier ceiling hb hm hc rfl hceiling hcounted
    exact hattended.exhausted hrun rfl (stopsAfter_exponential hceiling hcounted)

/-- A backoff under whose ceiling three waits fit. -/
def hasty : Policy :=
  (Backoff.exponential (Duration.ofMillis 1) 2 (Duration.ofMillis 4) (by decide) (by decide)
    (by decide)).policy

/-- A call connects a dialer. The connection fails and is replaced at the second dial; the next one
fails, too, and every dial after it. -/
def twoOutages : List Label :=
  let refusal : Label := .answer 1 (.error (.connecting "refused"))
  [.answer 0 (.ok ()), .proceed 0, .proceed 0, .report 0 (.connectionLost "reset"), .proceed 1,
    .proceed 1, refusal, .proceed 1, .answer 1 (.ok ()), .proceed 1,
    .report 1 (.connectionLost "reset"), .proceed 1, .proceed 1, refusal, .proceed 1, refusal,
    .proceed 1, refusal, .proceed 1, refusal]

/-- The second connection is counted, and the outage that follows has four dials. -/
theorem vigil_of_twoOutages :
    ∃ later d, replay hasty [] (Dialer.new.begin .connect).1 twoOutages = some (later, d) ∧
      d.generation = 2 ∧ ∃ w, d.active? w = some .exited ∧
      Vigil hasty 0 w (later ++ [(.new, .call .connect)]) later d ∧
      ∃ c k before outage error, Watches hasty c before ∧ Outage hasty c k outage ∧
        outage.count .dials = 4 ∧
        marks hasty w later = before ++ outage ++ [.answered (.error error)] := by
  obtain ⟨later, d, hreplay, hgeneration, hplace, hexited, hnone, hunmanaged, hreturned⟩ :
      ∃ later d, replay hasty [] (Dialer.new.begin .connect).1 twoOutages = some (later, d) ∧
        d.generation = 2 ∧ d.watcher = some 1 ∧ d.active? 1 = some .exited ∧ d.held = none ∧
        Unmanaged later ∧ d.active? 0 = some (.returned (.done (.ok ()))) :=
    ⟨_, _, rfl, rfl, rfl, rfl, rfl, by decide, rfl⟩
  have hbegun : Run hasty ([] ++ [(.new, .call .connect)]) (Dialer.new.begin .connect).1 :=
    .step _ .new rfl
  have hnobody : ∀ u a, Dialer.new.active? u = some a → a.isBystander = true := fun u a hs =>
    absurd (lt_of_active? hs) (Nat.not_lt_zero u)
  obtain ⟨w, hvigil, hexhausts⟩ := vigil_after_connect hnobody (hbegun.replay hreplay) hunmanaged
    hreturned
  obtain rfl : w = 1 := Option.some.inj (hvigil.place.symm.trans hplace)
  have hfour : Exhausts hasty 1 4 later d :=
    hexhausts (Duration.ofMillis 1) 2 (Duration.ofMillis 4) (by decide) (by decide) (by decide) rfl
      (by decide) (by decide)
  exact ⟨later, d, hreplay, hgeneration, 1, hexited, hvigil, hfour.gaveUp hexited hnone⟩

end Courier.Dialer
