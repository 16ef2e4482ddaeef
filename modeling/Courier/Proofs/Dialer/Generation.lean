import Courier.Kafka.SendHandle
import Courier.Proofs.Dialer.Order
import Courier.Proofs.Dialer.Supervision

/-!
# Generations of a dialer

A connection is counted in the step in which it is installed. So the generation tells whether
anything was installed between two looks at it, and a session that was called for in between is on
the connection that was installed last. A send-handle relies on this: it is open as long as the
generation is the one from before its session was called for.
-/

namespace Courier.Dialer

variable {policy : Policy} {history before later : List (Dialer × Label)} {d d₁ d' : Dialer}
  {label : Label} {events : List Event} {t c : Nat}

/-! ## §1 Installed connections -/

/-- The connection that is held after a step and was not held before it. -/
def installs? (policy : Policy) (d : Dialer) (label : Label) : Option Nat :=
  (d.step policy label).bind fun effect =>
    effect.1.held.filter fun c => decide (d.held ≠ some c)

/-- The connections that were installed in a part of a run, the last one first. -/
def installed (policy : Policy) (history : List (Dialer × Label)) : List Nat :=
  history.filterMap fun p => p.1.installs? policy p.2

/-- What a step does to the connection that is held and to the generation. -/
inductive Holds (d d' : Dialer) : Prop where
  | installs (c : Nat) : d.held ≠ some c → d'.held = some c →
      d'.generation = d.generation + 1 → Holds d d'
  | keeps : d'.held = d.held → d'.generation = d.generation → Holds d d'
  | drops : d'.held = none → d'.generation = d.generation → Holds d d'

private theorem holds_of_deed {Lost Orphaned : Nat → Prop} {a b : Stage}
    (hl : Ledger Lost Orphaned d.view) (h : Deed policy d label t a b d' events) : Holds d d' := by
  have hheld := h.held
  have hgeneration := h.generation
  cases a with
  | installing p c => exact .installs c (hl.carried t _ c h.active rfl).1 hheld hgeneration
  | discarding | emptying | losing => exact .drops hheld hgeneration
  | _ => exact .keeps hheld hgeneration

/-- Only a connection that a task has carried is installed, and it is counted at once. -/
theorem holds_of_steps {Lost Orphaned : Nat → Prop} (hl : Ledger Lost Orphaned d.view)
    (hsteps : Steps policy d label d' events) : Holds d d' := by
  cases hsteps with
  | call operation => exact .keeps (begin_held d operation) (begin_generation d operation)
  | deed _ t a b _ _ hdeed => exact holds_of_deed hl hdeed
  | adopt | exit | report | hangUp => exact .keeps rfl rfl

theorem Holds.generation_le (h : Holds d d') : d.generation ≤ d'.generation := by
  cases h with
  | installs c _ _ hgeneration => exact hgeneration ▸ Nat.le_succ _
  | keeps _ hgeneration | drops _ hgeneration => exact Nat.le_of_eq hgeneration.symm

/-- The generation is the number of installed connections, and what is held was installed last. -/
structure Counts (installed : List Nat) (d : Dialer) : Prop where
  generation : d.generation = installed.length
  held : ∀ c, d.held = some c → installed.head? = some c

private theorem installed_of_new (hstep : d.step policy label = some (d', events))
    (hnew : d.held ≠ some c) (hheld : d'.held = some c) :
    installed policy ((d, label) :: history) = c :: installed policy history := by
  have hinstalls : d.installs? policy label = some c := by
    rw [installs?, hstep, Option.bind_some, Option.filter_eq_some_iff]
    exact ⟨hheld, decide_eq_true hnew⟩
  simp [installed, hinstalls]

private theorem installed_of_old (hstep : d.step policy label = some (d', events))
    (hold : ∀ c, d'.held = some c → d.held = some c) :
    installed policy ((d, label) :: history) = installed policy history := by
  have hinstalls : d.installs? policy label = none := by
    rw [installs?, hstep, Option.bind_some, Option.filter_eq_none_iff]
    intro c hc
    simp [hold c hc]
  simp [installed, hinstalls]

private theorem Counts.step (h : Counts (installed policy history) d)
    (hstep : d.step policy label = some (d', events)) (hholds : Holds d d') :
    Counts (installed policy ((d, label) :: history)) d' := by
  cases hholds with
  | installs c hnew hheld hgeneration =>
    -- it is counted in the step in which it is installed
    rw [installed_of_new hstep hnew hheld]
    refine ⟨by rw [hgeneration, h.generation, List.length_cons], fun c' hc' => ?_⟩
    exact hheld.symm.trans hc'
  | keeps hheld hgeneration =>
    rw [installed_of_old hstep fun c hc => hheld ▸ hc]
    exact ⟨hgeneration.trans h.generation, fun c hc => h.held c (hheld ▸ hc)⟩
  | drops hheld hgeneration =>
    rw [installed_of_old hstep (by simp [hheld])]
    exact ⟨hgeneration.trans h.generation, by simp [hheld]⟩

theorem counts_of_run (hrun : Run policy history d) : Counts (installed policy history) d := by
  induction hrun with
  | new => exact ⟨rfl, nofun⟩
  | step label hrun hstep ih =>
    exact ih.step hstep (holds_of_steps (ledger_of_run hrun) (steps_of_step hstep))

/-- As long as nothing is counted, nothing is installed. -/
private theorem installed_of_same (hstep : d.step policy label = some (d', events))
    (hholds : Holds d d') (hsame : d'.generation = d.generation) :
    installed policy ((d, label) :: history) = installed policy history := by
  apply installed_of_old hstep
  cases hholds with
  | installs c _ _ hgeneration =>
    rw [hgeneration] at hsame
    exact absurd hsame (Nat.succ_ne_self _)
  | keeps hheld => simp [hheld]
  | drops hheld => simp [hheld]

/-! ## §2 Sessions -/

/-- The connection on which a call opens a session or has opened one. -/
def Stage.sessionOn? : Stage → Option Nat
  | .opening c | .returned (.session (.ok c)) => some c
  | _ => none

theorem Goes.sessionOn {a b : Stage} (h : Goes policy d a b) (hb : b.sessionOn? = some c) :
    d.held = some c ∨ a.sessionOn? = some c := by
  cases h with
  | finds c' hheld => exact .inl (hheld.trans hb)
  | opened c' result =>
    cases result with
    | ok _ => exact .inr hb
    | error e => cases hb
  | holds p c' | replaced p c' => cases p <;> cases hb
  | _ => cases hb

/-- What holds after a look at the generation: it does not go down, and as long as it is the same,
the sessions that are called for are on the connection that was installed last. -/
structure Guards (policy : Policy) (d₁ : Dialer) (before later : List (Dialer × Label))
    (d : Dialer) : Prop where
  generation : d₁.generation ≤ d.generation
  session : ∀ u a c, Called later u .session → d.active? u = some a → a.sessionOn? = some c →
    d.generation = d₁.generation → (installed policy (later ++ before)).head? = some c

private theorem Guards.step (h : Guards policy d₁ before later d)
    (hrun : Run policy (later ++ before) d) (hstep : d.step policy label = some (d', events)) :
    Guards policy d₁ before ((d, label) :: later) d' := by
  have hsteps := steps_of_step hstep
  have hholds := holds_of_steps (ledger_of_run hrun) hsteps
  refine ⟨Nat.le_trans h.generation hholds.generation_le, ?_⟩
  intro u b c hcalled hb hsession hsame
  -- if nothing was counted up to this step, nothing was counted before it
  have hgeneration : d.generation = d₁.generation :=
    Nat.le_antisymm (hsame ▸ hholds.generation_le) h.generation
  have hnone : d'.generation = d.generation := hsame.trans hgeneration.symm
  rw [List.cons_append, installed_of_same hstep hholds hnone]
  cases came_of_steps hsteps hb with
  | stayed hb => exact h.session u b c (called_of_active? hcalled hb) hb hsession hgeneration
  | went a hdeed =>
    rcases hdeed.goes.sessionOn hsession with hheld | hsession'
    · -- the session is opened on what is held, which was installed last
      exact (counts_of_run hrun).held c hheld
    · have ha := hdeed.active
      exact h.session u a c (called_of_active? hcalled ha) ha hsession' hgeneration
  | began operation _ _ hfirst =>
    rw [hfirst] at hsession
    cases operation <;> cases hsession
  | appointed _ _ hwatching | handedOver _ _ hreturned | ended _ _ _ hexited =>
    simp_all [Stage.sessionOn?]

private theorem guards_of_run (h₁ : Run policy before d₁) (hrun : Run policy (later ++ before) d) :
    Guards policy d₁ before later d := by
  refine Run.resume (P := Guards policy d₁ before) h₁ hrun ⟨Nat.le_refl _, ?_⟩ ?_
  · rintro u a c ⟨_, hmem, _⟩
    cases hmem
  · intro later d d' events label hrun ih hstep
    exact ih.step hrun hstep

/-- However calls, watchers and failures take turns: the generation is the number of connections
that were installed, and it never goes down. If a session is called for after a look at the
generation, and the generation is the same at a later look, no connection was installed after the
one of the session. So a send-handle with this generation and session that is not closed sends on
the connection that was installed last. -/
theorem generation_guards_session (h₁ : Run policy before d₁)
    (hrun : Run policy (later ++ before) d) :
    d₁.generation ≤ d.generation ∧ d.generation = (installed policy (later ++ before)).length ∧
    (∀ u c, Called later u .session → d.active? u = some (.returned (.session (.ok c))) →
      d.generation = d₁.generation → (installed policy (later ++ before)).head? = some c) ∧
    ∀ u result settings topic h, Called later u .session →
      d.active? u = some (.returned (.session result)) →
      Kafka.openHandle settings topic d₁.generation result = .ok h → h.isClosed d = false →
      (installed policy (later ++ before)).head? = some h.connection := by
  obtain ⟨hle, hsession⟩ := guards_of_run h₁ hrun
  refine ⟨hle, (counts_of_run hrun).generation, ?_, ?_⟩
  · intro u c hcalled hreturned
    exact hsession u _ c hcalled hreturned rfl
  · intro u result settings topic h hcalled hreturned hopen hclosed
    cases result with
    | error e => cases hopen
    | ok c =>
      cases hopen
      apply hsession u _ c hcalled hreturned rfl
      simpa [Kafka.SendHandle.isClosed] using hclosed

/-- A session is called for and opened. -/
def sessionOpened : List Label := [.call .session, .proceed 2, .answer 2 (.ok ())]

/-- A handle that is opened after the first connection has failed sends on the one that has replaced
it, and it is open. -/
theorem open_after_failure :
    ∃ before d₁ later d, replay patient [] .new failure = some (before, d₁) ∧
      replay patient [] d₁ sessionOpened = some (later, d) ∧ d.generation = 2 ∧
      (installed patient (later ++ before)).head? = some 1 ∧
      ∃ h, Kafka.openHandle .standard "orders" d₁.generation (.ok 1) = .ok h ∧
        h.isClosed d = false ∧ (installed patient (later ++ before)).head? = some h.connection := by
  obtain ⟨before, d₁, later, d, hbefore, hlater, hgeneration, hsame, hcalled, hreturned⟩ :
      ∃ before d₁ later d, replay patient [] .new failure = some (before, d₁) ∧
        replay patient [] d₁ sessionOpened = some (later, d) ∧ d.generation = 2 ∧
        d₁.generation = 2 ∧ Called later 2 .session ∧
        d.active? 2 = some (.returned (.session (.ok 1))) :=
    ⟨_, _, _, _, rfl, rfl, rfl, rfl, by decide, rfl⟩
  have h₁ : Run patient ([] ++ before) d₁ := run_of_replay .new hbefore
  obtain ⟨_, _, hsession, hhandle⟩ := generation_guards_session h₁ (h₁.replay hlater)
  refine ⟨before, d₁, later, d, hbefore, hlater, hgeneration, ?_, ?_⟩
  · exact hsession 2 1 hcalled hreturned (hgeneration.trans hsame.symm)
  · refine ⟨_, rfl, ?_, ?_⟩
    · simp [Kafka.SendHandle.isClosed, hsame, hgeneration]
    · apply hhandle 2 (.ok 1) .standard "orders" _ hcalled hreturned rfl
      simp [Kafka.SendHandle.isClosed, hsame, hgeneration]

end Courier.Dialer
