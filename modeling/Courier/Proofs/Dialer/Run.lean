import Courier.Dialer.Step

/-!
# Runs of a dialer

A run is any sequence of steps from the dialer before its first call: calls and watchers take turns
in any order, the connector answers in any order, and connections fail at any time. Two things may
go wrong on the way, and a run remembers them: a step may let go of a connection that nobody closes,
and it may leave the connection that is held without a watcher.
-/

namespace Courier.Dialer

/-! ## §1 Runs -/

/-- The dialers that can be reached, each with the steps that led to it: the dialer before the step
and its label, the last step first. -/
inductive Run (policy : Policy) : List (Dialer × Label) → Dialer → Prop where
  | new : Run policy [] .new
  | step {history : List (Dialer × Label)} {d d' : Dialer} {events : List Event} (label : Label) :
      Run policy history d → d.step policy label = some (d', events) →
      Run policy ((d, label) :: history) d'

/-- The stage of a task that was not aborted. -/
def active? (d : Dialer) (t : Nat) : Option Stage :=
  match d.tasks[t]? with
  | some task => if task.aborted then none else some task.stage
  | none => none

/-- Whether a stage is none of connecting, reconnecting and closing, and no redialing of a
watcher. -/
def Stage.isQuiet : Stage → Bool
  | .seeking | .opening _ | .checking | .returned _ | .watching _ | .exited => true
  | _ => false

/-- Whether no call to connect, to reconnect or to close is under way and no watcher redials. -/
def AtRest (d : Dialer) : Prop :=
  ∀ t stage, d.active? t = some stage → stage.isQuiet = true

/-! ## §2 Supervision -/

/-- How often the connector was asked to close a connection. -/
def closings (d : Dialer) (c : Nat) : Nat :=
  (d.connections[c]?.map Connection.closings).getD 0

/-- Whether a connection has reported a failure. -/
def reported (d : Dialer) (c : Nat) : Bool :=
  (d.connections[c]?.map Connection.reported).getD false

/-- Whether the failure signal of a connection has ended. -/
def ended (d : Dialer) (c : Nat) : Bool :=
  (d.connections[c]?.map Connection.ended).getD false

/-- The connection that is held is watched, unless its failure signal has ended. -/
def Supervised (d : Dialer) : Prop :=
  ∀ c, d.held = some c → d.ended c = false → ∃ t, d.active? t = some (.watching c)

/-- Every other connection was closed or has reported a failure. -/
def NoneLeaked (d : Dialer) : Prop :=
  ∀ c, c < d.connections.length → d.held ≠ some c → 0 < d.closings c ∨ d.reported c = true

/-! ## §3 What goes wrong -/

/-- The connection that a task waits to hold. -/
def Stage.carries? : Stage → Option Nat
  | .installing _ c => some c
  | _ => none

/-- The connection that a task has put in its place and sees to. -/
def Stage.tends? : Stage → Option Nat
  | .replacing _ c _ | .adopting c | .watching c => some c
  | _ => none

/-- The connection that a call is going to give a watcher. -/
def Stage.sponsors? : Stage → Option Nat
  | .replacing .connecting c _ | .adopting c => some c
  | _ => none

/-- The connection that a step lets go of without closing it: one that a watcher waits to hold when
it ends or is replaced, and the one that is held when a watcher has lost another one, or the same. -/
def loses? (d : Dialer) : Label → Option Nat
  | .stop t => (d.active? t).bind Stage.carries?
  | .proceed t =>
    match d.active? t with
    | some .losing => d.held
    | some (.adopting _) => (d.watcher.bind d.active?).bind Stage.carries?
    | _ => none
  | _ => none

/-- The connection that is held and that a step leaves without a watcher: its watcher ends, or it is
replaced by the watcher of another connection, and no call is going to give it one. -/
def orphans? (d : Dialer) : Label → Option Nat
  | .stop t => ((d.active? t).bind Stage.tends?).filter fun c => decide (d.held = some c)
  | .proceed t =>
    match d.active? t with
    | some (.adopting fresh) =>
      d.held.filter fun c => decide (c ≠ fresh) && (List.range d.tasks.length).all fun u =>
        decide ((d.active? u).bind Stage.sponsors? ≠ some c)
    | _ => none
  | _ => none

/-- The connections that were let go of in a run. -/
def lost (history : List (Dialer × Label)) : List Nat :=
  history.filterMap fun p => p.1.loses? p.2

/-- The connections that were left without a watcher in a run. -/
def orphaned (history : List (Dialer × Label)) : List Nat :=
  history.filterMap fun p => p.1.orphans? p.2

/-! ## §4 Runs that are given by their labels -/

/-- The run of labels from a dialer on, if each of them is possible. -/
def replay (policy : Policy) :
    List (Dialer × Label) → Dialer → List Label → Option (List (Dialer × Label) × Dialer)
  | history, d, [] => some (history, d)
  | history, d, label :: rest =>
    match d.step policy label with
    | some (d', _) => replay policy ((d, label) :: history) d' rest
    | none => none

section

variable {policy : Policy} {history before later : List (Dialer × Label)} {d d' : Dialer}
  {labels : List Label}

/-- A run goes on with labels that are possible. -/
theorem Run.replay (h : Run policy (history ++ before) d)
    (hreplay : replay policy history d labels = some (later, d')) :
    Run policy (later ++ before) d' := by
  induction labels generalizing history d with
  | nil =>
    cases hreplay
    exact h
  | cons label rest ih =>
    rw [Dialer.replay] at hreplay
    cases hstep : d.step policy label with
    | none =>
      rw [hstep] at hreplay
      cases hreplay
    | some effect =>
      rw [hstep] at hreplay
      exact ih (.step label h hstep) hreplay

theorem run_of_replay (hrun : Run policy history d)
    (h : replay policy history d labels = some (later, d')) : Run policy later d' := by
  rw [← List.append_nil history] at hrun
  rw [← List.append_nil later]
  exact hrun.replay h

end

/-! ## §5 Later parts of runs -/

section

variable {policy : Policy} {history later before : List (Dialer × Label)} {d d₁ d' : Dialer}

/-- The steps of a run determine the dialer to which they lead. -/
theorem Run.unique (h : Run policy history d) (h' : Run policy history d') : d = d' := by
  cases h with
  | new =>
    cases h'
    rfl
  | step label _ hstep =>
    cases h' with
    | step _ _ hstep' =>
      rw [hstep] at hstep'
      cases hstep'
      rfl

theorem Run.earlier (h : Run policy (later ++ before) d) : ∃ d₁, Run policy before d₁ := by
  induction later generalizing d with
  | nil => exact ⟨d, h⟩
  | cons p later ih =>
    cases h with
    | step label hrun _ => exact ih hrun

/-- What holds of a dialer, and is kept by every step from there on, holds of every later one. -/
theorem Run.resume {P : List (Dialer × Label) → Dialer → Prop} (h₁ : Run policy before d₁)
    (h : Run policy (later ++ before) d) (here : P [] d₁)
    (next : ∀ {later d d' events} (label : Label), Run policy (later ++ before) d → P later d →
      d.step policy label = some (d', events) → P ((d, label) :: later) d') : P later d := by
  induction later generalizing d with
  | nil =>
    -- the later part begins with the dialer to which the steps before it lead
    exact h₁.unique h ▸ here
  | cons p later ih =>
    cases h with
    | step label hrun hstep => exact next label hrun (ih hrun) hstep

end

/-- Whether the call that is task `t` was begun in a part of a run, and what for. -/
def Called (history : List (Dialer × Label)) (t : Nat) (operation : Operation) : Prop :=
  ∃ d, (d, .call operation) ∈ history ∧ d.tasks.length = t

theorem called_iff {history : List (Dialer × Label)} {t : Nat} {operation : Operation} :
    Called history t operation ↔
      ∃ p ∈ history, p.2 = .call operation ∧ p.1.tasks.length = t := by
  constructor
  · rintro ⟨d, hmem, ht⟩
    exact ⟨_, hmem, rfl, ht⟩
  · rintro ⟨⟨d, label⟩, hmem, rfl, ht⟩
    exact ⟨d, hmem, ht⟩

instance {history : List (Dialer × Label)} {t : Nat} {operation : Operation} :
    Decidable (Called history t operation) := decidable_of_iff _ called_iff.symm

theorem called_cons {history : List (Dialer × Label)} {d : Dialer} {label : Label} {t : Nat}
    {operation : Operation} : Called ((d, label) :: history) t operation ↔
      label = .call operation ∧ d.tasks.length = t ∨ Called history t operation := by
  simp only [Called, List.mem_cons, Prod.mk.injEq]
  constructor
  · rintro ⟨e, ⟨rfl, rfl⟩ | hmem, ht⟩
    · exact .inl ⟨rfl, ht⟩
    · exact .inr ⟨e, hmem, ht⟩
  · rintro (⟨rfl, ht⟩ | ⟨e, hmem, ht⟩)
    · exact ⟨d, .inl ⟨rfl, rfl⟩, ht⟩
    · exact ⟨e, .inr hmem, ht⟩

theorem Called.append {later : List (Dialer × Label)} {t : Nat} {operation : Operation}
    (h : Called later t operation) (before : List (Dialer × Label)) :
    Called (later ++ before) t operation := by
  obtain ⟨d, hmem, ht⟩ := h
  exact ⟨d, List.mem_append_left before hmem, ht⟩

/-- What a part of a run showed to the outside, the last step first. -/
def shown (policy : Policy) (history : List (Dialer × Label)) : List Event :=
  history.flatMap fun p => ((p.1.step policy p.2).map Prod.snd).getD []

theorem shown_cons {policy : Policy} {history : List (Dialer × Label)} {d d' : Dialer}
    {label : Label} {events : List Event} (h : d.step policy label = some (d', events)) :
    shown policy ((d, label) :: history) = events ++ shown policy history := by
  simp [shown, h]

/-! ## §6 What can be decided -/

variable {d : Dialer} {t : Nat} {stage : Stage}

theorem active?_eq_some :
    d.active? t = some stage ↔ d.tasks[t]? = some ⟨stage, false⟩ := by
  unfold active?
  cases h : d.tasks[t]? with
  | none => simp
  | some task =>
    obtain ⟨stage', aborted⟩ := task
    cases aborted <;> simp

theorem exists_active? : (∃ t, d.active? t = some stage) ↔ Task.at stage ∈ d.tasks := by
  simp only [active?_eq_some]
  exact List.mem_iff_getElem?.symm

theorem atRest_iff :
    d.AtRest ↔ ∀ task ∈ d.tasks, task.aborted = false → task.stage.isQuiet = true := by
  constructor
  · rintro hrest ⟨stage, aborted⟩ hmem haborted
    cases haborted
    obtain ⟨t, ht⟩ := exists_active?.mpr hmem
    exact hrest t stage ht
  · intro hquiet t stage ht
    exact hquiet (Task.at stage) (exists_active?.mp ⟨t, ht⟩) rfl

instance : Decidable d.AtRest := decidable_of_iff _ atRest_iff.symm

theorem supervised_iff :
    d.Supervised ↔ ∀ c ∈ d.held, d.ended c = false → Task.at (.watching c) ∈ d.tasks := by
  unfold Supervised
  simp only [exists_active?]
  rfl

instance : Decidable d.Supervised := decidable_of_iff _ supervised_iff.symm

instance : Decidable d.NoneLeaked :=
  inferInstanceAs (Decidable (∀ c, c < d.connections.length → d.held ≠ some c →
    0 < d.closings c ∨ d.reported c = true))

end Courier.Dialer
