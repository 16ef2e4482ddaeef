import Courier.Proofs.Dialer.Run

/-!
# Views of a dialer

What matters for the supervision of connections: the stages of the tasks that were not aborted, the
connection that is held, the place of the watcher, and what has become of the connections. The parts
of which steps are made change this view in few ways.
-/

namespace Courier.Dialer

/-! ## §1 Views -/

/-- What matters for the supervision of connections. -/
structure View where
  active : Nat → Option Stage
  held : Option Nat
  watcher : Option Nat
  count : Nat
  closings : Nat → Nat
  ended : Nat → Bool

/-- The view of a dialer. -/
def view (d : Dialer) : View :=
  ⟨d.active?, d.held, d.watcher, d.connections.length, d.closings, d.ended⟩

namespace View

/-- A task comes to a stage. -/
def set (v : View) (t : Nat) (stage : Stage) : View :=
  { v with active := fun u => if u = t then some stage else v.active u }

/-- The connection that is held gives way to another one, or to none, and is closed. -/
def replace (v : View) (next : Option Nat) : View :=
  { v with
    held := next
    closings := fun c =>
      if v.held = some c ∧ c < v.count then v.closings c + 1 else v.closings c }

/-- The watcher of a new connection takes the place of the one before, which is aborted. -/
def appoint (v : View) (n t fresh : Nat) (outcome : Outcome) : View :=
  { v with
    active := fun u =>
      if u = n then some (.watching fresh)
      else if v.watcher = some u then none
      else if u = t then some (.returned outcome)
      else v.active u
    watcher := some n }

end View

/-! ## §2 Views of the parts of steps -/

variable {d : Dialer} {t : Nat} {stage : Stage}

theorem lt_of_active? (h : d.active? t = some stage) : t < d.tasks.length := by
  obtain ⟨hlt, _⟩ := List.getElem?_eq_some_iff.mp (active?_eq_some.mp h)
  exact hlt

/-- A call that is active before a step was begun earlier. -/
theorem called_of_active? {later : List (Dialer × Label)} {label : Label} {operation : Operation}
    (hcalled : Called ((d, label) :: later) t operation) (h : d.active? t = some stage) :
    Called later t operation := by
  rcases called_cons.mp hcalled with ⟨_, ht⟩ | hlater
  · exact absurd (ht ▸ lt_of_active? h) (Nat.lt_irrefl _)
  · exact hlater

theorem stage?_of_active? (h : d.active? t = some stage) : d.stage? t = some stage := by
  simp [stage?, active?_eq_some.mp h]

theorem isAborted_of_active? (h : d.active? t = some stage) : d.isAborted t = false := by
  simp [isAborted, active?_eq_some.mp h]

theorem step_proceed {policy : Policy} (h : d.active? t = some stage) :
    d.step policy (.proceed t) = d.proceed t := by
  simp [step, isAborted_of_active? h]

theorem step_answer {policy : Policy} (h : d.active? t = some stage)
    (result : Except BrokerError Unit) :
    d.step policy (.answer t result) = d.answered policy t result := by
  simp [step, isAborted_of_active? h]

theorem stage?_setStage (d : Dialer) (t u : Nat) (stage : Stage) :
    (d.setStage t stage).stage? u
      = if u = t then (d.stage? t).map fun _ => stage else d.stage? u := by
  unfold stage? setStage
  by_cases hu : u = t
  · subst hu
    cases h : d.tasks[u]? <;> simp [h]
  · simp [hu, Ne.symm hu]

theorem active?_setStage (d : Dialer) (t u : Nat) (stage : Stage) :
    (d.setStage t stage).active? u
      = if u = t then (d.active? t).map fun _ => stage else d.active? u := by
  unfold active? setStage
  simp only [List.getElem?_modify]
  by_cases hu : u = t
  · subst hu
    cases h : d.tasks[u]? with
    | none => simp
    | some task =>
      obtain ⟨stage', aborted⟩ := task
      cases aborted <;> simp
  · simp [hu, Ne.symm hu]

theorem view_setStage {stage' : Stage} (h : d.active? t = some stage) :
    (d.setStage t stage').view = d.view.set t stage' := by
  unfold view View.set
  congr 1
  funext u
  rw [active?_setStage, h]
  rfl

theorem active?_append (d : Dialer) (stage : Stage) (u : Nat) :
    ({ d with tasks := d.tasks ++ [Task.at stage] } : Dialer).active? u
      = if u = d.tasks.length then some stage else d.active? u := by
  unfold active?
  rcases Nat.lt_trichotomy u d.tasks.length with hlt | rfl | hgt
  · rw [if_neg (Nat.ne_of_lt hlt), List.getElem?_append_left hlt]
  · simp [Task.at]
  · have hnew : (d.tasks ++ [Task.at stage])[u]? = none := by
      apply List.getElem?_eq_none
      rw [List.length_append, List.length_singleton]
      exact hgt
    have hold : d.tasks[u]? = none := List.getElem?_eq_none (Nat.le_of_lt hgt)
    rw [if_neg (Nat.ne_of_gt hgt), hnew, hold]

theorem view_append (d : Dialer) (stage : Stage) :
    ({ d with tasks := d.tasks ++ [Task.at stage] } : Dialer).view
      = d.view.set d.tasks.length stage := by
  unfold view View.set
  congr 1
  funext u
  exact active?_append d stage u

theorem active?_length (d : Dialer) : d.active? d.tasks.length = none := by
  unfold active?
  rw [List.getElem?_eq_none (Nat.le_refl _)]

theorem view_dialed (d : Dialer) :
    ({ d with connections := d.connections ++ [Connection.fresh] } : Dialer).view
      = { d.view with count := d.view.count + 1 } := by
  -- a fresh connection reads like one that is not there
  have hnew : ∀ {α : Type} (f : Connection → α) (default : α), f Connection.fresh = default →
      ∀ c : Nat, ((d.connections ++ [Connection.fresh])[c]?.map f).getD default
        = (d.connections[c]?.map f).getD default := by
    intro α f default hf c
    rcases Nat.lt_trichotomy c d.connections.length with hlt | rfl | hgt
    · rw [List.getElem?_append_left hlt]
    · simp [hf]
    · have hnone : (d.connections ++ [Connection.fresh])[c]? = none := by
        apply List.getElem?_eq_none
        rw [List.length_append, List.length_singleton]
        exact hgt
      rw [hnone, List.getElem?_eq_none (Nat.le_of_lt hgt)]
  unfold view
  congr 1
  · exact List.length_append
  · funext c
    exact hnew Connection.closings 0 rfl c
  · funext c
    exact hnew Connection.ended false rfl c

theorem closings_changeConnection (d : Dialer) (c : Nat) :
    (d.changeConnection c fun x => { x with closings := x.closings + 1 }).closings
      = fun c' => if c = c' ∧ c' < d.connections.length then d.closings c' + 1
          else d.closings c' := by
  funext c'
  unfold closings changeConnection
  simp only [List.getElem?_modify]
  by_cases hc : c = c'
  · subst hc
    by_cases hlt : c < d.connections.length
    · simp [hlt]
    · simp [hlt]
  · simp [hc]

theorem closings_of_change (d : Dialer) (c : Nat) {f : Connection → Connection}
    (hf : ∀ x, (f x).closings = x.closings) : (d.changeConnection c f).closings = d.closings := by
  funext c'
  unfold closings changeConnection
  simp only [List.getElem?_modify]
  by_cases hc : c = c'
  · subst hc
    cases h : d.connections[c]? with
    | none => simp
    | some x => simp [hf]
  · simp [hc]

theorem ended_of_change (d : Dialer) (c : Nat) {f : Connection → Connection}
    (hf : ∀ x, (f x).ended = x.ended) : (d.changeConnection c f).ended = d.ended := by
  funext c'
  unfold ended changeConnection
  simp only [List.getElem?_modify]
  by_cases hc : c = c'
  · subst hc
    cases h : d.connections[c]? with
    | none => simp
    | some x => simp [hf]
  · simp [hc]

/-- The connection that is held is closed for the sake of another one, or of none. -/
theorem view_ask_close {stage' : Stage} {old : Nat} (hs : d.active? t = some stage)
    (hheld : d.held = some old) (next : Option Nat) :
    (({ d with held := next } : Dialer).ask t (.close old) stage').1.view
      = (d.view.set t stage').replace next := by
  have hclosings := closings_changeConnection d old
  have hended := ended_of_change d old (f := fun x => { x with closings := x.closings + 1 })
    fun _ => rfl
  let e : Dialer := { d with held := next }.changeConnection old fun x =>
    { x with closings := x.closings + 1 }
  have hset : (e.setStage t stage').view = e.view.set t stage' := view_setStage hs
  refine hset.trans ?_
  -- the connections, the closings and the ends of the two views are left to compare
  unfold view View.set View.replace
  congr 1
  · exact List.length_modify _ _ _
  · refine hclosings.trans ?_
    funext c
    simp only [hheld, Option.some.injEq]

theorem view_replace_none (hheld : d.held = none) (next : Option Nat) :
    ({ d with held := next } : Dialer).view = d.view.replace next := by
  -- nothing is held, so nothing is closed
  unfold view View.replace
  congr 1
  funext c
  simp only [hheld, reduceCtorEq, false_and, if_false]
  rfl

/-- Where a task goes when the connection that it carried is held and nothing is left to close. -/
def settledStage : Purpose → Nat → Stage
  | .connecting, fresh => .adopting fresh
  | .redialing _, fresh => .watching fresh

theorem view_settle (hs : d.active? t = some stage) (p : Purpose) (fresh : Nat) :
    (d.settle t p fresh).1.view = d.view.set t (settledStage p fresh) := by
  cases p with
  | connecting => exact view_setStage hs
  | redialing attempt => exact view_setStage hs

theorem active?_abort (d : Dialer) (w u : Nat) :
    ({ d with tasks := d.tasks.modify w fun x => { x with aborted := true } } : Dialer).active? u
      = if w = u then none else d.active? u := by
  unfold active?
  simp only [List.getElem?_modify]
  by_cases hw : w = u
  · subst hw
    cases d.tasks[w]? <;> simp
  · simp [hw]

private theorem active?_appointed (e : Dialer) (t fresh : Nat) (outcome : Outcome) (u : Nat)
    (ht : t ≠ e.tasks.length) :
    (({ e with
        tasks := e.tasks ++ [Task.at (.watching fresh)]
        watcher := some e.tasks.length } : Dialer).releaseWatcher.setStage t
          (.returned outcome)).active? u
      = if u = e.tasks.length then some (.watching fresh)
        else if u = t then (e.active? t).map fun _ => .returned outcome
        else e.active? u := by
  have happend := active?_append e (.watching fresh)
  have hlater : ∀ u, (({ e with
      tasks := e.tasks ++ [Task.at (.watching fresh)]
      watcher := some e.tasks.length } : Dialer).releaseWatcher).active? u
        = if u = e.tasks.length then some (.watching fresh) else e.active? u := happend
  rw [active?_setStage, hlater, hlater, if_neg ht]
  by_cases hu : u = t
  · subst hu
    rw [if_pos rfl, if_neg ht, if_pos rfl]
  · rw [if_neg hu, if_neg hu]

/-- The new watcher of a connection takes its place, and the call that has brought it returns. -/
theorem view_adopt {fresh : Nat} (hs : d.active? t = some stage) :
    (d.adopt t fresh).1.view
      = d.view.appoint d.tasks.length t fresh (.done (.ok ())) := by
  have ht : t ≠ d.tasks.length := Nat.ne_of_lt (lt_of_active? hs)
  cases hw : d.watcher with
  | none =>
    have hadopt : (d.adopt t fresh).1 = ({ d with
        tasks := d.tasks ++ [Task.at (.watching fresh)]
        watcher := some d.tasks.length } : Dialer).releaseWatcher.setStage t
          (.returned (.done (.ok ()))) := by
      simp only [adopt, hw, finish]
    rw [hadopt]
    unfold view View.appoint
    congr 1
    funext u
    refine (active?_appointed d t fresh _ u ht).trans ?_
    simp only [hw, reduceCtorEq, if_false, hs, Option.map_some]
  | some w =>
    -- the watcher before is aborted first, in `e`, and then the new one is appointed
    let e : Dialer := { d with tasks := d.tasks.modify w fun x => { x with aborted := true } }
    have hlength : e.tasks.length = d.tasks.length := List.length_modify _ _ _
    have hadopt : (d.adopt t fresh).1 = ({ e with
        tasks := e.tasks ++ [Task.at (.watching fresh)]
        watcher := some e.tasks.length } : Dialer).releaseWatcher.setStage t
          (.returned (.done (.ok ()))) := by
      rw [hlength]
      simp only [adopt, hw, finish]
      rfl
    rw [hadopt]
    unfold view View.appoint
    rw [← hlength]
    congr 1
    funext u
    refine (active?_appointed e t fresh _ u (hlength ▸ ht)).trans ?_
    have habort : ∀ u, e.active? u = if w = u then none else d.active? u := active?_abort d w
    rw [habort, habort, hs]
    simp only [hw, Option.some.injEq]
    -- the call itself may have been in the place of the watcher: then it is aborted, too
    by_cases hn : u = e.tasks.length
    · rw [if_pos hn, if_pos hn]
    · rw [if_neg hn, if_neg hn]
      by_cases hu : u = t
      · subst hu
        rw [if_pos rfl]
        by_cases hwu : w = u
        · rw [if_pos hwu, if_pos hwu]
          rfl
        · rw [if_neg hwu, if_neg hwu, if_pos rfl]
          rfl
      · rw [if_neg hu, if_neg hu]

end Courier.Dialer
