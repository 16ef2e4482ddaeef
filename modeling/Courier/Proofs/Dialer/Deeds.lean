import Courier.Proofs.Dialer.View
import Courier.Proofs.Lock

/-!
# Deeds of tasks

What a step of a dialer can do, said once and in full. A task goes on from one stage to another, and
the two stages determine the rest: what becomes of the connection that is held, of the two locks and
of the order to end, and what the task asks for. `steps_of_step` reads this off the step; every law
about runs that is not one of the ledger is derived from it.
-/

namespace Courier.Dialer

/-! ## §1 What a stage stands for -/

namespace Stage

/-- What a task at a stage has asked the connector for, if it waits for the answer. -/
def awaits? : Stage → Option Request
  | .dialing _ => some .dial
  | .replacing _ _ old | .clearingOut old | .closing old => some (.close old)
  | .opening c => some (.openSession c)
  | _ => none

/-- What a task at a stage has to do with the lock of the connection. -/
def heldStake : Stage → Lock.Stake
  | .installing _ _ | .discarding | .seeking | .checking | .emptying | .losing => .wants
  | .clearingOut _ => .keeps
  | _ => .none

/-- What a task at a stage has to do with the lock of the watcher. -/
def watcherStake : Stage → Lock.Stake
  | .adopting _ | .stopping => .wants
  | .joining _ => .keeps
  | _ => .none

/-- What is held when a task has gone on from a stage. -/
def heldAfter (held : Option Nat) : Stage → Option Nat
  | .installing _ c => some c
  | .discarding | .emptying | .losing => none
  | _ => held

end Stage

def Event.request? : Event → Option (Nat × Request)
  | .asked t r => some (t, r)
  | _ => none

/-- The requests among events, each with the task that asks. -/
def requests (events : List Event) : List (Nat × Request) :=
  events.filterMap Event.request?

/-! ## §2 Deeds -/

/-- How a task goes on from one stage to another. -/
inductive Goes (policy : Policy) (d : Dialer) : Stage → Stage → Prop where
  | failed (c : Nat) (x : Connection) (e : BrokerError) : d.connections[c]? = some x →
      x.pending = some e → Goes policy d (.watching c) .losing
  | lost : Goes policy d .losing (.dialing (.redialing 0))
  | paused (attempt : Nat) : (policy attempt).stop = false →
      Goes policy d (.dialing (.redialing attempt)) (.pausing attempt (policy attempt).wait)
  | again (attempt : Nat) (wait : Duration) :
      Goes policy d (.pausing attempt wait) (.dialing (.redialing (oneMoreAttempt attempt)))
  | refused (e : BrokerError) :
      Goes policy d (.dialing .connecting) (.returned (.done (.error e)))
  | dialed (p : Purpose) : Goes policy d (.dialing p) (.installing p d.connections.length)
  | replaces (p : Purpose) (c old : Nat) : d.held = some old →
      Goes policy d (.installing p c) (.replacing p c old)
  | holds (p : Purpose) (c : Nat) : d.held = none →
      Goes policy d (.installing p c) (settledStage p c)
  | replaced (p : Purpose) (c old : Nat) : Goes policy d (.replacing p c old) (settledStage p c)
  | discards (old : Nat) : d.held = some old → Goes policy d .discarding (.clearingOut old)
  | bare : d.held = none → Goes policy d .discarding (.dialing .connecting)
  | discarded (old : Nat) : Goes policy d (.clearingOut old) (.dialing .connecting)
  | finds (c : Nat) : d.held = some c → Goes policy d .seeking (.opening c)
  | misses : d.held = none → Goes policy d .seeking (.returned (.session (.error .notConnected)))
  | opened (c : Nat) (result : Except BrokerError Unit) :
      Goes policy d (.opening c) (.returned (.session (result.map fun _ => c)))
  | checked : Goes policy d .checking (.returned (.connected d.held.isSome))
  | joins (w : Nat) : d.watcher = some w → Goes policy d .stopping (.joining w)
  | alone : d.watcher = none → Goes policy d .stopping .emptying
  | joined (w : Nat) : d.hasEnded w = true → Goes policy d (.joining w) .emptying
  | closes (c : Nat) : d.held = some c → Goes policy d .emptying (.closing c)
  | closed (c : Nat) (result : Except BrokerError Unit) :
      Goes policy d (.closing c) (.returned (.done result))
  | empty : d.held = none → Goes policy d .emptying (.returned (.done (.ok ())))

/-- A task has come to a stage, and the others are as they were. -/
structure Puts (d d' : Dialer) (t : Nat) (stage : Stage) : Prop where
  here : d'.tasks[t]? = some (Task.at stage)
  others : ∀ u, u ≠ t → d'.tasks[u]? = d.tasks[u]?

/-- What becomes of what the tasks share when one of them goes on from a stage to another: the two
stages determine it. -/
structure Shares (d : Dialer) (t : Nat) (a b : Stage) (d' : Dialer) : Prop where
  shutdown : d'.shutdown = (d.shutdown && decide (b ≠ .dialing .connecting))
  generation : d'.generation = d.generation + a.carries?.toList.length
  held : d'.held = a.heldAfter d.held
  watcher : d'.watcher = if a = .stopping then none else d.watcher
  heldLock : d.heldLock.Use t a.heldStake b.heldStake d'.heldLock
  watcherLock : d.watcherLock.Use t a.watcherStake b.watcherStake d'.watcherLock

/-- A label gives a task what it waits for at a stage: the answer of the connector, or anything
else. -/
def Label.Drives (label : Label) (t : Nat) (a : Stage) : Prop :=
  if a.awaits? = none then label = .proceed t else ∃ result, label = .answer t result

theorem Label.Drives.proceeds_or_answers {label : Label} {t : Nat} {a : Stage}
    (h : label.Drives t a) : a.awaits? = none ∧ label = .proceed t ∨
      a.awaits? ≠ none ∧ ∃ result, label = .answer t result := by
  unfold Drives at h
  split at h
  · rename_i hnone
    exact .inl ⟨hnone, h⟩
  · rename_i hsome
    exact .inr ⟨hsome, h⟩

/-- A task goes on from one stage to another. -/
structure Deed (policy : Policy) (d : Dialer) (label : Label) (t : Nat) (a b : Stage) (d' : Dialer)
    (events : List Event) : Prop extends Shares d t a b d' where
  active : d.active? t = some a
  goes : Goes policy d a b
  driven : label.Drives t a
  puts : Puts d d' t b
  closings : (∀ c, d.held = some c → c < d.connections.length) →
    ∀ c, d'.closings c = d.closings c + if b.awaits? = some (.close c) then 1 else 0
  asked : requests events = (b.awaits?.map fun r => (t, r)).toList
  returned : ∀ u o, .returned u o ∈ events ↔ u = t ∧ b = .returned o

/-- Why a watcher ends. -/
inductive Ends (policy : Policy) (d : Dialer) (t : Nat) : Label → Prop where
  | stopped (a : Stage) : d.active? t = some a → a.isStoppable = true → d.shutdown = true →
      Ends policy d t (.stop t)
  | hungUp (c : Nat) : d.active? t = some (.watching c) → d.ended c = true →
      Ends policy d t (.proceed t)
  | gaveUp (attempt : Nat) (e : BrokerError) : d.active? t = some (.dialing (.redialing attempt)) →
      (policy attempt).stop = true → Ends policy d t (.answer t (.error e))
  | dropped : d.isAborted t = true → d.hasEnded t = false → Ends policy d t (.drop t)

/-- What a step can do. -/
inductive Steps (policy : Policy) (d : Dialer) : Label → Dialer → List Event → Prop where
  | call (operation : Operation) :
      Steps policy d (.call operation) (d.begin operation).1 (d.begin operation).2
  | deed (label : Label) (t : Nat) (a b : Stage) (d' : Dialer) (events : List Event) :
      Deed policy d label t a b d' events → Steps policy d label d' events
  | adopt (t c : Nat) : d.active? t = some (.adopting c) → d.watcherLock.isHeldBy t = true →
      Steps policy d (.proceed t) (d.adopt t c).1 (d.adopt t c).2
  | exit (label : Label) (t : Nat) (events : List Event) : Ends policy d t label →
      requests events = [] → (∀ u o, .returned u o ∉ events) →
      Steps policy d label (d.exit t) events
  | report (c : Nat) (e : BrokerError) : Steps policy d (.report c e)
      (d.changeConnection c fun x =>
        { x with pending := if x.reported then x.pending else some e, reported := true }) []
  | hangUp (c : Nat) : Steps policy d (.hangUp c)
      (d.changeConnection c fun x => { x with ended := true }) []

/-! ## §3 Deeds of the parts of steps -/

section

variable {policy : Policy} {d d' : Dialer} {label : Label} {t : Nat} {a b : Stage}
  {effect : Effect}

theorem Puts.active? {stage : Stage} (h : Puts d d' t stage) (u : Nat) :
    d'.active? u = if u = t then some stage else d.active? u := by
  unfold Dialer.active?
  by_cases hu : u = t
  · rw [hu, h.here]
    simp [Task.at]
  · rw [h.others u hu, if_neg hu]

theorem Puts.stage? {stage : Stage} (h : Puts d d' t stage) (u : Nat) :
    d'.stage? u = if u = t then some stage else d.stage? u := by
  unfold Dialer.stage?
  by_cases hu : u = t
  · rw [hu, h.here]
    simp [Task.at]
  · rw [h.others u hu, if_neg hu]

/-- A task that was not aborted comes to a stage. -/
theorem puts_of_tasks {stage : Stage} (hs : d.active? t = some a)
    (htasks : d'.tasks = (d.setStage t stage).tasks) : Puts d d' t stage := by
  have htask : d.tasks[t]? = some ⟨a, false⟩ := active?_eq_some.mp hs
  refine ⟨?_, fun u hu => ?_⟩
  · simp [htasks, setStage, htask, Task.at]
  · simp [htasks, setStage, Ne.symm hu]

private theorem kept {ordered : Bool} (hb : b ≠ .dialing .connecting) :
    ordered = (ordered && decide (b ≠ .dialing .connecting)) := by
  simp [hb]

section

variable {e : Dialer} {request : Request} {events : List Event} {outcome : Outcome}
  (hs : d.active? t = some a) (hgoes : Goes policy d a b) (hdriven : label.Drives t a)
  (hshares : Shares d t a b e) (htasks : e.tasks = d.tasks)

include hs hgoes hdriven hshares htasks

/-- A task goes on and asks the connector for something. Only what is held is asked to be closed. -/
private theorem deed_of_ask (hconnections : e.connections = d.connections)
    (hb : b.awaits? = some request) (hheld : ∀ c, request = .close c → d.held = some c) :
    Deed policy d label t a b (e.ask t request b).1 (e.ask t request b).2 := by
  have hsame : e.closings = d.closings := by
    funext c
    simp [closings, hconnections]
  have hreturned : ∀ o, b ≠ .returned o := by
    rintro o rfl
    cases hb
  cases request with
  | close old =>
    refine { hshares with
      active := hs, goes := hgoes, driven := hdriven, closings := ?_
      puts := puts_of_tasks hs (by simp only [ask, setStage, changeConnection, htasks])
      asked := by simp [ask, requests, Event.request?, hb]
      returned := by simp [ask, hreturned] }
    -- only a connection that exists counts the requests, so it matters that the old one does
    intro hlt c
    have hclosings : (e.ask t (.close old) b).1.closings = fun c' =>
        if old = c' ∧ c' < e.connections.length then e.closings c' + 1 else e.closings c' :=
      closings_changeConnection e old
    simp only [hclosings, hsame, hconnections, hb]
    by_cases hc : old = c
    · subst hc
      simp [hlt old (hheld old rfl)]
    · simp [hc]
  | dial | openSession _ =>
    exact { hshares with
      active := hs, goes := hgoes, driven := hdriven
      puts := puts_of_tasks hs (by simp [ask, setStage, htasks])
      closings := fun _ c => by
        simp only [hb, Option.some.injEq, reduceCtorEq, if_false, Nat.add_zero]
        exact congrFun hsame c
      asked := by simp [ask, requests, Event.request?, hb]
      returned := by simp [ask, hreturned] }

/-- A task goes on to wait for something else than the connector. -/
private theorem deed_of_wait (hclosings : e.closings = d.closings)
    (hb : b.awaits? = none) (hreturned : ∀ o, b ≠ .returned o) (hasked : requests events = [])
    (hevents : ∀ u o, .returned u o ∉ events) :
    Deed policy d label t a b (e.setStage t b) events :=
  { hshares with
    active := hs, goes := hgoes, driven := hdriven
    puts := puts_of_tasks hs (by simp [setStage, htasks])
    closings := fun _ c => by
      simp only [hb, reduceCtorEq, if_false, Nat.add_zero]
      exact congrFun hclosings c
    asked := by simp [hasked, hb]
    returned := by simp [hreturned, hevents] }

/-- A call returns. -/
private theorem deed_of_return (hclosings : e.closings = d.closings)
    (hb : b = .returned outcome) :
    Deed policy d label t a b (e.finish t outcome).1 (e.finish t outcome).2 := by
  subst hb
  exact { hshares with
    active := hs, goes := hgoes, driven := hdriven
    puts := puts_of_tasks hs (by simp [finish, setStage, htasks])
    closings := fun _ c => by
      simp only [Stage.awaits?, reduceCtorEq, if_false, Nat.add_zero]
      exact congrFun hclosings c
    asked := rfl
    returned := by simp [finish, eq_comm] }

end

/-- Once a new connection is held and nothing is left to close, a call needs the lock of the
watcher, and a watcher needs nothing. -/
private theorem deed_of_settle {e : Dialer} {p : Purpose} {c : Nat} (hs : d.active? t = some a)
    (hgoes : Goes policy d a (settledStage p c)) (hdriven : label.Drives t a)
    (hshares : Shares d t a (.watching c) e) (htasks : e.tasks = d.tasks)
    (hclosings : e.closings = d.closings) (hlock : e.watcherLock = d.watcherLock)
    (hstake : a.watcherStake = .none) :
    Deed policy d label t a (settledStage p c) (e.settle t p c).1 (e.settle t p c).2 := by
  cases p with
  | redialing attempt =>
    exact deed_of_wait hs hgoes hdriven hshares htasks hclosings rfl nofun rfl
      (by simp [settle])
  | connecting =>
    have hrequest : Lock.Use t d.watcherLock a.watcherStake .wants (e.watcherLock.request t) := by
      rw [hlock, hstake]
      exact .request _
    exact deed_of_wait (e := { e with watcherLock := e.watcherLock.request t }) hs hgoes hdriven
      { hshares with watcherLock := hrequest } htasks hclosings rfl nofun rfl (by simp [settle])

private theorem deed_of_install {p : Purpose} {c : Nat} (hs : d.active? t = some (.installing p c))
    (hl : d.heldLock.isHeldBy t = true) :
    ∃ b, Deed policy d (.proceed t) t (.installing p c) b (d.install t p c).1
      (d.install t p c).2 := by
  unfold install
  cases hheld : d.held with
  | some old =>
    exact ⟨_, deed_of_ask hs (.replaces p c old hheld) rfl
      ⟨kept nofun, rfl, rfl, rfl, .release _ _ (.inr hl), .pass _ _⟩ rfl rfl rfl
      (by rintro _ ⟨⟩; exact hheld)⟩
  | none =>
    exact ⟨_, deed_of_settle hs (.holds p c hheld) rfl
      ⟨kept nofun, rfl, rfl, rfl, .release _ _ (.inr hl), .pass _ _⟩ rfl rfl rfl rfl⟩

private theorem deed_of_proceedHeld (hs : d.active? t = some a)
    (hl : d.heldLock.isHeldBy t = true) (h : d.proceedHeld t a = some effect) :
    ∃ b, Deed policy d (.proceed t) t a b effect.1 effect.2 := by
  unfold proceedHeld at h
  cases a with
  | installing p c =>
    cases h
    exact deed_of_install hs hl
  | discarding =>
    cases hheld : d.held with
    | some old =>
      -- the lock is kept until the connection is closed
      rw [hheld] at h
      cases h
      exact ⟨_, deed_of_ask hs (.discards old hheld) rfl
        ⟨kept nofun, rfl, rfl, rfl, .keep _ hl, .pass _ _⟩ rfl rfl rfl
        (by rintro _ ⟨⟩; exact hheld)⟩
    | none =>
      rw [hheld] at h
      cases h
      exact ⟨_, deed_of_ask hs (.bare hheld) rfl
        ⟨(Bool.and_false _).symm, rfl, hheld, rfl, .release _ _ (.inr hl), .pass _ _⟩ rfl rfl rfl
        nofun⟩
  | seeking =>
    cases hheld : d.held with
    | some c =>
      rw [hheld] at h
      cases h
      exact ⟨_, deed_of_ask hs (.finds c hheld) rfl
        ⟨kept nofun, rfl, rfl, rfl, .release _ _ (.inr hl), .pass _ _⟩ rfl rfl rfl nofun⟩
    | none =>
      rw [hheld] at h
      cases h
      exact ⟨_, deed_of_return hs (.misses hheld) rfl
        ⟨kept nofun, rfl, rfl, rfl, .release _ _ (.inr hl), .pass _ _⟩ rfl rfl rfl⟩
  | checking =>
    cases h
    exact ⟨_, deed_of_return hs .checked rfl
      ⟨kept nofun, rfl, rfl, rfl, .release _ _ (.inr hl), .pass _ _⟩ rfl rfl rfl⟩
  | emptying =>
    cases hheld : d.held with
    | some c =>
      simp only [hheld] at h
      cases h
      exact ⟨_, deed_of_ask hs (.closes c hheld) rfl
        ⟨kept nofun, rfl, rfl, rfl, .release _ _ (.inr hl), .pass _ _⟩ rfl rfl rfl
        (by rintro _ ⟨⟩; exact hheld)⟩
    | none =>
      simp only [hheld] at h
      cases h
      exact ⟨_, deed_of_return hs (.empty hheld) rfl
        ⟨kept nofun, rfl, rfl, rfl, .release _ _ (.inr hl), .pass _ _⟩ rfl rfl rfl⟩
  | losing =>
    cases h
    exact ⟨_, deed_of_ask hs .lost rfl
      ⟨kept nofun, rfl, rfl, rfl, .release _ _ (.inr hl), .pass _ _⟩ rfl rfl rfl nofun⟩
  | _ => cases h

private theorem deed_of_stopping (hs : d.active? t = some .stopping)
    (hl : d.watcherLock.isHeldBy t = true) (h : d.proceedWatcher t .stopping = some effect) :
    ∃ b, Deed policy d (.proceed t) t .stopping b effect.1 effect.2 := by
  unfold proceedWatcher at h
  cases hw : d.watcher with
  | some w =>
    simp only [hw] at h
    cases h
    exact ⟨_, deed_of_wait hs (.joins w hw) rfl
      ⟨kept nofun, rfl, rfl, rfl, .pass _ _, .keep _ hl⟩ rfl rfl rfl nofun rfl (by simp)⟩
  | none =>
    simp only [hw] at h
    cases h
    exact ⟨_, deed_of_wait hs (.alone hw) rfl
      ⟨kept nofun, rfl, rfl, hw, .request _, .release _ _ (.inr hl)⟩ rfl rfl rfl nofun rfl
      (by simp)⟩

private theorem steps_of_notice {c : Nat} (hs : d.active? t = some (.watching c))
    (h : d.notice t c = some effect) : Steps policy d (.proceed t) effect.1 effect.2 := by
  unfold notice at h
  cases hx : d.connections[c]? with
  | none => simp [hx] at h
  | some x =>
    simp only [hx] at h
    cases hp : x.pending with
    | some e =>
      simp only [hp] at h
      cases h
      have hsame : (d.changeConnection c fun x => { x with pending := none }).closings
          = d.closings :=
        closings_of_change d c fun _ => rfl
      exact .deed _ t _ _ _ _ (deed_of_wait hs (.failed c x e hx hp) rfl
        ⟨kept nofun, rfl, rfl, rfl, .request _, .pass _ _⟩ rfl hsame rfl nofun rfl (by simp))
    | none =>
      simp only [hp] at h
      cases he : x.ended with
      | false => simp [he] at h
      | true =>
        simp only [he, if_true] at h
        cases h
        refine .exit _ t _ (.hungUp c hs ?_) rfl (by simp)
        simp [ended, hx, he]

private theorem steps_of_proceed (hs : d.active? t = some a)
    (h : d.proceed t = some effect) : Steps policy d (.proceed t) effect.1 effect.2 := by
  have deed (hdeed : ∃ b, Deed policy d (.proceed t) t a b effect.1 effect.2) :
      Steps policy d (.proceed t) effect.1 effect.2 := by
    obtain ⟨b, hdeed⟩ := hdeed
    exact .deed _ t a b _ _ hdeed
  unfold proceed at h
  rw [stage?_of_active? hs] at h
  split at h
  · rename_i heq
    cases heq
  · rename_i c heq
    cases heq
    exact steps_of_notice hs h
  · -- a closing call waits for a watcher, and gives back its lock when the watcher has ended
    rename_i w heq
    cases heq
    split at h
    · rename_i hended
      cases h
      exact deed ⟨_, deed_of_wait hs (.joined w hended) rfl
        ⟨kept nofun, rfl, rfl, rfl, .request _, .release _ _ (.inl rfl)⟩ rfl rfl rfl nofun rfl
        (by simp)⟩
    · cases h
  · rename_i attempt wait heq
    cases heq
    cases h
    exact deed ⟨_, deed_of_ask hs (.again attempt wait) rfl
      ⟨kept nofun, rfl, rfl, rfl, .pass _ _, .pass _ _⟩ rfl rfl rfl nofun⟩
  · rename_i heq
    cases heq
    split at h
    · rename_i hl
      exact deed (deed_of_proceedHeld hs hl h)
    · split at h
      · rename_i hl
        cases a with
        | adopting c =>
          cases h
          exact .adopt t c hs hl
        | stopping => exact deed (deed_of_stopping hs hl h)
        | _ => cases h
      · cases h

private theorem steps_of_answered {result : Except BrokerError Unit} (hs : d.active? t = some a)
    (h : d.answered policy t result = some effect) :
    Steps policy d (.answer t result) effect.1 effect.2 := by
  unfold answered at h
  rw [stage?_of_active? hs] at h
  split at h
  · rename_i p heq
    cases heq
    cases h
    have hsame : ({ d with connections := d.connections ++ [Connection.fresh] } : Dialer).closings
        = d.closings := congrArg View.closings (view_dialed d)
    exact .deed _ t _ _ _ _ (deed_of_wait hs (.dialed p) ⟨_, rfl⟩
      ⟨kept nofun, rfl, rfl, rfl, .request _, .pass _ _⟩ rfl hsame rfl nofun rfl (by simp))
  · -- a dial has failed: the call returns, and the watcher goes on or gives up
    rename_i p e heq
    cases heq
    cases p with
    | connecting =>
      cases h
      exact .deed _ t _ _ _ _ (deed_of_return hs (.refused e) ⟨_, rfl⟩
        ⟨kept nofun, rfl, rfl, rfl, .pass _ _, .pass _ _⟩ rfl rfl rfl)
    | redialing attempt =>
      simp only [refuse, Option.some.injEq] at h
      split at h
      · rename_i hstop
        cases h
        exact .exit _ t _ (.gaveUp attempt e hs hstop) rfl (by simp)
      · rename_i hstop
        cases h
        exact .deed _ t _ _ _ _ (deed_of_wait hs (.paused attempt (Bool.not_eq_true _ ▸ hstop))
          ⟨_, rfl⟩ ⟨kept nofun, rfl, rfl, rfl, .pass _ _, .pass _ _⟩ rfl rfl rfl nofun rfl
          (by simp))
  · -- the old connection is closed, or it could not be closed
    rename_i p c old heq
    cases heq
    cases h
    exact .deed _ t _ _ _ _ (deed_of_settle hs (.replaced p c old) ⟨_, rfl⟩
      ⟨kept nofun, rfl, rfl, rfl, .pass _ _, .pass _ _⟩ rfl rfl rfl rfl)
  · rename_i old heq
    cases heq
    cases h
    exact .deed _ t _ _ _ _ (deed_of_ask hs (.discarded old) ⟨_, rfl⟩
      ⟨(Bool.and_false _).symm, rfl, rfl, rfl, .release _ _ (.inl rfl), .pass _ _⟩ rfl rfl rfl
      nofun)
  · rename_i c heq
    cases heq
    cases h
    exact .deed _ t _ _ _ _ (deed_of_return hs (.opened c _) ⟨_, rfl⟩
      ⟨kept nofun, rfl, rfl, rfl, .pass _ _, .pass _ _⟩ rfl rfl rfl)
  · rename_i c heq
    cases heq
    cases h
    exact .deed _ t _ _ _ _ (deed_of_return hs (.closed c _) ⟨_, rfl⟩
      ⟨kept nofun, rfl, rfl, rfl, .pass _ _, .pass _ _⟩ rfl rfl rfl)
  · cases h

private theorem exists_active (hstage : d.stage? t ≠ none) (haborted : ¬d.isAborted t = true) :
    ∃ a, d.active? t = some a := by
  unfold stage? at hstage
  unfold isAborted at haborted
  unfold active?
  cases htask : d.tasks[t]? with
  | none => simp [htask] at hstage
  | some task =>
    simp only [htask, Option.map_some, Option.getD_some] at haborted
    exact ⟨task.stage, by simp [haborted]⟩

/-- Whatever a dialer does in a step is one of these. -/
theorem steps_of_step (h : d.step policy label = some effect) :
    Steps policy d label effect.1 effect.2 := by
  unfold step at h
  cases label with
  | call operation =>
    cases h
    exact .call operation
  | proceed t =>
    dsimp only at h
    split at h
    · cases h
    · -- the task exists and was not aborted: any other one would take no step
      rename_i haborted
      obtain ⟨a, hs⟩ := exists_active (t := t) (by
        intro hnone
        simp [proceed, hnone] at h) haborted
      exact steps_of_proceed hs h
  | answer t result =>
    dsimp only at h
    split at h
    · cases h
    · rename_i haborted
      obtain ⟨a, hs⟩ := exists_active (t := t) (by
        intro hnone
        simp [answered, hnone] at h) haborted
      exact steps_of_answered hs h
  | stop t =>
    dsimp only at h
    split at h
    · rename_i a hstage
      split at h
      · rename_i hstop
        simp only [Bool.and_eq_true, Bool.not_eq_true'] at hstop
        obtain ⟨a', hs⟩ := exists_active (d := d) (t := t) (by simp [hstage]) (by simp [hstop.2])
        have heq : a' = a := Option.some.inj ((stage?_of_active? hs).symm.trans hstage)
        cases h
        exact .exit _ t _ (.stopped a (heq ▸ hs) hstop.1.2 hstop.1.1) rfl (by simp)
      · cases h
    · cases h
  | drop t =>
    dsimp only at h
    split at h
    · rename_i hdrop
      simp only [Bool.and_eq_true, Bool.not_eq_true'] at hdrop
      cases h
      exact .exit _ t _ (.dropped hdrop.1 hdrop.2) rfl (by simp)
    · cases h
  | report c e =>
    dsimp only at h
    split at h
    · split at h
      · cases h
      · cases h
        exact .report c e
    · cases h
  | hangUp c =>
    dsimp only at h
    split at h
    · cases h
      exact .hangUp c
    · cases h

end

end Courier.Dialer
