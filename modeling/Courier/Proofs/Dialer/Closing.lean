import Courier.Proofs.Dialer.Down

/-!
# Closing a dialer

Calls to connect, to reconnect and to close manage a dialer. If no two of them overlap, a dialer is
down when a closing call returns, wherever the watcher was when the call was begun and whatever the
connector answers: the call has waited for the watcher, nobody else could bring a connection
meanwhile, and what was still held is closed.
-/

namespace Courier.Dialer

variable {policy : Policy} {history later : List (Dialer × Label)} {d d' d'' : Dialer}
  {label : Label} {events : List Event} {t u c w : Nat} {a b : Stage} {operation : Operation}

/-! ## §1 Calls in turn -/

/-- Whether a call is one to connect, to reconnect or to close. -/
def Operation.manages : Operation → Bool
  | .connect | .reconnect | .close => true
  | _ => false

/-- Whether a stage is one of a call to connect, to reconnect or to close that has not returned. -/
def Stage.isManaging : Stage → Bool
  | .dialing .connecting | .installing .connecting _ | .replacing .connecting _ _ => true
  | .adopting _ | .discarding | .clearingOut _ => true
  | .stopping | .joining _ | .emptying | .closing _ => true
  | _ => false

/-- Calls to connect, to reconnect and to close do not overlap: when one begins, the ones before
have returned. -/
def InTurn (history : List (Dialer × Label)) : Prop :=
  ∀ d operation, (d, .call operation) ∈ history → operation.manages = true →
    ∀ t a, d.active? t = some a → a.isManaging = false

/-- Whether a label begins a call to connect, to reconnect or to close. -/
def Label.manages : Label → Bool
  | .call operation => operation.manages
  | _ => false

theorem inTurn_iff : InTurn history ↔ ∀ p ∈ history, p.2.manages = true →
    ∀ task ∈ p.1.tasks, task.aborted = false → task.stage.isManaging = false := by
  constructor
  · rintro hturn ⟨d, label⟩ hmem hmanages ⟨stage, aborted⟩ htask haborted
    cases label with
    | call operation =>
      cases haborted
      obtain ⟨t, ht⟩ := exists_active?.mpr htask
      exact hturn d operation hmem hmanages t stage ht
    | _ => cases hmanages
  · intro hturn d operation hmem hmanages t a hs
    exact hturn _ hmem hmanages _ (exists_active?.mp ⟨t, hs⟩) rfl

instance : Decidable (InTurn history) := decidable_of_iff _ inTurn_iff.symm

/-- Whether a stage is one of a closing call that has taken the place of the watcher. -/
def Stage.isLeaving : Stage → Bool
  | .joining _ | .emptying | .closing _ => true
  | _ => false

/-- What holds of a dialer whose calls come in turn. -/
structure Managed (d : Dialer) : Prop where
  single : ∀ t u a b, d.active? t = some a → d.active? u = some b → a.isManaging = true →
    b.isManaging = true → t = u
  vacant : ∀ t a, d.active? t = some a → a.isLeaving = true → d.watcher = none
  empty : ∀ t c, d.active? t = some (.closing c) → d.held = none

private theorem managed_new : Managed .new := by
  have hnone : ∀ t a, Dialer.new.active? t ≠ some a := fun t a hs =>
    absurd (lt_of_active? hs) (Nat.not_lt_zero t)
  exact {
    single := fun t _ a _ hs => absurd hs (hnone t a)
    vacant := fun t a hs => absurd hs (hnone t a)
    empty := fun t c hs => absurd hs (hnone t _) }

theorem Goes.managing (h : Goes policy d a b) (hb : b.isManaging = true) : a.isManaging = true := by
  cases h with
  | dialed p | replaces p | holds p | replaced p =>
    cases p with
    | connecting => rfl
    | redialing _ => cases hb
  | failed | lost | paused | again | finds | misses | opened | checked => cases hb
  | _ => rfl

theorem Goes.leaving (h : Goes policy d a b) (hb : b.isLeaving = true) :
    a = .stopping ∨ a.isLeaving = true := by
  cases h with
  | joins | alone => exact .inl rfl
  | joined | closes => exact .inr rfl
  | holds p | replaced p => cases p <;> cases hb
  | _ => cases hb

theorem Goes.closing (h : Goes policy d a (.closing c)) : a = .emptying := by
  generalize hb : Stage.closing c = b at h
  cases h with
  | closes => rfl
  | holds p | replaced p => cases p <;> cases hb
  | _ => cases hb

theorem Stage.isManaging_of_isLeaving (h : a.isLeaving = true) : a.isManaging = true := by
  cases a with
  | adopting | discarding | clearingOut | stopping | joining | emptying | closing => rfl
  | _ => cases h

/-- Only a call that has dialed, or a watcher, brings a connection. -/
theorem held_of_steps (hsteps : Steps policy d label d' events) (h : d'.held = some c) :
    d.held = some c ∨ ∃ t p, label = .proceed t ∧ d.active? t = some (.installing p c) := by
  cases hsteps with
  | call operation => exact .inl ((begin_held d operation).symm.trans h)
  | deed _ t a b _ _ hdeed =>
    rw [hdeed.held] at h
    cases a with
    | installing p c' =>
      cases h
      exact .inr ⟨t, p, hdeed.driven, hdeed.active⟩
    | discarding | emptying | losing => cases h
    | _ => exact .inl h
  | adopt | exit | report | hangUp => exact .inl h

/-- Only a call that brings a watcher gives it the place. -/
theorem watcher_of_call (hsteps : Steps policy d label d' events) (h : d'.watcher = some w) :
    d.watcher = some w ∨ ∃ t c, d.active? t = some (.adopting c) := by
  cases hsteps with
  | call operation => exact .inl ((begin_watcher d operation).symm.trans h)
  | deed _ t a b _ _ hdeed =>
    rw [hdeed.watcher] at h
    split at h
    · cases h
    · exact .inl h
  | adopt t c hs => exact .inr ⟨t, c, hs⟩
  | exit | report | hangUp => exact .inl h

private theorem managing_of_steps (hsteps : Steps policy d label d' events)
    (hs : d'.active? t = some b) (hb : b.isManaging = true) :
    (∃ a, d.active? t = some a ∧ a.isManaging = true) ∨
      ∃ operation, label = .call operation ∧ operation.manages = true ∧ t = d.tasks.length := by
  cases came_of_steps hsteps hs with
  | stayed hs => exact .inl ⟨b, hs, hb⟩
  | began operation hlabel ht hfirst =>
    refine .inr ⟨operation, hlabel, ?_, ht⟩
    rw [hfirst] at hb
    cases operation with
    | session | check => cases hb
    | _ => rfl
  | went a hdeed => exact .inl ⟨a, hdeed.active, hdeed.goes.managing hb⟩
  | appointed _ _ heq | handedOver _ _ heq | ended _ _ _ heq =>
    rw [heq] at hb
    cases hb

section

variable {Lost Orphaned : Nat → Prop} (h : Managed d) (hl : Ledger Lost Orphaned d.view)

include h hl

/-- When a closing call is past the end of the watcher, there is no watcher. -/
theorem Managed.unwatched (hs : d.active? t = some a) (ha : a.isLeaving = true)
    (hjoining : ∀ w, a ≠ .joining w) (hu : d.active? u = some b) : b.isWatcher = false := by
  cases hwatcher : b.isWatcher with
  | false => rfl
  | true =>
    -- a watcher has its place or a closing call waits for it, which would be this one
    rcases hl.placed u b hu hwatcher with hplace | ⟨v, hv⟩
    · have hvacant : d.watcher = none := h.vacant t a hs ha
      have hplace' : d.watcher = some u := hplace
      rw [hvacant] at hplace'
      cases hplace'
    · have hv' : d.active? v = some (.joining u) := hv
      rw [h.single v t _ _ hv' hs rfl (Stage.isManaging_of_isLeaving ha), hs] at hv'
      exact absurd (Option.some.inj hv') (hjoining u)

private theorem Managed.empty_step (hsteps : Steps policy d label d' events)
    (hs : d'.active? t = some (.closing c)) : d'.held = none := by
  cases came_of_steps hsteps hs with
  | stayed hs =>
    cases hheld : d'.held with
    | none => rfl
    | some c' =>
      -- whoever brought a connection would be another call in turn, or a watcher
      rcases held_of_steps hsteps hheld with hheld' | ⟨u, p, _, hu⟩
      · rw [h.empty t c hs] at hheld'
        cases hheld'
      · cases p with
        | connecting =>
          rw [h.single t u _ _ hs hu rfl rfl, hu] at hs
          cases hs
        | redialing attempt => cases h.unwatched hl hs rfl nofun hu
  | went a hdeed =>
    rw [hdeed.held, hdeed.goes.closing]
    rfl
  | began operation _ _ hfirst => cases operation <;> cases hfirst
  | appointed _ _ heq | handedOver _ _ heq | ended _ _ _ heq => cases heq

end

private theorem Managed.vacant_step (h : Managed d) (hsteps : Steps policy d label d' events)
    (hs : d'.active? t = some b) (hb : b.isLeaving = true) : d'.watcher = none := by
  cases came_of_steps hsteps hs with
  | stayed hs =>
    cases hplace : d'.watcher with
    | none => rfl
    | some w =>
      -- whoever took the place for a new watcher would be another call in turn
      rcases watcher_of_call hsteps hplace with hplace' | ⟨u, c, hu⟩
      · rw [h.vacant t b hs hb] at hplace'
        cases hplace'
      · rw [h.single t u _ _ hs hu (Stage.isManaging_of_isLeaving hb) rfl, hu] at hs
        cases hs
        cases hb
  | went a hdeed =>
    rw [hdeed.watcher]
    rcases hdeed.goes.leaving hb with rfl | ha
    · exact if_pos rfl
    · rw [h.vacant t a hdeed.active ha]
      exact ite_self none
  | began operation _ _ hfirst =>
    rw [hfirst] at hb
    cases operation <;> cases hb
  | appointed _ _ heq | handedOver _ _ heq | ended _ _ _ heq =>
    rw [heq] at hb
    cases hb

private theorem Managed.single_step (h : Managed d) (hsteps : Steps policy d label d' events)
    (hturn : ∀ operation, label = .call operation → operation.manages = true →
      ∀ t a, d.active? t = some a → a.isManaging = false)
    (ht : d'.active? t = some a) (hu : d'.active? u = some b) (ha : a.isManaging = true)
    (hb : b.isManaging = true) : t = u := by
  have hnot : ∀ {v s} operation, label = .call operation → operation.manages = true →
      d.active? v = some s → s.isManaging = true → False := by
    intro v s operation hlabel hmanages hv hs
    rw [hturn operation hlabel hmanages v s hv] at hs
    cases hs
  -- a call that begins finds none under way, and two that begin in one step are the same
  rcases managing_of_steps hsteps ht ha with ⟨s, hs, hs'⟩ | ⟨operation, hlabel, hmanages, hlength⟩
  · rcases managing_of_steps hsteps hu hb with ⟨r, hr, hr'⟩ | ⟨operation, hlabel, hmanages, _⟩
    · exact h.single t u s r hs hr hs' hr'
    · exact (hnot operation hlabel hmanages hs hs').elim
  · rcases managing_of_steps hsteps hu hb with ⟨r, hr, hr'⟩ | ⟨_, _, _, hlength'⟩
    · exact (hnot operation hlabel hmanages hr hr').elim
    · exact hlength.trans hlength'.symm

/-- In every run whose calls come in turn, at most one of them is under way. -/
theorem managed_of_run (hrun : Run policy history d) (hturn : InTurn history) : Managed d := by
  -- on the run; the ledger tells which watchers there are
  induction hrun with
  | new => exact managed_new
  | @step history d d' events label hrun hstep ih =>
    have h := ih fun e operation hmem => hturn e operation (.tail _ hmem)
    have hl := ledger_of_run hrun
    have hsteps : Steps policy d label d' events := steps_of_step hstep
    have hlabel : ∀ operation, label = .call operation → operation.manages = true →
        ∀ t a, d.active? t = some a → a.isManaging = false := by
      rintro operation rfl
      exact hturn d operation (.head _)
    exact {
      single := fun t u a b ht hu ha hb => h.single_step hsteps hlabel ht hu ha hb
      vacant := fun t b hs hb => h.vacant_step hsteps hs hb
      empty := fun t c hs => h.empty_step hl hsteps hs }

/-! ## §2 The return of a closing call -/

private theorem Goes.returned {outcome : Outcome} (h : Goes policy d a (.returned outcome))
    (hcovers : Operation.close.covers a = true) :
    a = .emptying ∧ d.held = none ∨ ∃ c, a = .closing c := by
  generalize hb : Stage.returned outcome = b at h
  cases h with
  | empty hheld => exact .inl ⟨rfl, hheld⟩
  | closed c => exact .inr ⟨c, rfl⟩
  | refused | misses | opened | checked => cases hcovers
  | holds p | replaced p => cases p <;> cases hb
  | _ => cases hb

/-- A closing call returns when it has found nothing, or when what it has found is closed. -/
private theorem returns_of_close (hrun : Run policy history d) (hclose : Called history t .close)
    {outcome : Outcome} (hsteps : Steps policy d label d' events)
    (hreturned : .returned t outcome ∈ events) :
    ∃ a, Deed policy d label t a (.returned outcome) d' events ∧
      (a = .emptying ∧ d.held = none ∨ ∃ c, a = .closing c) := by
  obtain ⟨a, hs, hcovers⟩ := stage_of_called hrun hclose
  cases hsteps with
  | call operation => cases operation <;> simp [Dialer.begin, startConnect, ask] at hreturned
  | deed _ u a' b _ _ hdeed =>
    obtain ⟨rfl, rfl⟩ := (hdeed.returned t outcome).mp hreturned
    have hsame : a' = a := Option.some.inj (hdeed.active.symm.trans hs)
    subst hsame
    exact ⟨a', hdeed, hdeed.goes.returned hcovers⟩
  | adopt u c hs' =>
    -- this call returns from connecting, and the one in question is to close
    obtain ⟨rfl, _⟩ : t = u ∧ outcome = .done (.ok ()) := by simpa [adopt, finish] using hreturned
    rw [hs] at hs'
    cases hs'
    cases hcovers
  | exit _ _ _ _ _ hnone => exact absurd hreturned (hnone t outcome)
  | report | hangUp => cases hreturned

private theorem isStill_of (hmanaging : a.isManaging = false) (hwatcher : a.isWatcher = false) :
    a.isStill = true := by
  cases a with
  | dialing p | installing p | replacing p =>
    cases p with
    | connecting => cases hmanaging
    | redialing => cases hwatcher
  | watching | losing | pausing => cases hwatcher
  | adopting | discarding | clearingOut | joining | closing => cases hmanaging
  | _ => rfl

/-- When a closing call returns in turn, the dialer is down. -/
theorem down_of_close (hrun : Run policy history d) (hturn : InTurn history)
    (hclose : Called history t .close) {outcome : Outcome} (hsteps : Steps policy d label d' events)
    (hreturned : .returned t outcome ∈ events) : Down d' := by
  have h := managed_of_run hrun hturn
  obtain ⟨a, hdeed, hcase⟩ := returns_of_close hrun hclose hsteps hreturned
  have hs := hdeed.active
  have hheld : d.held = none ∧ a.isLeaving = true ∧ (∀ w, a ≠ .joining w) := by
    rcases hcase with ⟨rfl, hnone⟩ | ⟨c, rfl⟩
    · exact ⟨hnone, rfl, nofun⟩
    · exact ⟨h.empty t c hs, rfl, nofun⟩
  obtain ⟨hnone, hleaving, hjoining⟩ := hheld
  refine ⟨?_, ?_, ?_⟩
  · rw [hdeed.held, hnone]
    cases a with
    | installing => cases hleaving
    | _ => rfl
  · rw [hdeed.watcher, h.vacant t a hs hleaving]
    exact ite_self none
  · intro u b hu
    rw [hdeed.puts.active?] at hu
    split at hu
    · cases hu
      rfl
    · -- the other tasks are neither calls in turn nor watchers
      rename_i hne
      apply isStill_of
      · cases hmanaging : b.isManaging with
        | false => rfl
        | true =>
          have hmanaging' := Stage.isManaging_of_isLeaving hleaving
          exact absurd (h.single u t b a hu hs hmanaging hmanaging') hne
      · exact h.unwatched (ledger_of_run hrun) hs hleaving hjoining hu

/-! ## §3 What a closing call has found -/

theorem Goes.held_of_close (h : Goes policy d a b) (hb : b.awaits? = some (.close c)) :
    d.held = some c := by
  cases h with
  | replaces p c' old hheld | discards old hheld | closes old hheld =>
    cases hb
    exact hheld
  | holds p | replaced p => cases p <;> cases hb
  | _ => cases hb

/-- A task that comes to ask for the closing of a connection is the first one to ask for it. -/
theorem Deed.closings_of_close {Lost Orphaned : Nat → Prop} (hl : Ledger Lost Orphaned d.view)
    (h : Deed policy d label t a b d' events) (hb : b.awaits? = some (.close c)) :
    d'.closings c = 1 := by
  have hzero : d.closings c = 0 := (hl.held c (h.goes.held_of_close hb)).2.1
  rw [h.closings (fun c hc => (hl.held c hc).1) c, hzero, if_pos hb]

/-- A connection that was asked to close is not asked again. -/
theorem closings_of_steps {Lost Orphaned : Nat → Prop} (hl : Ledger Lost Orphaned d.view)
    (hsteps : Steps policy d label d' events) (hclosed : d.closings c ≠ 0) :
    d'.closings c = d.closings c := by
  cases hsteps with
  | call operation => simp [closings]
  | deed _ t a b _ _ hdeed =>
    rw [hdeed.closings (fun c hc => (hl.held c hc).1) c]
    split
    · rename_i hawaits
      exact absurd (hl.held c (hdeed.goes.held_of_close hawaits)).2.1 hclosed
    · rfl
  | adopt | exit => simp [closings]
  | report c' | hangUp c' =>
    have hsame := fun f hf => congrFun (closings_of_change d c' (f := f) hf) c
    exact hsame _ fun _ => rfl

/-- The connection that a closing call finds is asked to close. -/
private theorem closings_of_emptying {Lost Orphaned : Nat → Prop} (hl : Ledger Lost Orphaned d.view)
    (hsteps : Steps policy d (.proceed t) d' events) (hs : d.active? t = some .emptying)
    (hheld : d.held = some c) : d'.closings c = 1 := by
  generalize hlabel : Label.proceed t = label at hsteps
  cases hsteps with
  | deed _ u a b _ _ hdeed =>
    have hu : u = t := by
      rcases hdeed.driven.proceeds_or_answers with ⟨_, rfl⟩ | ⟨_, _, rfl⟩
      · exact (Label.proceed.inj hlabel).symm
      · cases hlabel
    subst hu
    have hsame : a = .emptying := Option.some.inj (hdeed.active.symm.trans hs)
    subst hsame
    have hb : b.awaits? = some (.close c) := by
      cases hdeed.goes with
      | closes c' hfound =>
        rw [hheld] at hfound
        cases hfound
        rfl
      | empty hnone =>
        rw [hheld] at hnone
        cases hnone
    exact hdeed.closings_of_close hl hb
  | adopt u c' hs' =>
    cases hlabel
    rw [hs] at hs'
    cases hs'
  | exit _ u _ hends =>
    cases hends with
    | hungUp c' hs' =>
      cases hlabel
      rw [hs] at hs'
      cases hs'
    | _ => cases hlabel
  | _ => cases hlabel

/-- Once a closing call has found a connection, it stays closed once. -/
private theorem closings_of_found (hrun : Run policy history d) {e : Dialer}
    (hfound : (e, .proceed t) ∈ history) (hs : e.active? t = some .emptying)
    (hheld : e.held = some c) : d.closings c = 1 := by
  induction hrun with
  | new => cases hfound
  | @step history d d' events label hrun hstep ih =>
    have hl := ledger_of_run hrun
    have hsteps : Steps policy d label d' events := steps_of_step hstep
    rcases List.mem_cons.mp hfound with heq | hmem
    · obtain ⟨rfl, rfl⟩ := Prod.mk.inj heq
      exact closings_of_emptying hl hsteps hs hheld
    · have hone := ih hmem
      rw [closings_of_steps hl hsteps (by simp [hone]), hone]

/-- However the watcher, the connector and the calls that use the connection take turns: when a
closing call returns that overlaps with no call to connect, to reconnect or to close, and until the
next call to connect or to reconnect, nothing is held, there is no watcher, the generation stays the
same, and the connector is asked for nothing. What the closing call has found was asked to close
once. Whatever is called for meanwhile returns: a call for a session that there is no connection,
and a closing call that all is well. -/
theorem down_after_close {outcome : Outcome} (hrun : Run policy history d)
    (hturn : InTurn history) (hclose : Called history t .close)
    (hstep : d.step policy label = some (d', events)) (hreturned : .returned t outcome ∈ events)
    (hlater : Run policy (later ++ (d, label) :: history) d'')
    (hdown : ∀ e operation, (e, .call operation) ∈ later → operation.revives = false) :
    d''.held = none ∧ (∀ w a, d''.active? w = some a → a.isWatcher = false) ∧
    d''.generation = d'.generation ∧ requests (shown policy later) = [] ∧
    (∀ e c, (e, .proceed t) ∈ (d, label) :: history → e.active? t = some .emptying →
      e.held = some c → d''.closings c = 1) ∧
    ∀ u operation answer, Called later u operation → operation.vain? = some answer →
      (∀ o, d''.active? u = some (.returned o) → o = answer) ∧
      ComesTo policy (fun e => e.active? u = some (.returned answer)) d'' := by
  have hrun' : Run policy ((d, label) :: history) d' := .step label hrun hstep
  have hd' : Down d' := down_of_close hrun hturn hclose (steps_of_step hstep) hreturned
  have hsince := downSince_of_run hrun' hd' hlater hdown
  refine ⟨hsince.down.held, ?_, hsince.generation, hsince.asked, ?_, ?_⟩
  · intro w a hs
    have hstill := hsince.down.still w a hs
    cases a with
    | dialing | installing | replacing | watching | losing | pausing => cases hstill
    | _ => rfl
  · intro e c hfound hs hheld
    rw [hsince.closings c]
    exact closings_of_found hrun' hfound hs hheld
  · intro u operation answer hcalled hvain
    exact ⟨fun o hs => returned_of_downSince hrun' hd' hlater hdown hcalled hvain hs,
      comesTo_of_downSince hrun' hd' hlater hdown hcalled hvain⟩

/-- A dialer is closed while its watcher dials; the dial comes first, and the watcher ends
afterwards. -/
def closedWhileRedialing : List Label :=
  connecting ++ [.report 0 (.connectionLost "reset"), .proceed 1, .proceed 1, .call .close,
    .proceed 2, .answer 1 (.ok ()), .proceed 1, .stop 1, .proceed 2, .proceed 2]

/-- The connection that the watcher has still brought is closed once, although not well, and a call
for a session is told that there is none. -/
theorem down_after_redialing :
    ∃ history d d' events later d'',
      replay patient [] .new closedWhileRedialing = some (history, d) ∧
      d.step patient (.answer 2 (.error (.connectionLost "reset"))) = some (d', events) ∧
      replay patient [] d' [.call .session] = some (later, d'') ∧ d''.held = none ∧
      d''.generation = 2 ∧ d''.closings 1 = 1 ∧
      ComesTo patient (fun e => e.active? 3 = some (.returned (.session (.error .notConnected))))
        d'' := by
  obtain ⟨history, d, d', events, later, d'', hreplay, hstep, hlater, hturn, hclose, hreturned,
      hdown, hgeneration, hcalled, e, hfound, hs, hheld⟩ :
      ∃ history d d' events later d'',
        replay patient [] .new closedWhileRedialing = some (history, d) ∧
        d.step patient (.answer 2 (.error (.connectionLost "reset"))) = some (d', events) ∧
        replay patient [] d' [.call .session] = some (later, d'') ∧ InTurn history ∧
        Called history 2 .close ∧
        .returned 2 (.done (.error (.connectionLost "reset"))) ∈ events ∧
        (∀ p ∈ later, p.2 = .call .session) ∧ d'.generation = 2 ∧ Called later 3 .session ∧
        ∃ e, (e, .proceed 2) ∈ history ∧ e.active? 2 = some .emptying ∧ e.held = some 1 :=
    ⟨_, _, _, _, _, _, rfl, rfl, rfl, by decide, by decide, by decide, by decide, rfl,
      by decide, _, .head _, rfl, rfl⟩
  have hrun : Run patient history d := run_of_replay .new hreplay
  have hrun' : Run patient ([] ++ (d, _) :: history) d' := .step _ hrun hstep
  obtain ⟨hnone, _, hsame, _, hclosed, hanswers⟩ := down_after_close hrun hturn hclose hstep
    hreturned (hrun'.replay hlater) (by
      intro e operation hmem
      cases hdown _ hmem
      rfl)
  exact ⟨history, d, d', events, later, d'', hreplay, hstep, hlater, hnone, hsame.trans hgeneration,
    hclosed e 1 (.tail _ hfound) hs hheld, (hanswers 3 .session _ hcalled rfl).2⟩

end Courier.Dialer
