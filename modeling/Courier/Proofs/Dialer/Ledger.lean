import Courier.Proofs.Dialer.Moves

/-!
# The ledger of connections

Where the connections of a dialer are and who sees to them. A connection is carried by a task until
it is held, and from then on it is tended: by the call that has brought it until it has a watcher,
and by its watcher. The ledger is kept by every move, whatever was let go of or left without a
watcher on the way.
-/

namespace Courier.Dialer

/-! ## §1 The ledger -/

/-- The connection that a task carries or tends. -/
def Stage.bears? : Stage → Option Nat
  | .installing _ c | .replacing _ c _ | .adopting c | .watching c => some c
  | _ => none

/-- What holds of the view of every dialer that can be reached, where `Lost` are the connections that
were let go of, and `Orphaned` those that were left without a watcher. -/
structure Ledger (Lost Orphaned : Nat → Prop) (v : View) : Prop where
  /-- The place of the watcher is taken by a watcher, or by one that has ended. -/
  slot : ∀ w, v.watcher = some w →
    ∃ stage, v.active w = some stage ∧ (stage.isWatcher = true ∨ stage = .exited)
  /-- Every other watcher is about to end: a closing call waits for it. -/
  placed : ∀ t stage, v.active t = some stage → stage.isWatcher = true →
    v.watcher = some t ∨ ∃ u, v.active u = some (.joining t)
  counted : ∀ t stage c, v.active t = some stage → stage.bears? = some c → c < v.count
  /-- No two tasks bear one connection. -/
  single : ∀ t u a b c, v.active t = some a → v.active u = some b → a.bears? = some c →
    b.bears? = some c → t = u
  carried : ∀ t stage c, v.active t = some stage → stage.carries? = some c →
    v.held ≠ some c ∧ v.closings c = 0 ∧ ¬Lost c
  held : ∀ c, v.held = some c → c < v.count ∧ v.closings c = 0 ∧ ¬Lost c
  fresh : ∀ c, v.count ≤ c → v.closings c = 0
  /-- Every connection is held, carried, closed or lost. -/
  known : ∀ c, c < v.count → v.held = some c ∨
    (∃ t stage, v.active t = some stage ∧ stage.carries? = some c) ∨ 0 < v.closings c ∨ Lost c
  lost : ∀ c, Lost c → c < v.count ∧ v.closings c = 0
  /-- The connection that is held is tended, or about to be given up, or was left alone. -/
  kept : ∀ c, v.held = some c → (∃ t stage, v.active t = some stage ∧ stage.tends? = some c) ∨
    (∃ t, v.active t = some .losing) ∨ v.ended c = true ∨ Orphaned c
  /-- Nobody comes back to a connection that was left alone. -/
  orphaned : ∀ c, Orphaned c → c < v.count ∧ ∀ t stage, v.active t = some stage →
    stage.bears? = some c → stage.isWatcher = true ∧ v.watcher ≠ some t

theorem Stage.bears?_eq_some {stage : Stage} {c : Nat} :
    stage.bears? = some c ↔ stage.carries? = some c ∨ stage.tends? = some c := by
  cases stage <;> simp [bears?, carries?, tends?]

theorem View.set_self (v : View) (t : Nat) (stage : Stage) : (v.set t stage).active t = some stage :=
  if_pos rfl

theorem View.set_of_ne {v : View} {t u : Nat} (stage : Stage) (h : u ≠ t) :
    (v.set t stage).active u = v.active u :=
  if_neg h

variable {Lost Orphaned : Nat → Prop} {v : View}

theorem View.active_of_set {t u : Nat} {a b : Stage} (h : (v.set t b).active u = some a) :
    u = t ∧ a = b ∨ u ≠ t ∧ v.active u = some a := by
  by_cases hu : u = t
  · subst hu
    rw [set_self] at h
    cases h
    exact .inl ⟨rfl, rfl⟩
  · rw [set_of_ne b hu] at h
    exact .inr ⟨hu, h⟩

/-- Before the first call there is nothing to see to. -/
theorem Ledger.new : Ledger (fun _ => False) (fun _ => False) Dialer.new.view := by
  have hactive : ∀ t stage, Dialer.new.view.active t ≠ some stage := by
    intro t stage h
    have hnew : Dialer.new.active? t = some stage := h
    exact absurd (lt_of_active? hnew) (Nat.not_lt_zero t)
  exact {
    slot := nofun
    placed := fun t stage h => absurd h (hactive t stage)
    counted := fun t stage _ h => absurd h (hactive t stage)
    single := fun t _ a _ _ h => absurd h (hactive t a)
    carried := fun t stage _ h => absurd h (hactive t stage)
    held := nofun
    fresh := fun _ _ => rfl
    known := nofun
    lost := nofun
    kept := nofun
    orphaned := nofun }

/-! ## §2 What a task may do -/

/-- A task goes on from one stage to another. It may let go of the connection that it carries, and it
stops tending the one that it tends only for a reason. -/
structure Turn (v : View) (t : Nat) (a b : Stage) (orphaned : Option Nat) : Prop where
  active : v.active t = some a
  watches : b.isWatcher = true → a.isWatcher = true
  ends : a.isWatcher = true → b.isWatcher = true ∨ b = .exited
  runs : a ≠ .exited
  carries : b.carries? = none
  tends : ∀ c, b.tends? = some c → a.tends? = some c
  excuse : ∀ c, v.held = some c → a.tends? = some c →
    b.tends? = some c ∨ b = .losing ∨ v.ended c = true ∨ orphaned = some c
  orphans : ∀ c, orphaned = some c → v.held = some c ∧ a.tends? = some c ∧ b.tends? = none
  losing : a = .losing → v.held = none
  joining : ∀ w stage, a = .joining w → v.active w = some stage → stage.isWatcher = false

private theorem Turn.bears {t c : Nat} {a b : Stage} {orphaned : Option Nat}
    (ht : Turn v t a b orphaned) (hc : b.bears? = some c) : a.tends? = some c := by
  rw [Stage.bears?_eq_some, ht.carries] at hc
  exact ht.tends c (hc.resolve_left nofun)

private theorem Turn.borne {t u c : Nat} {a b s : Stage} {orphaned : Option Nat}
    (ht : Turn v t a b orphaned) (hs : (v.set t b).active u = some s) (hc : s.bears? = some c) :
    ∃ s', v.active u = some s' ∧ s'.bears? = some c := by
  rcases View.active_of_set hs with ⟨rfl, rfl⟩ | ⟨_, hu⟩
  · exact ⟨a, ht.active, Stage.bears?_eq_some.mpr (.inr (ht.bears hc))⟩
  · exact ⟨s, hu, hc⟩

private theorem Ledger.slot_of_set {t : Nat} {a b : Stage} (hl : Ledger Lost Orphaned v)
    (ha : v.active t = some a) (hends : a.isWatcher = true → b.isWatcher = true ∨ b = .exited)
    (hruns : a ≠ .exited) :
    ∀ w, v.watcher = some w →
      ∃ stage, (v.set t b).active w = some stage ∧ (stage.isWatcher = true ∨ stage = .exited) := by
  intro w hw
  obtain ⟨stage, hs, hwatch⟩ := hl.slot w hw
  by_cases hwt : w = t
  · subst hwt
    rw [ha] at hs
    cases hs
    rcases hwatch with hwatch | hexited
    · exact ⟨b, v.set_self w b, hends hwatch⟩
    · exact absurd hexited hruns
  · exact ⟨stage, (View.set_of_ne b hwt).trans hs, hwatch⟩

private theorem Ledger.placed_of_set {t : Nat} {a b : Stage} (hl : Ledger Lost Orphaned v)
    (ha : v.active t = some a) (hwatches : b.isWatcher = true → a.isWatcher = true)
    (hjoining : ∀ w stage, a = .joining w → v.active w = some stage → stage.isWatcher = false) :
    ∀ u stage, (v.set t b).active u = some stage → stage.isWatcher = true →
      v.watcher = some u ∨ ∃ u', (v.set t b).active u' = some (.joining u) := by
  have hstays : ∀ u s, v.active u = some s → s.isWatcher = true →
      v.watcher = some u ∨ ∃ u', (v.set t b).active u' = some (.joining u) := by
    intro u s hu hw
    rcases hl.placed u s hu hw with hslot | ⟨u', hu'⟩
    · exact .inl hslot
    · refine .inr ⟨u', ?_⟩
      -- the call that waits for the watcher does not go on while there is one
      have hne : u' ≠ t := by
        rintro rfl
        rw [ha] at hu'
        cases hu'
        rw [hjoining u s rfl hu] at hw
        cases hw
      exact (View.set_of_ne b hne).trans hu'
  intro u s hs hw
  rcases View.active_of_set hs with ⟨rfl, rfl⟩ | ⟨_, hu⟩
  · exact hstays u a ha (hwatches hw)
  · exact hstays u s hu hw

theorem Ledger.turn {t : Nat} {a b : Stage} {orphaned : Option Nat}
    (hl : Ledger Lost Orphaned v) (ht : Turn v t a b orphaned) :
    Ledger (fun c => a.carries? = some c ∨ Lost c) (fun c => orphaned = some c ∨ Orphaned c)
      (v.set t b) where
  slot := hl.slot_of_set ht.active ht.ends ht.runs
  placed := hl.placed_of_set ht.active ht.watches ht.joining
  counted := by
    intro u s c hs hc
    obtain ⟨s', hu, hc'⟩ := ht.borne hs hc
    exact hl.counted u s' c hu hc'
  single := by
    intro u u' s s' c hs hs' hc hc'
    obtain ⟨_, hu, hcu⟩ := ht.borne hs hc
    obtain ⟨_, hu', hcu'⟩ := ht.borne hs' hc'
    exact hl.single u u' _ _ c hu hu' hcu hcu'
  carried := by
    intro u s c hs hc
    rcases View.active_of_set hs with ⟨rfl, rfl⟩ | ⟨hne, hu⟩
    · rw [ht.carries] at hc
      cases hc
    · obtain ⟨hheld, hclosed, hlost⟩ := hl.carried u s c hu hc
      refine ⟨hheld, hclosed, ?_⟩
      rintro (ha | hlost')
      · -- two tasks would carry what this one lets go of
        have hbears := Stage.bears?_eq_some.mpr (.inl hc)
        have hbears' := Stage.bears?_eq_some.mpr (.inl ha)
        exact hne (hl.single u t s a c hu ht.active hbears hbears')
      · exact hlost hlost'
  held := by
    intro c hheld
    obtain ⟨hlt, hclosed, hlost⟩ := hl.held c hheld
    refine ⟨hlt, hclosed, ?_⟩
    rintro (ha | hlost')
    · exact (hl.carried t a c ht.active ha).1 hheld
    · exact hlost hlost'
  fresh := hl.fresh
  known := by
    intro c hlt
    rcases hl.known c hlt with hheld | ⟨u, s, hu, hc⟩ | hclosed | hlost
    · exact .inl hheld
    · by_cases hut : u = t
      · subst hut
        rw [ht.active] at hu
        cases hu
        -- it was carried, and now it is lost
        exact .inr (.inr (.inr (.inl hc)))
      · exact .inr (.inl ⟨u, s, (View.set_of_ne b hut).trans hu, hc⟩)
    · exact .inr (.inr (.inl hclosed))
    · exact .inr (.inr (.inr (.inr hlost)))
  lost := by
    rintro c (ha | hlost)
    · have hbears := Stage.bears?_eq_some.mpr (.inl ha)
      exact ⟨hl.counted t a c ht.active hbears, (hl.carried t a c ht.active ha).2.1⟩
    · exact hl.lost c hlost
  kept := by
    intro c hheld
    rcases hl.kept c hheld with ⟨u, s, hu, hc⟩ | ⟨u, hu⟩ | hended | horphaned
    · by_cases hut : u = t
      · subst hut
        rw [ht.active] at hu
        cases hu
        -- a task stops tending only with an excuse
        rcases ht.excuse c hheld hc with hb | hb | hended | horphaned
        · exact .inl ⟨u, b, v.set_self u b, hb⟩
        · exact .inr (.inl ⟨u, hb ▸ v.set_self u b⟩)
        · exact .inr (.inr (.inl hended))
        · exact .inr (.inr (.inr (.inl horphaned)))
      · exact .inl ⟨u, s, (View.set_of_ne b hut).trans hu, hc⟩
    · by_cases hut : u = t
      · subst hut
        rw [ht.active] at hu
        cases hu
        have hnone := ht.losing rfl
        have hheld' : v.held = some c := hheld
        rw [hnone] at hheld'
        cases hheld'
      · exact .inr (.inl ⟨u, (View.set_of_ne b hut).trans hu⟩)
    · exact .inr (.inr (.inl hended))
    · exact .inr (.inr (.inr (.inr horphaned)))
  orphaned := by
    rintro c (hnew | hold)
    · obtain ⟨hheld, ha, hb⟩ := ht.orphans c hnew
      have hbears := Stage.bears?_eq_some.mpr (.inr ha)
      refine ⟨hl.counted t a c ht.active hbears, ?_⟩
      -- nobody else has borne it, and this task does not bear it any more
      intro u s hs hc
      rcases View.active_of_set hs with ⟨rfl, rfl⟩ | ⟨hne, hu⟩
      · rw [Stage.bears?_eq_some, ht.carries, hb] at hc
        rcases hc with hc | hc <;> cases hc
      · exact absurd (hl.single u t s a c hu ht.active hc hbears) hne
    · obtain ⟨hlt, hafter⟩ := hl.orphaned c hold
      refine ⟨hlt, ?_⟩
      intro u s hs hc
      rcases View.active_of_set hs with ⟨rfl, rfl⟩ | ⟨_, hu⟩
      · have hbears := Stage.bears?_eq_some.mpr (.inr (ht.bears hc))
        obtain ⟨hwatch, hslot⟩ := hafter u a ht.active hbears
        rcases ht.ends hwatch with hw | rfl
        · exact ⟨hw, hslot⟩
        · cases hc
      · exact hafter u s hu hc

/-! ## §3 What else may happen -/

private theorem Stage.idle {stage : Stage} (h : stage.isIdle = true) :
    stage.bears? = none ∧ stage.isWatcher = false := by
  simp only [isIdle, Bool.and_eq_true, Option.isNone_iff_eq_none, Bool.not_eq_true'] at h
  obtain ⟨⟨⟨hcarries, htends⟩, hwatch⟩, _⟩ := h
  refine ⟨Option.eq_none_iff_forall_ne_some.mpr ?_, hwatch⟩
  intro c hc
  rw [bears?_eq_some, hcarries, htends] at hc
  rcases hc with hc | hc <;> cases hc

/-- A call begins. -/
theorem Ledger.enter {t : Nat} {stage : Stage} (hl : Ledger Lost Orphaned v)
    (hnew : v.active t = none) (hidle : stage.isIdle = true) :
    Ledger Lost Orphaned (v.set t stage) := by
  obtain ⟨hbears, hwatch⟩ := Stage.idle hidle
  have hstays : ∀ u s, v.active u = some s → (v.set t stage).active u = some s := by
    intro u s hu
    have hne : u ≠ t := by
      rintro rfl
      rw [hnew] at hu
      cases hu
    exact (View.set_of_ne stage hne).trans hu
  -- the new call bears nothing and is no watcher
  have hback : ∀ u s, (v.set t stage).active u = some s →
      v.active u = some s ∨ s.bears? = none ∧ s.isWatcher = false := by
    intro u s hs
    rcases View.active_of_set hs with ⟨rfl, rfl⟩ | ⟨_, hu⟩
    · exact .inr ⟨hbears, hwatch⟩
    · exact .inl hu
  have hborne : ∀ u s c, (v.set t stage).active u = some s → s.bears? = some c →
      v.active u = some s := by
    intro u s c hs hc
    rcases hback u s hs with hu | ⟨hnone, _⟩
    · exact hu
    · rw [hnone] at hc
      cases hc
  exact {
    slot := by
      intro w hw
      obtain ⟨s, hs, hws⟩ := hl.slot w hw
      exact ⟨s, hstays w s hs, hws⟩
    placed := by
      intro u s hs hw
      rcases hback u s hs with hu | ⟨_, hfalse⟩
      · rcases hl.placed u s hu hw with hslot | ⟨u', hu'⟩
        · exact .inl hslot
        · exact .inr ⟨u', hstays u' _ hu'⟩
      · rw [hfalse] at hw
        cases hw
    counted := fun u s c hs hc => hl.counted u s c (hborne u s c hs hc) hc
    single := fun u u' s s' c hs hs' hc hc' =>
      hl.single u u' s s' c (hborne u s c hs hc) (hborne u' s' c hs' hc') hc hc'
    carried := fun u s c hs hc =>
      hl.carried u s c (hborne u s c hs (Stage.bears?_eq_some.mpr (.inl hc))) hc
    held := hl.held
    fresh := hl.fresh
    known := by
      intro c hlt
      rcases hl.known c hlt with hheld | ⟨u, s, hu, hc⟩ | hrest
      · exact .inl hheld
      · exact .inr (.inl ⟨u, s, hstays u s hu, hc⟩)
      · exact .inr (.inr hrest)
    lost := hl.lost
    kept := by
      intro c hheld
      rcases hl.kept c hheld with ⟨u, s, hu, hc⟩ | ⟨u, hu⟩ | hrest
      · exact .inl ⟨u, s, hstays u s hu, hc⟩
      · exact .inr (.inl ⟨u, hstays u _ hu⟩)
      · exact .inr (.inr hrest)
    orphaned := by
      intro c horphaned
      obtain ⟨hlt, hafter⟩ := hl.orphaned c horphaned
      exact ⟨hlt, fun u s hs hc => hafter u s (hborne u s c hs hc) hc⟩ }

/-- What is held is given up and closed. -/
theorem Ledger.release (hl : Ledger Lost Orphaned v) : Ledger Lost Orphaned (v.replace none) := by
  have hsame : ∀ c, v.held ≠ some c → (v.replace none).closings c = v.closings c := by
    intro c hne
    exact if_neg fun h => hne h.1
  exact { hl with
    carried := by
      intro t stage c hs hc
      obtain ⟨hheld, hclosed, hlost⟩ := hl.carried t stage c hs hc
      exact ⟨nofun, (hsame c hheld).trans hclosed, hlost⟩
    held := nofun
    fresh := by
      intro c hle
      have hnot : ¬(v.held = some c ∧ c < v.count) := fun h => Nat.not_lt.mpr hle h.2
      exact (if_neg hnot).trans (hl.fresh c hle)
    known := by
      intro c hlt
      rcases hl.known c hlt with hheld | hcarried | hclosed | hlost
      · -- it was held, and it is the one that is closed
        refine .inr (.inr (.inl ?_))
        have hmore : (v.replace none).closings c = v.closings c + 1 := if_pos ⟨hheld, hlt⟩
        rw [hmore]
        exact Nat.succ_pos _
      · exact .inr (.inl hcarried)
      · refine .inr (.inr (.inl ?_))
        show 0 < if _ then _ else _
        split
        · exact Nat.succ_pos _
        · exact hclosed
      · exact .inr (.inr (.inr hlost))
    lost := by
      intro c hlost
      obtain ⟨hlt, hclosed⟩ := hl.lost c hlost
      exact ⟨hlt, (hsame c fun hheld => (hl.held c hheld).2.2 hlost).trans hclosed⟩
    kept := nofun }

/-- What is held is given up, and nobody closes it. -/
theorem Ledger.forget (hl : Ledger Lost Orphaned v) :
    Ledger (fun c => v.held = some c ∨ Lost c) Orphaned { v with held := none } :=
  { hl with
    carried := by
      intro t stage c hs hc
      obtain ⟨hheld, hclosed, hlost⟩ := hl.carried t stage c hs hc
      exact ⟨nofun, hclosed, fun h => h.elim hheld hlost⟩
    held := nofun
    known := by
      intro c hlt
      rcases hl.known c hlt with hheld | hcarried | hclosed | hlost
      · exact .inr (.inr (.inr (.inl hheld)))
      · exact .inr (.inl hcarried)
      · exact .inr (.inr (.inl hclosed))
      · exact .inr (.inr (.inr (.inr hlost)))
    lost := by
      rintro c (hheld | hlost)
      · obtain ⟨hlt, hclosed, _⟩ := hl.held c hheld
        exact ⟨hlt, hclosed⟩
      · exact hl.lost c hlost
    kept := nofun }

/-- The watcher gives up its place to a call that waits for its end. -/
theorem Ledger.vacate (hl : Ledger Lost Orphaned v)
    (hjoined : ∀ w, v.watcher = some w → ∃ u, v.active u = some (.joining w)) :
    Ledger Lost Orphaned { v with watcher := none } :=
  { hl with
    slot := nofun
    placed := by
      intro t stage hs hw
      rcases hl.placed t stage hs hw with hslot | hu
      · exact .inr (hjoined t hslot)
      · exact .inr hu
    orphaned := by
      intro c horphaned
      obtain ⟨hlt, hafter⟩ := hl.orphaned c horphaned
      exact ⟨hlt, fun t stage hs hc => ⟨(hafter t stage hs hc).1, nofun⟩⟩ }

/-- Failure signals end. -/
theorem Ledger.remark {ended : Nat → Bool} (hl : Ledger Lost Orphaned v)
    (hended : ∀ c, v.ended c = true → ended c = true) :
    Ledger Lost Orphaned { v with ended := ended } :=
  { hl with
    kept := by
      intro c hheld
      rcases hl.kept c hheld with htended | hlosing | hend | horphaned
      · exact .inl htended
      · exact .inr (.inl hlosing)
      · exact .inr (.inr (.inl (hended c hend)))
      · exact .inr (.inr (.inr horphaned)) }

private theorem View.borne_of_set {t u c : Nat} {b s : Stage} (hs : (v.set t b).active u = some s)
    (hc : s.bears? = some c) :
    u = t ∧ b.bears? = some c ∨ u ≠ t ∧ v.active u = some s ∧ s.bears? = some c := by
  rcases View.active_of_set hs with ⟨rfl, rfl⟩ | ⟨hne, hu⟩
  · exact .inl ⟨rfl, hc⟩
  · exact .inr ⟨hne, hu, hc⟩

/-- The connector has returned a connection. -/
theorem Ledger.dial {t : Nat} {p : Purpose} (hl : Ledger Lost Orphaned v)
    (ha : v.active t = some (.dialing p)) :
    Ledger Lost Orphaned { v.set t (.installing p v.count) with count := v.count + 1 } := by
  -- the call that dials has borne nothing so far
  have hother : ∀ u s, v.active u = some s → s ≠ .dialing p →
      (v.set t (.installing p v.count)).active u = some s := by
    intro u s hu hne
    have hut : u ≠ t := by
      rintro rfl
      rw [ha] at hu
      cases hu
      exact hne rfl
    exact (View.set_of_ne _ hut).trans hu
  exact {
    slot := hl.slot_of_set ha (by cases p <;> simp [Stage.isWatcher]) nofun
    placed := hl.placed_of_set ha (by cases p <;> simp [Stage.isWatcher]) nofun
    counted := by
      intro u s c hs hc
      rcases View.borne_of_set hs hc with ⟨_, hb⟩ | ⟨_, hu, hc⟩
      · cases hb
        exact Nat.lt_succ_self _
      · exact Nat.lt_succ_of_lt (hl.counted u s c hu hc)
    single := by
      intro u u' s s' c hs hs' hc hc'
      rcases View.borne_of_set hs hc with ⟨rfl, hb⟩ | ⟨_, hu, hc⟩
      · rcases View.borne_of_set hs' hc' with ⟨rfl, _⟩ | ⟨_, hu', hc'⟩
        · rfl
        · cases hb
          exact absurd (hl.counted u' s' _ hu' hc') (Nat.lt_irrefl _)
      · rcases View.borne_of_set hs' hc' with ⟨rfl, hb⟩ | ⟨_, hu', hc'⟩
        · cases hb
          exact absurd (hl.counted u s _ hu hc) (Nat.lt_irrefl _)
        · exact hl.single u u' s s' c hu hu' hc hc'
    carried := by
      intro u s c hs hc
      rcases View.active_of_set hs with ⟨rfl, rfl⟩ | ⟨_, hu⟩
      · cases hc
        -- its number is new: it cannot be held, closed or lost
        refine ⟨?_, hl.fresh _ (Nat.le_refl _), ?_⟩
        · exact fun hheld => Nat.lt_irrefl _ (hl.held _ hheld).1
        · exact fun hlost => Nat.lt_irrefl _ (hl.lost _ hlost).1
      · exact hl.carried u s c hu hc
    held := by
      intro c hheld
      obtain ⟨hlt, hrest⟩ := hl.held c hheld
      exact ⟨Nat.lt_succ_of_lt hlt, hrest⟩
    fresh := fun c hle => hl.fresh c (Nat.le_of_succ_le hle)
    known := by
      intro c hlt
      rcases Nat.lt_succ_iff_lt_or_eq.mp hlt with hlt | rfl
      · rcases hl.known c hlt with hheld | ⟨u, s, hu, hc⟩ | hrest
        · exact .inl hheld
        · exact .inr (.inl ⟨u, s, hother u s hu (by rintro rfl; cases hc), hc⟩)
        · exact .inr (.inr hrest)
      · exact .inr (.inl ⟨t, _, v.set_self t _, rfl⟩)
    lost := by
      intro c hlost
      obtain ⟨hlt, hclosed⟩ := hl.lost c hlost
      exact ⟨Nat.lt_succ_of_lt hlt, hclosed⟩
    kept := by
      intro c hheld
      rcases hl.kept c hheld with ⟨u, s, hu, hc⟩ | ⟨u, hu⟩ | hrest
      · exact .inl ⟨u, s, hother u s hu (by rintro rfl; cases hc), hc⟩
      · exact .inr (.inl ⟨u, hother u _ hu nofun⟩)
      · exact .inr (.inr hrest)
    orphaned := by
      intro c horphaned
      obtain ⟨hlt, hafter⟩ := hl.orphaned c horphaned
      refine ⟨Nat.lt_succ_of_lt hlt, ?_⟩
      intro u s hs hc
      rcases View.borne_of_set hs hc with ⟨_, hb⟩ | ⟨_, hu, hc⟩
      · cases hb
        exact absurd hlt (Nat.lt_irrefl _)
      · exact hafter u s hu hc }

/-- A connection that a task carries is held when nothing else is. -/
theorem Ledger.install {t c : Nat} {p : Purpose} {b : Stage} (hl : Ledger Lost Orphaned v)
    (hnone : v.held = none) (ha : v.active t = some (.installing p c)) (hcarries : b.carries? = none)
    (htends : b.tends? = some c) (hwatch : b.isWatcher = (Stage.installing p c).isWatcher) :
    Ledger Lost Orphaned { v.set t b with held := some c } := by
  have hbears : ∀ c', b.bears? = some c' → c' = c := by
    intro c' hb
    rw [Stage.bears?_eq_some, hcarries, htends] at hb
    rcases hb with hb | hb <;> cases hb
    rfl
  -- the task bears the same connection before and after
  have hborne : ∀ u s c', (v.set t b).active u = some s → s.bears? = some c' →
      ∃ s', v.active u = some s' ∧ s'.bears? = some c' ∧ s'.isWatcher = s.isWatcher := by
    intro u s c' hs hc
    rcases View.active_of_set hs with ⟨rfl, rfl⟩ | ⟨_, hu⟩
    · obtain rfl := hbears c' hc
      exact ⟨_, ha, rfl, hwatch.symm⟩
    · exact ⟨s, hu, hc, rfl⟩
  obtain ⟨_, hclosed, hlost⟩ := hl.carried t _ c ha rfl
  exact {
    slot := hl.slot_of_set ha (fun h => .inl (hwatch.trans h)) nofun
    placed := hl.placed_of_set ha (fun h => hwatch.symm.trans h) nofun
    counted := by
      intro u s c' hs hc
      obtain ⟨s', hu, hc', _⟩ := hborne u s c' hs hc
      exact hl.counted u s' c' hu hc'
    single := by
      intro u u' s s' c' hs hs' hc hc'
      obtain ⟨_, hu, hcu, _⟩ := hborne u s c' hs hc
      obtain ⟨_, hu', hcu', _⟩ := hborne u' s' c' hs' hc'
      exact hl.single u u' _ _ c' hu hu' hcu hcu'
    carried := by
      intro u s c' hs hc
      rcases View.active_of_set hs with ⟨rfl, rfl⟩ | ⟨hne, hu⟩
      · rw [hcarries] at hc
        cases hc
      · refine ⟨?_, (hl.carried u s c' hu hc).2⟩
        rintro hheld
        cases hheld
        exact hne (hl.single u t s _ c hu ha (Stage.bears?_eq_some.mpr (.inl hc)) rfl)
    held := by
      intro c' hheld
      cases hheld
      exact ⟨hl.counted t _ c ha rfl, hclosed, hlost⟩
    fresh := hl.fresh
    known := by
      intro c' hlt
      rcases hl.known c' hlt with hheld | ⟨u, s, hu, hc⟩ | hrest
      · rw [hnone] at hheld
        cases hheld
      · by_cases hut : u = t
        · subst hut
          rw [ha] at hu
          cases hu
          exact .inl hc
        · exact .inr (.inl ⟨u, s, (View.set_of_ne b hut).trans hu, hc⟩)
      · exact .inr (.inr hrest)
    lost := hl.lost
    kept := by
      intro c' hheld
      cases hheld
      exact .inl ⟨t, b, v.set_self t b, htends⟩
    orphaned := by
      intro c' horphaned
      obtain ⟨hlt, hafter⟩ := hl.orphaned c' horphaned
      refine ⟨hlt, ?_⟩
      intro u s hs hc
      obtain ⟨s', hu, hc', hw⟩ := hborne u s c' hs hc
      obtain ⟨hw', hslot⟩ := hafter u s' hu hc'
      exact ⟨hw.symm.trans hw', hslot⟩ }

/-! ## §4 The appointment of a watcher -/

private theorem Stage.sponsors?_eq_some {stage : Stage} {c : Nat} :
    stage.sponsors? = some c ↔ stage.tends? = some c ∧ stage.isWatcher = false := by
  cases stage with
  | replacing p _ _ => cases p <;> simp [sponsors?, tends?, isWatcher]
  | _ => simp [sponsors?, tends?, isWatcher]

/-- After an appointment there is the new watcher, the call that has brought it, and the tasks that
are neither the call nor the watcher before. -/
private theorem View.active_of_appoint {n t c u : Nat} {outcome : Outcome} {s : Stage}
    (h : (v.appoint n t c outcome).active u = some s) :
    u = n ∧ s = .watching c ∨ s = .returned outcome ∨
      u ≠ n ∧ u ≠ t ∧ v.watcher ≠ some u ∧ v.active u = some s := by
  unfold appoint at h
  dsimp only at h
  by_cases hn : u = n
  · rw [if_pos hn] at h
    cases h
    exact .inl ⟨hn, rfl⟩
  · rw [if_neg hn] at h
    by_cases hw : v.watcher = some u
    · rw [if_pos hw] at h
      cases h
    · rw [if_neg hw] at h
      by_cases ht : u = t
      · rw [if_pos ht] at h
        cases h
        exact .inr (.inl rfl)
      · rw [if_neg ht] at h
        exact .inr (.inr ⟨hn, ht, hw, h⟩)

/-- The new watcher bears what the call has borne, and every other task what it has borne before. -/
private theorem View.borne_of_appoint {n t c u c' : Nat} {outcome : Outcome} {s : Stage}
    (hs : (v.appoint n t c outcome).active u = some s) (hc : s.bears? = some c') :
    u = n ∧ c' = c ∨ u ≠ n ∧ u ≠ t ∧ v.watcher ≠ some u ∧ v.active u = some s := by
  rcases active_of_appoint hs with ⟨rfl, rfl⟩ | rfl | hrest
  · cases hc
    exact .inl ⟨rfl, rfl⟩
  · cases hc
  · exact .inr hrest

private theorem View.appoint_of_active {n t c u : Nat} {outcome : Outcome} {s : Stage}
    (hn : v.active n = none) (ht : u ≠ t) (hw : v.watcher ≠ some u) (hu : v.active u = some s) :
    (v.appoint n t c outcome).active u = some s := by
  have hun : u ≠ n := by
    rintro rfl
    rw [hn] at hu
    cases hu
  unfold appoint
  dsimp only
  rw [if_neg hun, if_neg hw, if_neg ht]
  exact hu

private theorem View.carries_of_watcher {c : Nat}
    (h : (v.watcher.bind v.active).bind Stage.carries? = some c) :
    ∃ w s, v.watcher = some w ∧ v.active w = some s ∧ s.carries? = some c := by
  obtain ⟨s, hs, hc⟩ := Option.bind_eq_some_iff.mp h
  obtain ⟨w, hw, hs⟩ := Option.bind_eq_some_iff.mp hs
  exact ⟨w, s, hw, hs, hc⟩

private theorem Ledger.watcher_ne_of_call {u : Nat} {s : Stage} (hl : Ledger Lost Orphaned v)
    (hu : v.active u = some s) (hwatch : s.isWatcher = false) (hexited : s ≠ .exited) :
    v.watcher ≠ some u := by
  intro hw
  obtain ⟨s', hs', hslot⟩ := hl.slot u hw
  rw [hu] at hs'
  cases hs'
  rcases hslot with hslot | hslot
  · rw [hwatch] at hslot
    cases hslot
  · exact hexited hslot

/-- The watcher of a connection takes the place of the one before. -/
theorem Ledger.appoint {t n c : Nat} {outcome : Outcome} {orphaned : Option Nat}
    (hl : Ledger Lost Orphaned v) (ha : v.active t = some (.adopting c)) (hn : v.active n = none)
    (horphaned : ∀ c', orphaned = some c' ↔ v.held = some c' ∧ c' ≠ c ∧
      ∀ u stage, v.active u = some stage → stage.sponsors? ≠ some c') :
    Ledger (fun c' => (v.watcher.bind v.active).bind Stage.carries? = some c' ∨ Lost c')
      (fun c' => orphaned = some c' ∨ Orphaned c') (v.appoint n t c outcome) := by
  have hnew : (v.appoint n t c outcome).active n = some (.watching c) := if_pos rfl
  exact {
    slot := by
      intro w hw
      cases hw
      exact ⟨_, hnew, .inl rfl⟩
    placed := by
      intro u s hs hw
      rcases View.active_of_appoint hs with ⟨rfl, _⟩ | rfl | ⟨_, _, hslot, hu⟩
      · exact .inl rfl
      · cases hw
      · -- a watcher that is not in the place of the watcher is waited for
        obtain ⟨u', hu'⟩ := (hl.placed u s hu hw).resolve_left hslot
        have hne : u' ≠ t := by
          rintro rfl
          rw [ha] at hu'
          cases hu'
        exact .inr ⟨u', View.appoint_of_active hn hne (hl.watcher_ne_of_call hu' rfl nofun) hu'⟩
    counted := by
      intro u s c' hs hc
      rcases View.borne_of_appoint hs hc with ⟨_, rfl⟩ | ⟨_, _, _, hu⟩
      · exact hl.counted t _ c' ha rfl
      · exact hl.counted u s c' hu hc
    single := by
      intro u u' s s' c' hs hs' hc hc'
      rcases View.borne_of_appoint hs hc with ⟨rfl, rfl⟩ | ⟨_, hut, _, hu⟩
      · rcases View.borne_of_appoint hs' hc' with ⟨rfl, _⟩ | ⟨_, hut', _, hu'⟩
        · rfl
        · exact absurd (hl.single u' t s' _ c' hu' ha hc' rfl) hut'
      · rcases View.borne_of_appoint hs' hc' with ⟨_, rfl⟩ | ⟨_, _, _, hu'⟩
        · exact absurd (hl.single u t s _ c' hu ha hc rfl) hut
        · exact hl.single u u' s s' c' hu hu' hc hc'
    carried := by
      intro u s c' hs hc
      have hbears := Stage.bears?_eq_some.mpr (.inl hc)
      rcases View.active_of_appoint hs with ⟨_, rfl⟩ | rfl | ⟨_, _, hslot, hu⟩
      · cases hc
      · cases hc
      · obtain ⟨hheld, hclosed, hlost⟩ := hl.carried u s c' hu hc
        refine ⟨hheld, hclosed, ?_⟩
        rintro (hlost' | hlost')
        · obtain ⟨w, s', hw, hs', hc'⟩ := View.carries_of_watcher hlost'
          obtain rfl := hl.single u w s s' c' hu hs' hbears (Stage.bears?_eq_some.mpr (.inl hc'))
          exact hslot hw
        · exact hlost hlost'
    held := by
      intro c' hheld
      obtain ⟨hlt, hclosed, hlost⟩ := hl.held c' hheld
      refine ⟨hlt, hclosed, ?_⟩
      rintro (hlost' | hlost')
      · obtain ⟨w, s, _, hs, hc⟩ := View.carries_of_watcher hlost'
        exact (hl.carried w s c' hs hc).1 hheld
      · exact hlost hlost'
    fresh := hl.fresh
    known := by
      intro c' hlt
      rcases hl.known c' hlt with hheld | ⟨u, s, hu, hc⟩ | hclosed | hlost
      · exact .inl hheld
      · by_cases hw : v.watcher = some u
        · -- the watcher that is aborted has carried it
          refine .inr (.inr (.inr (.inl ?_)))
          rw [hw, Option.bind_some, hu]
          exact hc
        · have hne : u ≠ t := by
            rintro rfl
            rw [ha] at hu
            cases hu
            cases hc
          exact .inr (.inl ⟨u, s, View.appoint_of_active hn hne hw hu, hc⟩)
      · exact .inr (.inr (.inl hclosed))
      · exact .inr (.inr (.inr (.inr hlost)))
    lost := by
      rintro c' (hlost | hlost)
      · obtain ⟨w, s, _, hs, hc⟩ := View.carries_of_watcher hlost
        exact ⟨hl.counted w s c' hs (Stage.bears?_eq_some.mpr (.inl hc)),
          (hl.carried w s c' hs hc).2.1⟩
      · exact hl.lost c' hlost
    kept := by
      intro c' hheld
      -- it is the one that gets the watcher, or a call is going to give it one, or it is left alone
      by_cases hc : c' = c
      · exact .inl ⟨n, _, hnew, congrArg some hc.symm⟩
      · by_cases hsponsor : ∃ u s, v.active u = some s ∧ s.sponsors? = some c'
        · obtain ⟨u, s, hu, hs⟩ := hsponsor
          obtain ⟨htends, hwatch⟩ := Stage.sponsors?_eq_some.mp hs
          have hne : u ≠ t := by
            rintro rfl
            rw [ha] at hu
            cases hu
            cases htends
            exact hc rfl
          have hslot : v.watcher ≠ some u := by
            apply hl.watcher_ne_of_call hu hwatch
            rintro rfl
            cases htends
          exact .inl ⟨u, s, View.appoint_of_active hn hne hslot hu, htends⟩
        · refine .inr (.inr (.inr (.inl ((horphaned c').mpr ⟨hheld, hc, ?_⟩))))
          exact fun u s hu hs => hsponsor ⟨u, s, hu, hs⟩
    orphaned := by
      have hplace : ∀ u, u ≠ n → (v.appoint n t c outcome).watcher ≠ some u := by
        intro u hu hw
        cases hw
        exact hu rfl
      rintro c' (hfresh | hold)
      · obtain ⟨hheld, hne, hsponsors⟩ := (horphaned c').mp hfresh
        refine ⟨(hl.held c' hheld).1, ?_⟩
        intro u s hs hc
        rcases View.borne_of_appoint hs hc with ⟨_, rfl⟩ | ⟨hun, _, _, hu⟩
        · exact absurd rfl hne
        · refine ⟨?_, hplace u hun⟩
          rcases Stage.bears?_eq_some.mp hc with hcarries | htends
          · exact absurd hheld (hl.carried u s c' hu hcarries).1
          · -- whoever tends it without being a watcher is going to give it one
            cases hwatch : s.isWatcher with
            | true => rfl
            | false =>
              exact absurd (Stage.sponsors?_eq_some.mpr ⟨htends, hwatch⟩) (hsponsors u s hu)
      · obtain ⟨hlt, hafter⟩ := hl.orphaned c' hold
        refine ⟨hlt, ?_⟩
        intro u s hs hc
        rcases View.borne_of_appoint hs hc with ⟨_, rfl⟩ | ⟨hun, _, _, hu⟩
        · cases (hafter t _ ha rfl).1
        · exact ⟨(hafter u s hu hc).1, hplace u hun⟩ }

/-! ## §5 Moves and runs -/

private theorem Ledger.congr {Lost' Orphaned' : Nat → Prop} (hl : Ledger Lost Orphaned v)
    (hlost : ∀ c, Lost' c ↔ Lost c) (horphaned : ∀ c, Orphaned' c ↔ Orphaned c) :
    Ledger Lost' Orphaned' v := by
  have hlost' : Lost' = Lost := funext fun c => propext (hlost c)
  have horphaned' : Orphaned' = Orphaned := funext fun c => propext (horphaned c)
  rw [hlost', horphaned']
  exact hl

private theorem none_or {p : Prop} {c : Nat} : (none : Option Nat) = some c ∨ p ↔ p :=
  or_iff_right nofun

private theorem Ledger.same (hl : Ledger Lost Orphaned v) :
    Ledger (fun c => none = some c ∨ Lost c) (fun c => none = some c ∨ Orphaned c) v :=
  hl.congr (fun _ => none_or) fun _ => none_or

private theorem Stage.GoesOn.turn {t : Nat} {a b : Stage} (hgo : a.GoesOn b)
    (ha : v.active t = some a) (hj : ∀ w, a ≠ .joining w) : Turn v t a b none where
  active := ha
  watches := hgo.watches
  ends := hgo.ends
  runs := hgo.stays.2
  carries := hgo.carries.2
  tends := fun _ hc => hgo.tends.trans hc
  excuse := fun _ _ hc => .inl (hgo.tends.symm.trans hc)
  orphans := nofun
  losing := fun h => absurd h hgo.stays.1
  joining := fun w _ h => absurd h (hj w)

/-- A watcher that sees that it is to end lets go of what it carries and of what it tends. -/
private theorem turn_of_stop {t : Nat} {a : Stage} (ha : v.active t = some a)
    (hwatch : a.isWatcher = true) (hl : a ≠ .losing) :
    Turn v t a .exited (a.tends?.filter fun c => decide (v.held = some c)) where
  active := ha
  watches := nofun
  ends := fun _ => .inr rfl
  runs := by
    rintro rfl
    cases hwatch
  carries := rfl
  tends := nofun
  excuse := by
    intro c hheld hc
    refine .inr (.inr (.inr ?_))
    rw [Option.filter_eq_some_iff]
    exact ⟨hc, decide_eq_true hheld⟩
  orphans := by
    intro c hc
    rw [Option.filter_eq_some_iff] at hc
    exact ⟨of_decide_eq_true hc.2, hc.1, rfl⟩
  losing := fun h => absurd h hl
  joining := by
    rintro w stage rfl
    cases hwatch

/-- Every move keeps the ledger. -/
theorem Ledger.move {v' : View} {lost orphaned : Option Nat} (hl : Ledger Lost Orphaned v)
    (hm : Move v lost orphaned v') :
    Ledger (fun c => lost = some c ∨ Lost c) (fun c => orphaned = some c ∨ Orphaned c) v' := by
  cases hm with
  | remark ended hended => exact (hl.remark hended).same
  | enter t stage hnew hidle => exact (hl.enter hnew hidle).same
  | pass t stage stage' ha hgo hj =>
    have hturn := hl.turn (hgo.turn ha hj)
    rw [hgo.carries.1] at hturn
    exact hturn
  | joined t w ha hended =>
    have hturn : Turn v t (.joining w) .emptying none := by
      refine ⟨ha, nofun, nofun, nofun, rfl, nofun, nofun, nofun, nofun, ?_⟩
      intro w' stage hw' hs
      cases hw'
      exact hended stage hs
    exact hl.turn hturn
  | fail t c ha =>
    have hturn : Turn v t (.watching c) .losing none :=
      ⟨ha, fun _ => rfl, fun _ => .inl rfl, nofun, rfl, nofun, fun _ _ _ => .inr (.inl rfl), nofun,
        nofun, nofun⟩
    exact hl.turn hturn
  | finish t c ha hended =>
    have hturn : Turn v t (.watching c) .exited none := by
      refine ⟨ha, nofun, fun _ => .inr rfl, nofun, rfl, nofun, ?_, nofun, nofun, nofun⟩
      intro c' _ hc
      cases hc
      exact .inr (.inr (.inl hended))
    exact hl.turn hturn
  | stop t stage ha hwatch hlosing => exact hl.turn (turn_of_stop ha hwatch hlosing)
  | dialed t p ha => exact (hl.dial ha).same
  | hold t p c stage' ha hcarries htends hwatch =>
    -- what was held is closed first, and then nothing is held
    exact (hl.release.install rfl ha hcarries htends hwatch).same
  | clear t stage stage' ha hidle hidle' hj =>
    have hgo := Stage.goesOn_of_idle hidle hidle'
    have hturn := hl.turn (hgo.turn ha hj)
    rw [hgo.carries.1] at hturn
    exact hturn.release
  | lose t ha =>
    -- what is held is forgotten first, so that nothing is held that the watcher could leave alone
    have hturn : Turn { v with held := none } t .losing (.dialing (.redialing 0)) none :=
      ⟨ha, fun _ => rfl, fun _ => .inl rfl, nofun, rfl, nofun, nofun, nofun, fun _ => rfl, nofun⟩
    exact (hl.forget.turn hturn).congr (fun _ => none_or.symm) fun _ => Iff.rfl
  | appoint t n c outcome orphaned ha hn horphaned => exact hl.appoint ha hn horphaned
  | take t w ha hw =>
    have hturn : Turn v t .stopping (.joining w) none :=
      ⟨ha, nofun, nofun, nofun, rfl, nofun, nofun, nofun, nofun, nofun⟩
    apply (hl.turn hturn).vacate
    intro w' hw'
    have hsame : v.watcher = some w' := hw'
    rw [hw] at hsame
    cases hsame
    exact ⟨t, v.set_self t _⟩

private theorem mem_filterMap_cons {α : Type} {f : α → Option Nat} {a : α} {l : List α} {c : Nat} :
    c ∈ (a :: l).filterMap f ↔ f a = some c ∨ c ∈ l.filterMap f := by
  rw [List.filterMap_cons]
  cases f a with
  | none => simp
  | some b => simp [eq_comm]

/-- The ledger is right in every run. -/
theorem ledger_of_run {policy : Policy} {history : List (Dialer × Label)} {d : Dialer}
    (h : Run policy history d) : Ledger (· ∈ lost history) (· ∈ orphaned history) d.view := by
  -- on the run, with the ledger as the invariant
  induction h with
  | new => exact Ledger.new.congr (fun _ => List.mem_nil_iff _) fun _ => List.mem_nil_iff _
  | step label _ hstep ih =>
    apply (ih.move (move_of_step hstep)).congr
    · intro c
      exact mem_filterMap_cons
    · intro c
      exact mem_filterMap_cons

end Courier.Dialer
