import Courier.Proofs.Publisher.Run

/-!
# Closing a publisher

The first call that closes a publisher empties the cache and closes what was in it. Calls that come
after it return at once, but a batch that had begun before looks at the closed flag no more: when
the closing call has returned, it may still open handles, which nobody closes, and hand envelopes to
them. `closed_for_good_iff` says exactly when a publisher stays closed.
-/

namespace Courier.Publisher

/-! ## §1 What is over -/

/-- Whether a handle is opened or handed an envelope. -/
def Request.works : Request → Bool
  | .openHandle _ | .send _ _ => true
  | .closeHandle _ _ => false

/-- Whether a step asks for a handle, or hands an envelope to one. -/
def Beat.Works (beat : Beat) : Prop :=
  ∃ task r, .asked task r ∈ beat.events ∧ r.works = true

/-- Whether a handle was closed. -/
def WasClosed (history : List Beat) (handle : Nat) : Prop :=
  ∃ beat ∈ history, ∃ task destination,
    .asked task (.closeHandle destination handle) ∈ beat.events

/-- Whether a call is the first one that closes the publisher. -/
def ClosedBy (history : List Beat) (t : Nat) : Prop :=
  ∃ beat ∈ history, beat.label = .close ∧ beat.before.closed = false ∧
    beat.before.tasks.length = t

/-- From now on no handle is opened and no envelope is handed to one, and no handle is left in the
cache that was not closed. -/
def IsFinal (setup : Setup) (earlier : List Beat) (p : Publisher) : Prop :=
  ∀ later p', Run setup p later p' → (∀ beat ∈ later, ¬beat.Works) ∧
    ∀ entry ∈ p'.cache.toList, WasClosed (later ++ earlier) entry.2

/-- Whether a batch has a next message that can be encoded. -/
def Setup.hasNext (setup : Setup) (batch : Batch) : Bool :=
  match batch.messages with
  | [] => false
  | m :: _ => (setup.encodeBody m.body).isOk

/-- Whether a call needs no handle any more. -/
def Setup.isSpent (setup : Setup) : Stage → Bool
  | .returned _ => true
  | .sending _ _ rest => !setup.hasNext rest
  | _ => false

def Stage.isReturned : Stage → Bool
  | .returned _ => true
  | _ => false

/-- Whether a call at a stage closes the publisher. -/
def Stage.closes : Stage → Bool
  | .draining | .closing _ _ _ => true
  | _ => false

variable {setup : Setup} {p p' : Publisher} {label : Label} {history earlier : List Beat} {t : Nat}
  {next : Stage} {asked : List Request} {events : List Event}

theorem Setup.GoesOn.needsCache {batch : Batch} (h : setup.GoesOn batch next) :
    next.needsCache = setup.hasNext batch := by
  unfold Setup.hasNext
  cases h with
  | done hnil => rw [hnil]; rfl
  | unencoded m rest e hcons hbody => simp only [hcons, hbody]; rfl
  | seek m rest body envelope hcons hbody => simp only [hcons, hbody]; rfl

theorem Setup.GoesOn.isReturned {batch : Batch} (h : setup.GoesOn batch next)
    (hnext : setup.hasNext batch = false) : next.isReturned = true := by
  have hneeds := h.needsCache
  cases h with
  | done | unencoded => rfl
  | seek => rw [hnext] at hneeds; cases hneeds

theorem Setup.GoesOn.closes {batch : Batch} (h : setup.GoesOn batch next) :
    next.closes = false := by
  cases h <;> rfl

/-! ## §2 Who takes a step -/

/-- A call that takes a step is a new one, which asks for nothing and returns at once if the
publisher is closed, or one that has not returned; and only a call that closes the publisher goes on
to do so. -/
theorem Move.caller (h : Move setup p label t next asked p') :
    (t = p.tasks.length ∧ asked = [] ∧ (p.closed = true → next.isReturned = true) ∧
      (next.closes = true → label = .close ∧ p.closed = false)) ∨
    ∃ stage, p.tasks[t]? = some stage ∧ stage.isReturned = false ∧
      (next.closes = true → stage.closes = true) := by
  cases h with
  | refuse | closeAgain => exact .inl ⟨rfl, rfl, fun _ => rfl, nofun⟩
  | begin batch next prepared hopen hgo =>
    refine .inl ⟨rfl, rfl, fun hclosed => ?_, fun hcloses => ?_⟩
    · rw [hopen] at hclosed
      cases hclosed
    · rw [hgo.closes] at hcloses
      cases hcloses
  | close hopen =>
    refine .inl ⟨rfl, rfl, fun hclosed => ?_, fun _ => ⟨rfl, hopen⟩⟩
    rw [hopen] at hclosed
    cases hclosed
  | use t isClosed e rest handle _ hstage => exact .inr ⟨_, hstage, rfl, nofun⟩
  | reopen t isClosed e rest _ hstage => exact .inr ⟨_, hstage, rfl, nofun⟩
  | drain t isClosed next asked _ hstage => exact .inr ⟨_, hstage, rfl, fun _ => rfl⟩
  | opened t e rest hstage => exact .inr ⟨_, hstage, rfl, nofun⟩
  | unopened t e rest err hstage => exact .inr ⟨_, hstage, rfl, nofun⟩
  | sent t handle e rest next prepared hstage hgo =>
    refine .inr ⟨_, hstage, rfl, fun hcloses => ?_⟩
    rw [hgo.closes] at hcloses
    cases hcloses
  | unsent t handle e rest err hstage => exact .inr ⟨_, hstage, rfl, nofun⟩
  | closed t destination handle rest result next asked hstage =>
    exact .inr ⟨_, hstage, rfl, fun _ => rfl⟩

/-- A closed publisher stays closed. -/
theorem Move.isClosed (h : Move setup p label t next asked p') (hclosed : p.closed = true) :
    p'.closed = true := by
  cases h with
  | close => rfl
  | _ => exact hclosed

theorem closedBy_cons {u : Nat} : ClosedBy (⟨p, label, events⟩ :: history) u ↔
    label = .close ∧ p.closed = false ∧ p.tasks.length = u ∨ ClosedBy history u := by
  simp only [ClosedBy, List.mem_cons, or_and_right, exists_or, exists_eq_left]

/-- What holds of the call that closes the publisher in every run: there is one, no other call
empties the cache or closes handles, and the calls that come after it have returned. -/
structure Shut (history : List Beat) (p : Publisher) : Prop where
  closed : ∀ t, ClosedBy history t → p.closed = true
  unique : ∀ t u, ClosedBy history t → ClosedBy history u → t = u
  closing : ∀ t stage, p.tasks[t]? = some stage → stage.closes = true → ClosedBy history t
  later : ∀ t u stage, ClosedBy history t → t < u → p.tasks[u]? = some stage →
    stage.isReturned = true

theorem not_closedBy_nil : ¬ClosedBy [] t :=
  fun ⟨_, hbeat, _⟩ => nomatch hbeat

theorem Shut.new : Shut [] .new :=
  ⟨fun _ h => absurd h not_closedBy_nil, fun _ _ h => absurd h not_closedBy_nil,
    nofun, fun _ _ _ h => absurd h not_closedBy_nil⟩

/-- The first closing call begins. -/
private theorem Shut.first (hs : Shut history p) (hm : Move setup p .close t next asked p')
    (hopen : p.closed = false) : Shut (⟨p, .close, events⟩ :: history) p' := by
  have hnone : ∀ u, ¬ClosedBy history u := by
    intro u hu
    rw [hs.closed u hu] at hopen
    cases hopen
  have hby : ∀ u, ClosedBy (⟨p, .close, events⟩ :: history) u ↔ p.tasks.length = u := by
    intro u
    rw [closedBy_cons]
    exact ⟨fun h => h.elim (·.2.2) fun h => absurd h (hnone u), fun h => .inl ⟨rfl, hopen, h⟩⟩
  have hputs := hm.puts
  cases hm with
  | closeAgain hclosed =>
    rw [hopen] at hclosed
    cases hclosed
  | close =>
    refine ⟨fun _ _ => rfl, ?_, ?_, ?_⟩
    · intro u v hu hv
      exact ((hby u).mp hu).symm.trans ((hby v).mp hv)
    · intro u stage hu hcloses
      rcases hputs.of_ne hu with ⟨rfl, _⟩ | ⟨_, hu⟩
      · exact (hby _).mpr rfl
      · exact absurd (hs.closing u stage hu hcloses) (hnone u)
    · intro u v stage hu hlt hv
      obtain rfl := (hby u).mp hu
      rcases hputs.of_ne hv with ⟨rfl, _⟩ | ⟨_, hv⟩
      · exact absurd hlt (Nat.lt_irrefl _)
      · rw [List.getElem?_eq_none (Nat.le_of_lt hlt)] at hv
        cases hv

/-- Every move keeps the order between the first closing call and the others. -/
theorem Shut.move (hs : Shut history p) (hm : Move setup p label t next asked p') :
    Shut (⟨p, label, events⟩ :: history) p' := by
  by_cases hfirst : label = .close ∧ p.closed = false
  · obtain ⟨rfl, hopen⟩ := hfirst
    exact hs.first hm hopen
  · have hby : ∀ u, ClosedBy (⟨p, label, events⟩ :: history) u ↔ ClosedBy history u := by
      intro u
      rw [closedBy_cons]
      exact ⟨fun h => h.elim (fun h => absurd ⟨h.1, h.2.1⟩ hfirst) id, .inr⟩
    have hcaller := hm.caller
    have hputs := hm.puts
    refine ⟨?_, ?_, ?_, ?_⟩
    · intro u hu
      exact hm.isClosed (hs.closed u ((hby u).mp hu))
    · intro u v hu hv
      exact hs.unique u v ((hby u).mp hu) ((hby v).mp hv)
    · intro u stage hu hcloses
      rw [hby]
      rcases hputs.of_ne hu with ⟨rfl, rfl⟩ | ⟨_, hu⟩
      · rcases hcaller with ⟨_, _, _, hclose⟩ | ⟨stage', hstage', _, hcloses'⟩
        · exact absurd (hclose hcloses) hfirst
        · exact hs.closing u stage' hstage' (hcloses' hcloses)
      · exact hs.closing u stage hu hcloses
    · intro u v stage hu hlt hv
      rw [hby] at hu
      rcases hputs.of_ne hv with ⟨rfl, rfl⟩ | ⟨_, hv⟩
      · rcases hcaller with ⟨_, _, hreturned, _⟩ | ⟨stage', hstage', hactive, _⟩
        · exact hreturned (hs.closed u hu)
        · -- the call has returned, so it takes no step
          rw [hs.later u v stage' hu hlt hstage'] at hactive
          cases hactive
      · exact hs.later u v stage hu hlt hv

theorem Run.shut (h : Run setup .new history p) : Shut history p :=
  h.invariant .new fun hs hm _ => hs.move hm

/-! ## §3 Handles that are closed -/

/-- Whether a handle was closed or is about to be closed. -/
def Retired (history : List Beat) (p : Publisher) (handle : Nat) : Prop :=
  WasClosed history handle ∨ ∃ (t : Nat) (destination : String) (other : Nat)
    (rest : List (String × Nat)), p.tasks[t]? = some (.closing destination other rest) ∧
      ∃ entry ∈ rest, entry.2 = handle

/-- Handles that are closed or about to be closed are none of those in the cache, and none of those
that are still to be opened. -/
structure Tracked (history : List Beat) (p : Publisher) : Prop where
  cached : ∀ entry ∈ p.cache.toList, entry.2 < p.opened
  retired : ∀ handle, Retired history p handle → handle < p.opened
  apart : ∀ handle, Retired history p handle → ∀ entry ∈ p.cache.toList, entry.2 ≠ handle

/-- Handles that a call closes, or is going to close, are among those that it was given. -/
theorem Closes.mem {handles : List (String × Nat)} (h : Closes handles next asked) {handle : Nat}
    (hmem : (∃ destination, .closeHandle destination handle ∈ asked) ∨
      ∃ destination other rest, next = .closing destination other rest ∧
        ∃ entry ∈ rest, entry.2 = handle) : ∃ entry ∈ handles, entry.2 = handle := by
  cases h with
  | none => rcases hmem with ⟨_, hmem⟩ | ⟨_, _, _, hnext, _⟩ <;> contradiction
  | next destination other rest =>
    rcases hmem with ⟨destination', hmem⟩ | ⟨_, _, _, hnext, hmem⟩
    · cases List.mem_singleton.mp hmem
      exact ⟨_, List.mem_cons_self, rfl⟩
    · cases hnext
      obtain ⟨entry, hentry, heq⟩ := hmem
      exact ⟨entry, List.mem_cons_of_mem _ hentry, heq⟩

/-- A handle that a move closes, or is going to close, was in the cache, which is empty now, or was
going to be closed already. -/
theorem Move.closes_mem (h : Move setup p label t next asked p') {handle : Nat}
    (hmem : (∃ destination, .closeHandle destination handle ∈ asked) ∨
      ∃ destination other rest, next = .closing destination other rest ∧
        ∃ entry ∈ rest, entry.2 = handle) :
    (p'.cache = Dict.empty ∧ ∃ entry ∈ p.cache.toList, entry.2 = handle) ∨
    ∃ destination other rest, p.tasks[t]? = some (.closing destination other rest) ∧
      ∃ entry ∈ rest, entry.2 = handle := by
  cases h with
  | drain t isClosed next asked _ _ hcloses => exact .inl ⟨rfl, hcloses.mem hmem⟩
  | closed t destination other rest result next asked hstage hcloses =>
    exact .inr ⟨destination, other, rest, hstage, hcloses.mem hmem⟩
  | begin batch next prepared _ hgo | sent t handle e rest next prepared _ hgo =>
    rcases hmem with ⟨_, hmem⟩ | ⟨_, _, _, rfl, _⟩
    · cases hmem
    · cases hgo
  | _ =>
    rcases hmem with ⟨_, hmem⟩ | ⟨_, _, _, hnext, _⟩
    · simp at hmem
    · cases hnext

/-- Handles are put into the cache when they are opened, and they are numbered in this order. -/
theorem Move.cache (h : Move setup p label t next asked p') : p.opened ≤ p'.opened ∧
    ∀ entry ∈ p'.cache.toList, entry ∈ p.cache.toList ∨
      entry.2 = p.opened ∧ p.opened < p'.opened := by
  cases h with
  | opened t e rest _ =>
    refine ⟨Nat.le_succ _, fun entry hentry => ?_⟩
    rcases Dict.mem_toList_insert hentry with rfl | hold
    · exact .inr ⟨rfl, Nat.lt_succ_self _⟩
    · exact .inl hold
  | drain => exact ⟨Nat.le_refl _, nofun⟩
  | _ => exact ⟨Nat.le_refl _, fun _ hentry => .inl hentry⟩

/-- A handle that is closed or about to be after a move was so before it, or it was in the cache,
which is empty now. -/
theorem Move.retired (h : Move setup p label t next asked p')
    (hr : requests events = asked.map (t, ·)) {handle : Nat}
    (hretired : Retired (⟨p, label, events⟩ :: history) p' handle) :
    Retired history p handle ∨
      p'.cache = Dict.empty ∧ ∃ entry ∈ p.cache.toList, entry.2 = handle := by
  have hhere : (∃ destination, .closeHandle destination handle ∈ asked) ∨
      (∃ destination other rest, next = .closing destination other rest ∧
        ∃ entry ∈ rest, entry.2 = handle) → Retired history p handle ∨
      p'.cache = Dict.empty ∧ ∃ entry ∈ p.cache.toList, entry.2 = handle := by
    intro hmem
    rcases h.closes_mem hmem with hdrained | ⟨destination, other, rest, hstage, hentry⟩
    · exact .inr hdrained
    · exact .inl (.inr ⟨t, destination, other, rest, hstage, hentry⟩)
  rcases hretired with
    ⟨beat, hbeat, task, destination, hasked⟩ | ⟨u, destination, other, rest, hu, hentry⟩
  · rcases List.mem_cons.mp hbeat with rfl | hbeat
    · obtain ⟨_, hmem⟩ := asked_of_requests hr hasked
      exact hhere (.inl ⟨destination, hmem⟩)
    · exact .inl (.inl ⟨beat, hbeat, task, destination, hasked⟩)
  · rcases h.puts.of_ne hu with ⟨rfl, hnext⟩ | ⟨_, hu⟩
    · exact hhere (.inr ⟨destination, other, rest, hnext.symm, hentry⟩)
    · exact .inl (.inr ⟨u, destination, other, rest, hu, hentry⟩)

theorem Tracked.new : Tracked [] .new := by
  have hnone : ∀ handle, ¬Retired [] .new handle := by
    rintro handle (⟨_, hbeat, _⟩ | ⟨_, _, _, _, hstage, _⟩)
    · cases hbeat
    · cases hstage
  exact ⟨nofun, fun handle h => absurd h (hnone handle), fun handle h => absurd h (hnone handle)⟩

/-- Every move keeps the handles that are closed apart from those that are not. -/
theorem Tracked.move (ht : Tracked history p) (h : Move setup p label t next asked p')
    (hr : requests events = asked.map (t, ·)) : Tracked (⟨p, label, events⟩ :: history) p' := by
  obtain ⟨hle, hcache⟩ := h.cache
  refine ⟨?_, ?_, ?_⟩
  · intro entry hentry
    rcases hcache entry hentry with hold | ⟨heq, hlt⟩
    · exact Nat.lt_of_lt_of_le (ht.cached entry hold) hle
    · exact heq ▸ hlt
  · intro handle hretired
    rcases h.retired hr hretired with hold | ⟨_, entry, hentry, rfl⟩
    · exact Nat.lt_of_lt_of_le (ht.retired handle hold) hle
    · exact Nat.lt_of_lt_of_le (ht.cached entry hentry) hle
  · intro handle hretired entry hentry
    rcases h.retired hr hretired with hold | ⟨hempty, _⟩
    · rcases hcache entry hentry with hentry | ⟨heq, _⟩
      · exact ht.apart handle hold entry hentry
      · rw [heq]
        exact Nat.ne_of_gt (ht.retired handle hold)
    · rw [hempty] at hentry
      cases hentry

theorem Run.tracked (h : Run setup .new history p) : Tracked history p :=
  h.invariant .new fun ht hm hr => ht.move hm hr

/-! ## §4 After the publisher is closed -/

/-- A closed publisher on which no call from a number on has anything to do. -/
structure IsClosedFrom (p : Publisher) (t : Nat) : Prop where
  closed : p.closed = true
  returned : ∀ u stage, t ≤ u → p.tasks[u]? = some stage → stage.isReturned = true

/-- The calls that take steps are those before that number. -/
theorem IsClosedFrom.move {u : Nat} (hc : p.IsClosedFrom u)
    (h : Move setup p label t next asked p') :
    p'.IsClosedFrom u ∧ (asked ≠ [] → t < u) := by
  have hputs := h.puts
  rcases h.caller with ⟨_, hasked, hreturned, _⟩ | ⟨stage, hstage, hactive, _⟩
  · refine ⟨⟨h.isClosed hc.closed, ?_⟩, fun hne => absurd hasked hne⟩
    intro v stage hle hv
    rcases hputs.of_ne hv with ⟨_, rfl⟩ | ⟨_, hv⟩
    · exact hreturned hc.closed
    · exact hc.returned v stage hle hv
  · have hlt : t < u := by
      refine Nat.lt_of_not_le fun hle => ?_
      rw [hc.returned t stage hle hstage] at hactive
      cases hactive
    refine ⟨⟨h.isClosed hc.closed, ?_⟩, fun _ => hlt⟩
    intro v stage hle hv
    rcases hputs.of_ne hv with ⟨rfl, _⟩ | ⟨_, hv⟩
    · exact absurd hle (Nat.not_le_of_lt hlt)
    · exact hc.returned v stage hle hv

theorem IsClosedFrom.run {u : Nat} {later : List Beat} (hc : p.IsClosedFrom u)
    (h : Run setup p later p') : p'.IsClosedFrom u ∧
      ∀ beat ∈ later, ∀ task r, .asked task r ∈ beat.events → task < u := by
  refine h.invariant (P := fun later q => q.IsClosedFrom u ∧
    ∀ beat ∈ later, ∀ task r, .asked task r ∈ beat.events → task < u) ⟨hc, nofun⟩ ?_
  rintro later q q' label t next asked events ⟨hc', hlater⟩ hm hr
  obtain ⟨hc'', hlt⟩ := hc'.move hm
  refine ⟨hc'', fun beat hbeat task r hasked => ?_⟩
  rcases List.mem_cons.mp hbeat with rfl | hbeat
  · obtain ⟨rfl, hmem⟩ := asked_of_requests hr hasked
    exact hlt (List.ne_nil_of_mem hmem)
  · exact hlater beat hbeat task r hasked

/-- A closed publisher with an empty cache and no call that needs a handle. -/
structure IsSpent (setup : Setup) (p : Publisher) : Prop where
  closed : p.closed = true
  cache : p.cache.toList = []
  spent : ∀ (t : Nat) (stage : Stage), p.tasks[t]? = some stage → setup.isSpent stage = true

/-- Nothing is asked for any more. -/
theorem IsSpent.move (hs : p.IsSpent setup) (h : Move setup p label t next asked p') :
    p'.IsSpent setup ∧ asked = [] := by
  have hputs := h.puts
  have hclosed := h.isClosed hs.closed
  have hreturned : next.isReturned = true → p'.cache = p.cache → asked = [] →
      p'.IsSpent setup ∧ asked = [] := by
    intro hnext hcache hasked
    refine ⟨⟨hclosed, hcache ▸ hs.cache, ?_⟩, hasked⟩
    intro u stage hu
    rcases hputs.of_ne hu with ⟨_, rfl⟩ | ⟨_, hu⟩
    · cases stage with
      | returned => rfl
      | _ => cases hnext
    · exact hs.spent u stage hu
  cases h with
  | refuse | closeAgain | unsent => exact hreturned rfl rfl rfl
  | begin _ _ _ hopen | close hopen =>
    rw [hs.closed] at hopen
    cases hopen
  | sent t handle e rest next prepared hstage hgo =>
    have hspent : setup.hasNext rest = false := by simpa [Setup.isSpent] using hs.spent t _ hstage
    exact hreturned (hgo.isReturned hspent) rfl rfl
  | use _ _ _ _ _ _ hstage | reopen _ _ _ _ _ hstage | drain _ _ _ _ _ hstage
  | opened _ _ _ hstage | unopened _ _ _ _ hstage | closed _ _ _ _ _ _ _ hstage =>
    cases hs.spent _ _ hstage

theorem IsSpent.run {later : List Beat} (hs : p.IsSpent setup) (h : Run setup p later p') :
    p'.IsSpent setup ∧ ∀ beat ∈ later, ¬beat.Works := by
  refine h.invariant (P := fun later q => q.IsSpent setup ∧ ∀ beat ∈ later, ¬beat.Works)
    ⟨hs, nofun⟩ ?_
  rintro later q q' label t next asked events ⟨hs', hlater⟩ hm hr
  obtain ⟨hs'', rfl⟩ := hs'.move hm
  refine ⟨hs'', fun beat hbeat => ?_⟩
  rcases List.mem_cons.mp hbeat with rfl | hbeat
  · rintro ⟨task, r, hasked, _⟩
    cases (asked_of_requests hr hasked).2
  · exact hlater beat hbeat

theorem IsSpent.isFinal (hs : p.IsSpent setup) : p.IsFinal setup earlier := by
  intro later p' h
  obtain ⟨hs', hlater⟩ := hs.run h
  refine ⟨hlater, fun entry hentry => ?_⟩
  rw [hs'.cache] at hentry
  cases hentry

/-! ## §5 Calls that need a handle -/

/-- If some call needs the cache and none empties it, some call asks for a handle or hands it an
envelope next. -/
theorem Disciplined.exists_works {stage : Stage} (hd : p.Disciplined)
    (hstage : p.tasks[t]? = some stage) (hneeds : stage.needsCache = true)
    (hnone : ∀ u : Nat, p.tasks[u]? ≠ some .draining) :
    ∃ label p' events, p.step setup label = some (p', events) ∧
      Beat.Works ⟨p, label, events⟩ := by
  -- the call that holds the lock can go on
  obtain ⟨u, hheld⟩ := Lock.exists_isHeldBy hd.served ((hd.mem_queue t).mpr ⟨stage, hstage, hneeds⟩)
  obtain ⟨stage', hu, hneeds'⟩ := (hd.mem_queue u).mp (Lock.mem_queue_of_isHeldBy hheld)
  cases stage' with
  | seeking e rest =>
    refine ⟨.proceed u true, p.setStage u (.opening e rest),
      [.asked u (.openHandle e.destination)], ?_, u, _, List.mem_cons_self, rfl⟩
    simp only [step, hheld, if_true, proceed, hu]
    cases p.cache.get? e.destination <;> rfl
  | opening e rest =>
    have hstep : p.step setup (.answer u (.ok ())) = some (Publisher.send { p with
        cache := p.cache.insert e.destination p.opened
        opened := p.opened + 1 }.releaseLock u p.opened e rest) := by
      simp only [step, answered, hu]
    exact ⟨_, _, _, hstep, u, _, List.mem_cons_self, rfl⟩
  | draining => exact absurd hu (hnone u)
  | _ => cases hneeds'

/-- A batch that is sent comes to its next message when the transport has answered. -/
theorem exists_seeking {handle : Nat} {e : Envelope} {rest : Batch}
    (hstage : p.tasks[t]? = some (.sending handle e rest)) (hnext : setup.hasNext rest = true) :
    ∃ p' events next, p.step setup (.answer t (.ok ())) = some (p', events) ∧
      Puts p.tasks p'.tasks t next ∧ next.needsCache = true ∧ next.closes = false := by
  have hstep : p.step setup (.answer t (.ok ())) = some (p.next setup t rest) := by
    simp only [step, answered, hstage]
  generalize p.next setup t rest = effect at hstep
  obtain ⟨p', events⟩ := effect
  obtain ⟨t', next, asked, hm, _⟩ := moves_of_step hstep
  have hputs := hm.puts
  cases hm with
  | opened _ _ _ hstage' | closed _ _ _ _ _ _ _ hstage' =>
    rw [hstage] at hstage'
    cases hstage'
  | sent _ handle' e' rest' _ prepared hstage' hgo =>
    rw [hstage] at hstage'
    cases hstage'
    exact ⟨_, events, next, hstep, hputs, hgo.needsCache.trans hnext, hgo.closes⟩

/-- As long as a batch needs a handle, a publisher that no call closes is not closed for good. -/
theorem Disciplined.not_isFinal {stage : Stage} (hd : p.Disciplined)
    (hstage : p.tasks[t]? = some stage) (hunspent : setup.isSpent stage = false)
    (hnone : ∀ (u : Nat) (stage : Stage), p.tasks[u]? = some stage → stage.closes = false) :
    ¬p.IsFinal setup earlier := by
  have hdraining : ∀ {q : Publisher}, (∀ (u : Nat) (stage : Stage), q.tasks[u]? = some stage →
      stage.closes = false) → ∀ u : Nat, q.tasks[u]? ≠ some .draining :=
    fun hnone u hu => Bool.noConfusion (hnone u _ hu)
  intro hfinal
  cases hneeds : stage.needsCache with
  | true =>
    obtain ⟨label, p', events, hstep, hworks⟩ := hd.exists_works hstage hneeds (hdraining hnone)
    exact (hfinal _ _ (.step label .refl hstep)).1 _ List.mem_cons_self hworks
  | false =>
    cases stage with
    | sending handle e rest =>
      have hnext : setup.hasNext rest = true := by simpa [Setup.isSpent] using hunspent
      obtain ⟨p', events, next, hstep, hputs, hneeds', hcloses⟩ := exists_seeking hstage hnext
      obtain ⟨_, _, _, hm, _⟩ := moves_of_step hstep
      have hnone' : ∀ (u : Nat) (stage : Stage), p'.tasks[u]? = some stage →
          stage.closes = false := by
        intro u stage hu
        rcases hputs.of_ne hu with ⟨_, rfl⟩ | ⟨_, hu⟩
        · exact hcloses
        · exact hnone u stage hu
      obtain ⟨label, p'', events', hstep', hworks⟩ :=
        (hd.move hm).exists_works hputs.here hneeds' (hdraining hnone')
      exact (hfinal _ _ (.step label (.step _ .refl hstep) hstep')).1 _ List.mem_cons_self hworks
    | returned => cases hunspent
    | closing => cases hnone t _ hstage
    | seeking | opening | draining => cases hneeds

/-! ## §6 Closing for good -/

/-- However calls to publish and to close and answers of the transport follow on each other: when
the first closing call has returned, only batches that had begun before it ask for anything; and the
publisher is closed for good exactly if no handle was put into the cache again by then and none of
these batches has a message left that can be encoded. -/
theorem closed_for_good_iff {result : Except BrokerError Unit} (hrun : Run setup .new earlier p)
    (hclosed : ClosedBy earlier t) (hreturned : p.tasks[t]? = some (.returned result)) :
    (∀ later p', Run setup p later p' →
      ∀ beat ∈ later, ∀ task r, .asked task r ∈ beat.events → task < t) ∧
    (p.IsFinal setup earlier ↔
      p.cache.toList = [] ∧ ∀ stage ∈ p.tasks, setup.isSpent stage = true) := by
  have hs := hrun.shut
  have hnone : ∀ (u : Nat) (stage : Stage), p.tasks[u]? = some stage → stage.closes = false := by
    intro u stage hu
    cases hcloses : stage.closes with
    | false => rfl
    | true =>
      -- only the first closing call could do so, and it has returned
      obtain rfl := hs.unique t u hclosed (hs.closing u stage hu hcloses)
      rw [hreturned] at hu
      cases hu
      cases hcloses
  refine ⟨?_, ?_, ?_⟩
  · intro later p' hlater
    refine (IsClosedFrom.run ⟨hs.closed t hclosed, ?_⟩ hlater).2
    intro u stage hle hu
    rcases Nat.lt_or_eq_of_le hle with hlt | rfl
    · exact hs.later t u stage hclosed hlt hu
    · rw [hreturned] at hu
      cases hu
      rfl
  · intro hfinal
    constructor
    · refine List.eq_nil_iff_forall_not_mem.mpr fun entry hentry => ?_
      exact hrun.tracked.apart _ (.inl ((hfinal [] p .refl).2 entry hentry)) entry hentry rfl
    · intro stage hmem
      obtain ⟨u, hu⟩ := List.mem_iff_getElem?.mp hmem
      cases hspent : setup.isSpent stage with
      | true => rfl
      | false => exact absurd hfinal (hrun.disciplined.not_isFinal hu hspent hnone)
  · rintro ⟨hcache, hspent⟩
    exact IsSpent.isFinal ⟨hs.closed t hclosed, hcache,
      fun u stage hu => hspent stage (List.mem_of_getElem? hu)⟩

/-- A publisher of messages as they are. -/
def Setup.plain : Setup :=
  ⟨.json, .off, none, fun _ => "1"⟩

/-- The publisher is closed before the transport has taken the last message of a batch. -/
def lastMessage : List Label :=
  [.publish ⟨.none, [.new "a"]⟩, .proceed 0 false, .answer 0 (.ok ()), .close, .proceed 1 false,
    .answer 1 (.ok ())]

/-- The batch needs no handle any more, so the publisher is closed for good. -/
theorem closed_after_lastMessage :
    ∃ earlier p, replay Setup.plain [] .new lastMessage = some (earlier, p) ∧ ClosedBy earlier 1 ∧
      p.tasks[1]? = some (.returned (.ok ())) ∧ p.IsFinal Setup.plain earlier ∧
      ∀ later p', Run Setup.plain p later p' →
        ∀ beat ∈ later, ∀ task r, .asked task r ∈ beat.events → task < 1 := by
  obtain ⟨earlier, p, hreplay, hclosed, hreturned, hcache, hspent⟩ :
      ∃ earlier p, replay Setup.plain [] .new lastMessage = some (earlier, p) ∧
        ClosedBy earlier 1 ∧ p.tasks[1]? = some (.returned (.ok ())) ∧ p.cache.toList = [] ∧
        p.tasks.all Setup.plain.isSpent = true :=
    ⟨_, _, rfl, ⟨_, .tail _ (.tail _ (.head _)), rfl, rfl, rfl⟩, rfl, rfl, rfl⟩
  obtain ⟨hlater, hfinal⟩ := closed_for_good_iff (run_of_replay .refl hreplay) hclosed hreturned
  exact ⟨earlier, p, hreplay, hclosed, hreturned,
    hfinal.mpr ⟨hcache, List.all_eq_true.mp hspent⟩, hlater⟩

/-- The publisher is closed before the transport has taken the first message of a batch. -/
def firstMessage : List Label :=
  [.publish ⟨.none, [.new "a", .new "b"]⟩, .proceed 0 false, .answer 0 (.ok ()), .close,
    .proceed 1 false, .answer 1 (.ok ())]

/-- A publisher need not stay closed: when the closing call has returned, the batch goes on with its
second message, for which it opens a handle that is never closed. -/
theorem not_final_after_firstMessage :
    ¬∀ (setup : Setup) (earlier : List Beat) (p : Publisher) (t : Nat)
      (result : Except BrokerError Unit), Run setup .new earlier p → ClosedBy earlier t →
      p.tasks[t]? = some (.returned result) → p.IsFinal setup earlier := by
  intro h
  obtain ⟨earlier, p, later, p', hreplay, hclosed, hreturned, hlater, hworks⟩ :
      ∃ earlier p later p', replay Setup.plain [] .new firstMessage = some (earlier, p) ∧
        ClosedBy earlier 1 ∧ p.tasks[1]? = some (.returned (.ok ())) ∧
        replay Setup.plain [] p [.answer 0 (.ok ()), .proceed 0 false] = some (later, p') ∧
        ∃ beat ∈ later, beat.Works :=
    ⟨_, _, _, _, rfl, ⟨_, .tail _ (.tail _ (.head _)), rfl, rfl, rfl⟩, rfl, rfl,
      _, .head _, 0, .openHandle "b", .head _, rfl⟩
  obtain ⟨beat, hbeat, hbeatWorks⟩ := hworks
  have hfinal := h Setup.plain earlier p 1 _ (run_of_replay .refl hreplay) hclosed hreturned
  exact (hfinal later p' (run_of_replay .refl hlater)).1 beat hbeat hbeatWorks

end Courier.Publisher
