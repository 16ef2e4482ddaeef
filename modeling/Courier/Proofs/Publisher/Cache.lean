import Courier.Proofs.Publisher.Closing

/-!
# The cache of a publisher

Batches that are published at the same time look for their handles in one cache, and a handle may be
closed by the transport at any time. Handles are numbered in the order of their opening, so that the
destinations that handles were opened for, read off the history of a run, tell which handle is
whose. `cache_of_run` says of every run without closing calls that the cache holds the handle that
was opened last for each destination, and what every single step does with handles and cache.
-/

namespace Courier.Publisher

/-! ## §1 Handles that were opened -/

/-- Whether the transport is opening a handle for a call. -/
def IsOpening (p : Publisher) (t : Nat) : Prop :=
  ∃ e rest, p.tasks[t]? = some (.opening e rest)

/-- The destination that a step has opened a handle for. -/
def Beat.openedFor? (beat : Beat) : Option String :=
  match beat.label with
  | .answer t (.ok ()) =>
    match beat.before.tasks[t]? with
    | some (.opening e _) => some e.destination
    | _ => none
  | _ => none

/-- The destinations that handles have been opened for, the last one first. -/
def openings (history : List Beat) : List String :=
  history.filterMap Beat.openedFor?

/-- The destination of a handle, given those of all handles, the last one first. -/
def owner? (destinations : List String) (handle : Nat) : Option String :=
  destinations.reverse[handle]?

/-- The handle that was opened last for a destination, given the destinations of all handles, the
last one first. -/
def latest? (destination : String) : List String → Option Nat
  | [] => none
  | d :: earlier => if d = destination then some earlier.length else latest? destination earlier

theorem owner?_length (destination : String) (earlier : List String) :
    owner? (destination :: earlier) earlier.length = some destination := by
  simp [owner?]

/-- A handle keeps its destination when another one is opened. -/
theorem owner?_cons {earlier : List String} {handle : Nat} {destination : String}
    (h : owner? earlier handle = some destination) (d : String) :
    owner? (d :: earlier) handle = some destination := by
  obtain ⟨hlt, _⟩ := List.getElem?_eq_some_iff.mp h
  simp only [owner?, List.reverse_cons]
  rw [List.getElem?_append_left hlt]
  exact h

/-- The handle that was opened last for a destination was opened for it. -/
theorem owner?_of_latest? {destinations : List String} {handle : Nat} {destination : String}
    (h : latest? destination destinations = some handle) :
    owner? destinations handle = some destination := by
  induction destinations with
  | nil => cases h
  | cons d earlier ih =>
    by_cases hd : d = destination
    · simp only [latest?, hd, if_true, Option.some.injEq] at h
      rw [hd, ← h]
      exact owner?_length destination earlier
    · simp only [latest?, hd, if_false] at h
      exact owner?_cons (ih h) d

/-! ## §2 Moves and the cache -/

variable {setup : Setup} {p p' : Publisher} {label : Label} {history : List Beat} {t : Nat}
  {next : Stage} {asked : List Request} {events : List Event}

/-- A call that closes handles neither opens one nor hands an envelope to one. -/
theorem Closes.works {handles : List (String × Nat)} (h : Closes handles next asked)
    {r : Request} (hr : r ∈ asked) : r.works = false := by
  cases h with
  | none => cases hr
  | next => rw [List.mem_singleton.mp hr]; rfl

/-- A move asks for a handle or hands an envelope to one in three cases: a call that has got the
lock looks into the cache, and uses what it finds or has a handle opened; or the handle that was
opened for it is used. -/
theorem Move.works (h : Move setup p label t next asked p') {r : Request} (hr : r ∈ asked)
    (hworks : r.works = true) :
    (∃ isClosed e rest, label = .proceed t isClosed ∧ p.lock.isHeldBy t = true ∧
      p.tasks[t]? = some (.seeking e rest) ∧
      (r = .openHandle e.destination ∧ (p.cache.get? e.destination = none ∨ isClosed = true) ∨
        ∃ handle, r = .send handle e ∧ isClosed = false ∧
          p.cache.get? e.destination = some handle)) ∨
    ∃ e rest, label = .answer t (.ok ()) ∧ p.tasks[t]? = some (.opening e rest) ∧
      r = .send p.opened e := by
  cases h with
  | use t isClosed e rest handle hheld hstage hcached hopen =>
    obtain rfl := List.mem_singleton.mp hr
    exact .inl ⟨isClosed, e, rest, rfl, hheld, hstage, .inr ⟨handle, rfl, hopen, hcached⟩⟩
  | reopen t isClosed e rest hheld hstage hlookup =>
    obtain rfl := List.mem_singleton.mp hr
    exact .inl ⟨isClosed, e, rest, rfl, hheld, hstage, .inl ⟨rfl, hlookup⟩⟩
  | opened t e rest hstage =>
    exact .inr ⟨e, rest, rfl, hstage, List.mem_singleton.mp hr⟩
  | drain _ _ _ _ _ _ hcloses | closed _ _ _ _ _ _ _ _ hcloses =>
    rw [hcloses.works hr] at hworks
    cases hworks
  | _ => cases hr

/-- A move opens a handle and puts it into the cache, or it opens none and leaves the cache as it
is, unless the call empties it. -/
theorem Move.openedFor? (h : Move setup p label t next asked p') (events : List Event) :
    (∃ destination, Beat.openedFor? ⟨p, label, events⟩ = some destination ∧
      p'.cache = p.cache.insert destination p.opened ∧ p'.opened = p.opened + 1) ∨
    Beat.openedFor? ⟨p, label, events⟩ = none ∧ p'.opened = p.opened ∧
      (p'.cache = p.cache ∨ p.tasks[t]? = some .draining) := by
  cases h with
  | opened t e rest hstage =>
    exact .inl ⟨e.destination, by simp only [Beat.openedFor?, hstage], rfl, rfl⟩
  | sent t handle e rest next prepared hstage =>
    exact .inr ⟨by simp only [Beat.openedFor?, hstage], rfl, .inl rfl⟩
  | closed t destination handle rest result next asked hstage =>
    refine .inr ⟨?_, rfl, .inl rfl⟩
    cases result <;> simp only [Beat.openedFor?, hstage]
  | drain t isClosed next asked _ hstage => exact .inr ⟨rfl, rfl, .inr hstage⟩
  | _ => exact .inr ⟨rfl, rfl, .inl rfl⟩

/-- A call that has returned takes no step any more. -/
theorem Move.ne_of_returned (h : Move setup p label t next asked p') {u : Nat} {stage : Stage}
    (hu : p.tasks[u]? = some stage) (hreturned : stage.isReturned = true) : u ≠ t := by
  rintro rfl
  rcases h.caller with ⟨hlength, _⟩ | ⟨stage', hstage', hactive, _⟩
  · obtain ⟨hlt, _⟩ := List.getElem?_eq_some_iff.mp hu
    exact absurd hlength (Nat.ne_of_lt hlt)
  · rw [hu, Option.some.injEq] at hstage'
    rw [← hstage', hreturned] at hactive
    cases hactive

/-- A call that has returned asks for nothing any more. -/
theorem Run.silent_of_returned {later : List Beat} {u : Nat} {stage : Stage}
    (hrun : Run setup p later p') (hu : p.tasks[u]? = some stage)
    (hreturned : stage.isReturned = true) : ∀ beat ∈ later, ∀ r, .asked u r ∉ beat.events := by
  suffices p'.tasks[u]? = some stage ∧ ∀ beat ∈ later, ∀ r, .asked u r ∉ beat.events from this.2
  apply hrun.invariant (P := fun later q => q.tasks[u]? = some stage ∧
    ∀ beat ∈ later, ∀ r, .asked u r ∉ beat.events) ⟨hu, nofun⟩
  intro later q q' label t next asked events ⟨hstage, hsilent⟩ hm hr
  have hne : u ≠ t := hm.ne_of_returned hstage hreturned
  refine ⟨(hm.puts.others u hne).trans hstage, fun beat hbeat r hasked => ?_⟩
  rcases List.mem_cons.mp hbeat with rfl | hbeat
  · exact hne (asked_of_requests hr hasked).1
  · exact hsilent beat hbeat r hasked

/-! ## §3 What the cache holds -/

/-- The number of handles is that of the openings, and the cache holds the handle that was opened
last for each destination. -/
structure Caches (history : List Beat) (p : Publisher) : Prop where
  opened : p.opened = (openings history).length
  cached : ∀ destination, p.cache.get? destination = latest? destination (openings history)

theorem Caches.new : Caches [] .new := ⟨rfl, fun _ => rfl⟩

/-- Every move keeps the cache up to date, unless the call empties it. -/
theorem Caches.move (hc : Caches history p) (h : Move setup p label t next asked p')
    (hkept : p.tasks[t]? ≠ some .draining) : Caches (⟨p, label, events⟩ :: history) p' := by
  rcases h.openedFor? events with ⟨destination, hopened, hcache, hnumber⟩ | ⟨hnone, hnumber, hcache⟩
  · have hopenings : openings (⟨p, label, events⟩ :: history) = destination :: openings history :=
      List.filterMap_cons_some hopened
    constructor
    · rw [hopenings, List.length_cons, hnumber, hc.opened]
    · intro d
      rw [hopenings, hcache, Dict.get?_insert, latest?, hc.opened, hc.cached]
  · have hopenings : openings (⟨p, label, events⟩ :: history) = openings history :=
      List.filterMap_cons_none hnone
    have hsame : p'.cache = p.cache := hcache.resolve_right hkept
    constructor
    · rw [hopenings, hnumber, hc.opened]
    · intro d
      rw [hopenings, hsame, hc.cached]

/-- Whether nothing has closed the publisher. -/
def NeverClosed (history : List Beat) : Prop :=
  ∀ beat ∈ history, beat.label ≠ .close

/-- No call empties the cache if none has closed the publisher. -/
theorem Shut.ne_draining (hs : Shut history p) (hnever : NeverClosed history) :
    p.tasks[t]? ≠ some .draining := by
  intro hstage
  obtain ⟨beat, hbeat, hclose, _⟩ := hs.closing t .draining hstage rfl
  exact hnever beat hbeat hclose

theorem Run.caches (hrun : Run setup .new history p) (hnever : NeverClosed history) :
    Caches history p := by
  suffices Shut history p ∧ (NeverClosed history → Caches history p) from this.2 hnever
  apply hrun.invariant (P := fun history q => Shut history q ∧
    (NeverClosed history → Caches history q)) ⟨.new, fun _ => .new⟩
  intro history q q' label t next asked events ⟨hs, hc⟩ hm hr
  refine ⟨hs.move hm, fun hnever => ?_⟩
  have hbefore : NeverClosed history := fun beat hbeat => hnever beat (List.mem_cons_of_mem _ hbeat)
  exact (hc hbefore).move hm (hs.ne_draining hbefore)

/-! ## §4 What a step does with the cache -/

/-- What a step at the end of a run does with handles and cache. -/
structure KeepsCache (setup : Setup) (earlier : List Beat) (beat : Beat) (p : Publisher) :
    Prop where
  /-- A handle is being opened for a call from its request to the answer. -/
  opening : ∀ task, p.IsOpening task ↔
    (beat.before.IsOpening task ∧ ∀ result, beat.label ≠ .answer task result) ∨
      ∃ destination, .asked task (.openHandle destination) ∈ beat.events
  /-- A call has a handle opened only if none is being opened, and if the cache has none for the
  destination or the one it finds there says that it is closed. -/
  asks : ∀ task destination, .asked task (.openHandle destination) ∈ beat.events →
    (∀ u, ¬beat.before.IsOpening u) ∧
      (beat.before.cache.get? destination = none ∨ beat.label = .proceed task true)
  /-- If a handle cannot be opened, the cache stays as it was, and the call returns the error and
  asks for nothing in this step nor later. -/
  fails : ∀ task error, beat.before.IsOpening task → beat.label = .answer task (.error error) →
    p.cache = beat.before.cache ∧ p.tasks[task]? = some (.returned (.error error)) ∧
      (∀ r, .asked task r ∉ beat.events) ∧
        ∀ later p', Run setup p later p' → ∀ b ∈ later, ∀ r, .asked task r ∉ b.events
  /-- An envelope is handed to a handle for its own destination, which has just been opened or was
  found in the cache and said that it is not closed. -/
  sends : ∀ task handle e, .asked task (.send handle e) ∈ beat.events →
    owner? (openings (beat :: earlier)) handle = some e.destination ∧
      (beat.openedFor? = some e.destination ∧ handle = (openings earlier).length ∨
        beat.label = .proceed task false ∧ beat.before.cache.get? e.destination = some handle)

/-- A call that has got the lock finds that nobody has a handle opened. -/
theorem Disciplined.not_isOpening (hd : p.Disciplined) {e : Envelope} {rest : Batch}
    (hheld : p.lock.isHeldBy t = true) (hstage : p.tasks[t]? = some (.seeking e rest)) (u : Nat) :
    ¬p.IsOpening u := by
  rintro ⟨e', rest', hu⟩
  obtain rfl := Lock.isHeldBy_unique hheld (hd.opening u e' rest' hu)
  rw [hstage] at hu
  cases hu

/-- What a move asks for is asked for by the call that takes it. -/
theorem asked_of_mem {r : Request} (hr : requests events = asked.map (t, ·)) (h : r ∈ asked) :
    .asked t r ∈ events := by
  have hmem : (t, r) ∈ requests events := hr ▸ List.mem_map_of_mem h
  obtain ⟨event, hevent, hrequest⟩ := List.mem_filterMap.mp hmem
  cases event with
  | asked => cases hrequest; exact hevent
  | _ => cases hrequest

/-- A call comes to have a handle opened when it asks for one. -/
theorem Move.opening_iff (h : Move setup p label t next asked p') :
    (∃ e rest, next = .opening e rest) ↔ ∃ destination, .openHandle destination ∈ asked := by
  cases h with
  | reopen t isClosed e rest =>
    exact ⟨fun _ => ⟨_, List.mem_cons_self⟩, fun _ => ⟨e, rest, rfl⟩⟩
  | begin _ _ _ _ hgo | sent _ _ _ _ _ _ _ hgo =>
    constructor
    · rintro ⟨e, rest, hnext⟩
      exact absurd hnext (hgo.ne_opening e rest)
    · rintro ⟨_, hmem⟩
      cases hmem
  | drain _ _ _ _ _ _ hcloses | closed _ _ _ _ _ _ _ _ hcloses =>
    constructor
    · rintro ⟨e, rest, rfl⟩
      cases hcloses.needsCache
    · rintro ⟨_, hmem⟩
      have hworks := hcloses.works hmem
      cases hworks
  | _ => simp

/-- A call that has a handle opened goes on when the transport answers it. -/
theorem Move.answers_of_opening (h : Move setup p label t next asked p') (ht : p.IsOpening t) :
    ∃ result, label = .answer t result := by
  obtain ⟨e, rest, hstage⟩ := ht
  cases h with
  | use _ _ _ _ _ _ hstage' | reopen _ _ _ _ _ hstage' | drain _ _ _ _ _ hstage' =>
    rw [hstage] at hstage'
    cases hstage'
  | opened | unopened | sent | unsent | closed => exact ⟨_, rfl⟩
  | _ => simp at hstage

/-- The call that an answer is for is the one that takes the step. -/
theorem Move.answered (h : Move setup p label t next asked p') {u : Nat}
    {result : Except BrokerError Unit} (hlabel : label = .answer u result) : u = t := by
  cases h <;> cases hlabel <;> rfl

/-- A handle is being opened for a call from its request to the answer. -/
theorem Move.isOpening_iff (h : Move setup p label t next asked p')
    (hr : requests events = asked.map (t, ·)) (task : Nat) : p'.IsOpening task ↔
      (p.IsOpening task ∧ ∀ result, label ≠ .answer task result) ∨
        ∃ destination, .asked task (.openHandle destination) ∈ events := by
  by_cases htask : task = t
  · subst htask
    constructor
    · rintro ⟨e, rest, hstage⟩
      rw [h.puts.here, Option.some.injEq] at hstage
      obtain ⟨destination, hmem⟩ := h.opening_iff.mp ⟨e, rest, hstage⟩
      exact .inr ⟨destination, asked_of_mem hr hmem⟩
    · rintro (⟨hopening, hunanswered⟩ | ⟨destination, hasked⟩)
      · obtain ⟨result, hlabel⟩ := h.answers_of_opening hopening
        exact absurd hlabel (hunanswered result)
      · have hmem := (asked_of_requests hr hasked).2
        obtain ⟨e, rest, hnext⟩ := h.opening_iff.mpr ⟨destination, hmem⟩
        exact ⟨e, rest, hnext ▸ h.puts.here⟩
  · -- another call takes the step
    have hsame : p'.IsOpening task ↔ p.IsOpening task := by
      simp only [IsOpening, h.puts.others task htask]
    rw [hsame]
    constructor
    · exact fun hopening => .inl ⟨hopening, fun result hlabel => htask (h.answered hlabel)⟩
    · rintro (⟨hopening, _⟩ | ⟨destination, hasked⟩)
      · exact hopening
      · exact absurd (asked_of_requests hr hasked).1 htask

/-- A call has a handle opened only if none is being opened, and none is at hand. -/
theorem Move.asks (h : Move setup p label t next asked p') (hd : p.Disciplined)
    {destination : String} (hmem : .openHandle destination ∈ asked) :
    (∀ u, ¬p.IsOpening u) ∧ (p.cache.get? destination = none ∨ label = .proceed t true) := by
  rcases h.works hmem rfl with
    ⟨isClosed, e, rest, rfl, hheld, hstage, hlookup⟩ | ⟨_, _, _, _, hsend⟩
  · refine ⟨hd.not_isOpening hheld hstage, ?_⟩
    rcases hlookup with ⟨heq, hnone | rfl⟩ | ⟨_, hsend, _⟩
    · cases heq
      exact .inl hnone
    · exact .inr rfl
    · cases hsend
  · cases hsend

/-- If a handle cannot be opened, the cache stays as it is and the call returns the error. -/
theorem Move.fails {error : BrokerError}
    (h : Move setup p (.answer t (.error error)) t next asked p') (ht : p.IsOpening t) :
    p'.cache = p.cache ∧ next = .returned (.error error) ∧ asked = [] := by
  obtain ⟨e, rest, hstage⟩ := ht
  cases h with
  | unopened => exact ⟨rfl, rfl, rfl⟩
  | unsent _ _ _ _ _ hstage' | closed _ _ _ _ _ _ _ hstage' =>
    rw [hstage] at hstage'
    cases hstage'

/-- An envelope is handed to a handle for its own destination, one that has just been opened or that
was found in the cache. -/
theorem Move.sends (h : Move setup p label t next asked p') (hc : Caches history p)
    {handle : Nat} {e : Envelope} (hmem : .send handle e ∈ asked) :
    owner? (openings (⟨p, label, events⟩ :: history)) handle = some e.destination ∧
      (Beat.openedFor? ⟨p, label, events⟩ = some e.destination ∧
          handle = (openings history).length ∨
        label = .proceed t false ∧ p.cache.get? e.destination = some handle) := by
  rcases h.works hmem rfl with
    ⟨isClosed, e', rest, rfl, _, _, hlookup⟩ | ⟨e', rest, rfl, hstage, hsend⟩
  · rcases hlookup with ⟨hopen, _⟩ | ⟨handle', hsend, rfl, hcached⟩
    · cases hopen
    · cases hsend
      refine ⟨?_, .inr ⟨rfl, hcached⟩⟩
      -- no handle was opened in this step
      show owner? (openings history) handle = some e.destination
      apply owner?_of_latest?
      rw [← hc.cached, hcached]
  · cases hsend
    have hopened : Beat.openedFor? ⟨p, .answer t (.ok ()), events⟩ = some e.destination := by
      simp only [Beat.openedFor?, hstage]
    refine ⟨?_, .inl ⟨hopened, hc.opened⟩⟩
    rw [openings, List.filterMap_cons_some hopened, hc.opened]
    exact owner?_length _ _

/-- Every move keeps to the rules of the cache. -/
theorem keepsCache_of_move (hd : p.Disciplined) (hc : Caches history p)
    (hm : Move setup p label t next asked p') (hr : requests events = asked.map (t, ·)) :
    KeepsCache setup history ⟨p, label, events⟩ p' where
  opening := hm.isOpening_iff hr
  asks := by
    intro task destination hasked
    obtain ⟨rfl, hmem⟩ := asked_of_requests hr hasked
    exact hm.asks hd hmem
  fails := by
    rintro task error hopening rfl
    obtain rfl := hm.answered rfl
    obtain ⟨hcache, rfl, rfl⟩ := hm.fails hopening
    refine ⟨hcache, hm.puts.here, ?_, fun later p' hrun => ?_⟩
    · intro r hasked
      cases (asked_of_requests hr hasked).2
    · exact hrun.silent_of_returned hm.puts.here rfl
  sends := by
    intro task handle e hasked
    obtain ⟨rfl, hmem⟩ := asked_of_requests hr hasked
    exact hm.sends hc hmem

/-! ## §5 Batches without a closing call -/

/-- However batches are published and the transport answers, as long as nothing closes the
publisher: no two handles are opened at a time, the cache holds exactly the handle that was opened
last for each destination, and every step keeps to the rules of the cache. -/
theorem cache_of_run (hrun : Run setup .new history p) (hnever : NeverClosed history) :
    (∀ t u, p.IsOpening t → p.IsOpening u → t = u) ∧
    (∀ destination, p.cache.get? destination = latest? destination (openings history)) ∧
    ∀ beat earlier, history = beat :: earlier → KeepsCache setup earlier beat p := by
  refine ⟨?_, (hrun.caches hnever).cached, ?_⟩
  · -- both calls hold the lock
    rintro t u ⟨e, rest, ht⟩ ⟨e', rest', hu⟩
    have hd := hrun.disciplined
    exact Lock.isHeldBy_unique (hd.opening u e' rest' hu) (hd.opening t e rest ht)
  · rintro beat earlier rfl
    have hbefore : NeverClosed earlier :=
      fun beat hbeat => hnever beat (List.mem_cons_of_mem _ hbeat)
    cases hrun with
    | step label hrun hstep =>
      obtain ⟨t, next, asked, hm, hr⟩ := moves_of_step hstep
      exact keepsCache_of_move hrun.disciplined (hrun.caches hbefore) hm hr

/-- Two batches go to one destination at the same time. The handle for the first one cannot be
opened; the one for the second one can, and is closed when a third batch looks for it. -/
def threeBatches : List Label :=
  [.publish ⟨.none, [.new "a"]⟩, .publish ⟨.none, [.new "a"]⟩, .proceed 0 false,
    .answer 0 (.error .notConnected), .proceed 1 false, .answer 1 (.ok ()),
    .publish ⟨.none, [.new "a"]⟩, .proceed 2 true, .answer 2 (.ok ())]

/-- The third batch has a second handle opened, which is the one in the cache then. -/
theorem cache_after_threeBatches :
    ∃ beat earlier p, replay Setup.plain [] .new threeBatches = some (beat :: earlier, p) ∧
      NeverClosed (beat :: earlier) ∧ openings (beat :: earlier) = ["a", "a"] ∧
      p.cache.get? "a" = some 1 ∧ KeepsCache Setup.plain earlier beat p := by
  obtain ⟨beat, earlier, p, hreplay, hnever, hopenings⟩ :
      ∃ beat earlier p, replay Setup.plain [] .new threeBatches = some (beat :: earlier, p) ∧
        NeverClosed (beat :: earlier) ∧ openings (beat :: earlier) = ["a", "a"] :=
    ⟨_, _, _, rfl, by simp [NeverClosed], rfl⟩
  obtain ⟨_, hcached, hkeeps⟩ := cache_of_run (run_of_replay .refl hreplay) hnever
  refine ⟨beat, earlier, p, hreplay, hnever, hopenings, ?_, hkeeps beat earlier rfl⟩
  rw [hcached, hopenings]
  rfl

end Courier.Publisher
