import Courier.Proofs.Lock
import Courier.Publisher.Step

/-!
# Runs of a publisher

A run is any sequence of steps: batches are published and the publisher is closed at any time, and
the transport answers at any time and in any order. A `Move` says once what a step can do, and
everything about runs is derived from it. In every run exactly the calls that need the cache hold
its lock or wait for it, so that one of them can always go on.
-/

namespace Courier.Publisher

/-! ## §1 Runs -/

/-- A step of a run: the publisher before it, what happens, and what it shows. -/
structure Beat where
  before : Publisher
  label : Label
  events : List Event

/-- The runs of a publisher from one state to another; the last step comes first. -/
inductive Run (setup : Setup) (p : Publisher) : List Beat → Publisher → Prop where
  | refl : Run setup p [] p
  | step {history : List Beat} {p' p'' : Publisher} {events : List Event} (label : Label) :
      Run setup p history p' → p'.step setup label = some (p'', events) →
      Run setup p (⟨p', label, events⟩ :: history) p''

theorem Run.append {setup : Setup} {p p' p'' : Publisher} {earlier later : List Beat}
    (h : Run setup p earlier p') (h' : Run setup p' later p'') :
    Run setup p (later ++ earlier) p'' := by
  induction h' with
  | refl => exact h
  | step label _ hstep ih => exact .step label ih hstep

/-- The run of labels from a publisher on, if each of them is possible. -/
def replay (setup : Setup) : List Beat → Publisher → List Label → Option (List Beat × Publisher)
  | history, p, [] => some (history, p)
  | history, p, label :: rest =>
    match p.step setup label with
    | some (p', events) => replay setup (⟨p, label, events⟩ :: history) p' rest
    | none => none

theorem run_of_replay {setup : Setup} {history history' : List Beat} {p₀ p p' : Publisher}
    {labels : List Label} (hrun : Run setup p₀ history p)
    (h : replay setup history p labels = some (history', p')) : Run setup p₀ history' p' := by
  induction labels generalizing history p with
  | nil =>
    cases h
    exact hrun
  | cons label rest ih =>
    rw [replay] at h
    cases hstep : p.step setup label with
    | none =>
      rw [hstep] at h
      cases h
    | some effect =>
      rw [hstep] at h
      exact ih (.step label hrun hstep) h

/-! ## §2 What an event asks for -/

def Event.request? : Event → Option (Nat × Request)
  | .asked task r => some (task, r)
  | .prepared _ _ | .logged _ | .returned _ _ => none

/-- The requests among events, each with the call that asks. -/
def requests (events : List Event) : List (Nat × Request) :=
  events.filterMap Event.request?

/-- If all requests among events are those of one call, what is asked for is asked for by it. -/
theorem asked_of_requests {events : List Event} {t task : Nat} {asked : List Request} {r : Request}
    (hr : requests events = asked.map (t, ·)) (h : .asked task r ∈ events) :
    task = t ∧ r ∈ asked := by
  have hmem : (task, r) ∈ requests events := List.mem_filterMap.mpr ⟨_, h, rfl⟩
  rw [hr, List.mem_map] at hmem
  obtain ⟨r', hr', heq⟩ := hmem
  cases heq
  exact ⟨rfl, hr'⟩

/-! ## §3 Moves -/

/-- Whether a call at a stage holds the lock of the cache or waits for it. -/
def Stage.needsCache : Stage → Bool
  | .seeking _ _ | .opening _ _ | .draining => true
  | _ => false

/-- How a batch goes on: with its next message, unless there is none or it cannot be encoded. -/
inductive Setup.GoesOn (setup : Setup) (batch : Batch) : Stage → Prop where
  | done : batch.messages = [] → GoesOn setup batch (.returned (.ok ()))
  | unencoded (m : Message) (rest : List Message) (e : BrokerError) :
      batch.messages = m :: rest → setup.encodeBody m.body = .error e →
      GoesOn setup batch (.returned (.error e))
  | seek (m : Message) (rest : List Message) (body : Option (List UInt8)) (envelope : Envelope) :
      batch.messages = m :: rest → setup.encodeBody m.body = .ok body →
      GoesOn setup batch (.seeking envelope { batch with messages := rest })

/-- How handles are closed, one after the other. -/
inductive Closes : List (String × Nat) → Stage → List Request → Prop where
  | none : Closes [] (.returned (.ok ())) []
  | next (destination : String) (handle : Nat) (rest : List (String × Nat)) :
      Closes ((destination, handle) :: rest) (.closing destination handle rest)
        [.closeHandle destination handle]

/-- A publisher with one call more. -/
def enlist (p : Publisher) : Publisher :=
  { p with tasks := p.tasks ++ [.draining] }

/-- A call comes to a stage, and it asks for the lock of the cache if it needs it there. -/
def goOn (p : Publisher) (t : Nat) (next : Stage) (prepared : Nat) : Publisher :=
  { p with
    prepared := prepared
    lock := if next.needsCache then p.lock.request t else p.lock }.setStage t next

/-- What a step can do: which call comes to which stage, what it asks for, and what comes of the
publisher. -/
inductive Move (setup : Setup) (p : Publisher) :
    Label → Nat → Stage → List Request → Publisher → Prop where
  | refuse (batch : Batch) : p.closed = true →
      Move setup p (.publish batch) p.tasks.length (.returned (.error .closed)) []
        (p.enlist.setStage p.tasks.length (.returned (.error .closed)))
  | begin (batch : Batch) (next : Stage) (prepared : Nat) : p.closed = false →
      setup.GoesOn batch next →
      Move setup p (.publish batch) p.tasks.length next []
        (p.enlist.goOn p.tasks.length next prepared)
  | closeAgain : p.closed = true →
      Move setup p .close p.tasks.length (.returned (.ok ())) []
        (p.enlist.setStage p.tasks.length (.returned (.ok ())))
  | close : p.closed = false →
      Move setup p .close p.tasks.length .draining []
        ({ p.enlist with closed := true }.requestLock p.tasks.length .draining)
  | use (t : Nat) (isClosed : Bool) (e : Envelope) (rest : Batch) (handle : Nat) :
      p.lock.isHeldBy t = true → p.tasks[t]? = some (.seeking e rest) →
      p.cache.get? e.destination = some handle → isClosed = false →
      Move setup p (.proceed t isClosed) t (.sending handle e rest) [.send handle e]
        (p.releaseLock.setStage t (.sending handle e rest))
  | reopen (t : Nat) (isClosed : Bool) (e : Envelope) (rest : Batch) :
      p.lock.isHeldBy t = true → p.tasks[t]? = some (.seeking e rest) →
      p.cache.get? e.destination = none ∨ isClosed = true →
      Move setup p (.proceed t isClosed) t (.opening e rest) [.openHandle e.destination]
        (p.setStage t (.opening e rest))
  | drain (t : Nat) (isClosed : Bool) (next : Stage) (asked : List Request) :
      p.lock.isHeldBy t = true → p.tasks[t]? = some .draining →
      Closes p.cache.toList next asked →
      Move setup p (.proceed t isClosed) t next asked
        ({ p with cache := Dict.empty }.releaseLock.setStage t next)
  | opened (t : Nat) (e : Envelope) (rest : Batch) :
      p.tasks[t]? = some (.opening e rest) →
      Move setup p (.answer t (.ok ())) t (.sending p.opened e rest) [.send p.opened e]
        ({ p with
          cache := p.cache.insert e.destination p.opened
          opened := p.opened + 1 }.releaseLock.setStage t (.sending p.opened e rest))
  | unopened (t : Nat) (e : Envelope) (rest : Batch) (err : BrokerError) :
      p.tasks[t]? = some (.opening e rest) →
      Move setup p (.answer t (.error err)) t (.returned (.error err)) []
        (p.releaseLock.setStage t (.returned (.error err)))
  | sent (t handle : Nat) (e : Envelope) (rest : Batch) (next : Stage) (prepared : Nat) :
      p.tasks[t]? = some (.sending handle e rest) → setup.GoesOn rest next →
      Move setup p (.answer t (.ok ())) t next [] (p.goOn t next prepared)
  | unsent (t handle : Nat) (e : Envelope) (rest : Batch) (err : BrokerError) :
      p.tasks[t]? = some (.sending handle e rest) →
      Move setup p (.answer t (.error err)) t (.returned (.error err)) []
        (p.setStage t (.returned (.error err)))
  | closed (t : Nat) (destination : String) (handle : Nat) (rest : List (String × Nat))
      (result : Except BrokerError Unit) (next : Stage) (asked : List Request) :
      p.tasks[t]? = some (.closing destination handle rest) → Closes rest next asked →
      Move setup p (.answer t result) t next asked (p.setStage t next)

variable {setup : Setup} {p p' : Publisher} {label : Label} {events : List Event}

private theorem next_goesOn (setup : Setup) (q : Publisher) (t : Nat) (batch : Batch) :
    ∃ next prepared, setup.GoesOn batch next ∧
      (q.next setup t batch).1 = q.goOn t next prepared ∧
      requests (q.next setup t batch).2 = [] := by
  unfold Publisher.next
  split
  · rename_i hnil
    exact ⟨_, q.prepared, .done hnil, rfl, rfl⟩
  · rename_i m rest hcons
    unfold Setup.envelope
    cases hbody : setup.encodeBody m.body with
    | error e => exact ⟨_, q.prepared + 1, .unencoded m rest e hcons hbody, rfl, rfl⟩
    | ok body => exact ⟨_, q.prepared + 1, .seek m rest body _ hcons hbody, rfl, rfl⟩

private theorem closeNext_closes (q : Publisher) (t : Nat) (handles : List (String × Nat)) :
    ∃ next asked, Closes handles next asked ∧ (q.closeNext t handles).1 = q.setStage t next ∧
      requests (q.closeNext t handles).2 = asked.map (t, ·) := by
  cases handles with
  | nil => exact ⟨_, _, .none, rfl, rfl⟩
  | cons entry rest => exact ⟨_, _, .next entry.1 entry.2 rest, rfl, rfl⟩

/-- An effect is that of a move. -/
def Moves (setup : Setup) (p : Publisher) (label : Label) (effect : Effect) : Prop :=
  ∃ t next asked, Move setup p label t next asked effect.1 ∧
    requests effect.2 = asked.map (t, ·)

private theorem moves_publish (batch : Batch) (hclosed : p.closed = false) :
    Moves setup p (.publish batch) (p.enlist.next setup p.tasks.length batch) := by
  obtain ⟨next, prepared, hgo, hp, hr⟩ := next_goesOn setup p.enlist p.tasks.length batch
  refine ⟨p.tasks.length, next, [], ?_, hr⟩
  rw [hp]
  exact .begin batch next prepared hclosed hgo

private theorem moves_proceed {t : Nat} {isClosed : Bool} {effect : Effect}
    (hheld : p.lock.isHeldBy t = true) (h : p.proceed t isClosed = some effect) :
    Moves setup p (.proceed t isClosed) effect := by
  unfold proceed at h
  split at h
  · rename_i e rest hstage
    have hreopen : p.cache.get? e.destination = none ∨ isClosed = true →
        Moves setup p (.proceed t isClosed) (p.setStage t (.opening e rest),
          [.asked t (.openHandle e.destination)]) :=
      fun hlookup => ⟨_, _, _, .reopen t isClosed e rest hheld hstage hlookup, rfl⟩
    -- a handle is used if there is one and it is not closed
    split at h
    · rename_i handle hcached
      cases isClosed with
      | true =>
        cases h
        exact hreopen (.inr rfl)
      | false =>
        cases h
        exact ⟨_, _, _, .use t false e rest handle hheld hstage hcached rfl, rfl⟩
    · rename_i hcached
      cases h
      exact hreopen (.inl hcached)
  · rename_i hstage
    obtain ⟨next, asked, hcloses, hp, hr⟩ :=
      closeNext_closes { p with cache := Dict.empty }.releaseLock t p.cache.toList
    cases h
    refine ⟨t, next, asked, ?_, hr⟩
    rw [hp]
    exact .drain t isClosed next asked hheld hstage hcloses
  · cases h

private theorem moves_closed {t handle : Nat} {destination : String} {rest : List (String × Nat)}
    (result : Except BrokerError Unit)
    (hstage : p.tasks[t]? = some (.closing destination handle rest)) (logs : List Event)
    (hlogs : requests logs = []) :
    Moves setup p (.answer t result) ((p.closeNext t rest).1, logs ++ (p.closeNext t rest).2) := by
  obtain ⟨next, asked, hcloses, hp, hr⟩ := closeNext_closes p t rest
  refine ⟨t, next, asked, ?_, ?_⟩
  · rw [hp]
    exact .closed t destination handle rest result next asked hstage hcloses
  · unfold requests at hlogs hr ⊢
    rw [List.filterMap_append, hlogs, hr]
    rfl

private theorem moves_answered {t : Nat} {result : Except BrokerError Unit} {effect : Effect}
    (h : p.answered setup t result = some effect) : Moves setup p (.answer t result) effect := by
  unfold answered at h
  split at h
  · rename_i e rest hstage
    cases h
    exact ⟨_, _, _, .opened t e rest hstage, rfl⟩
  · rename_i e rest err hstage
    cases h
    exact ⟨_, _, _, .unopened t e rest err hstage, rfl⟩
  · rename_i handle e rest hstage
    obtain ⟨next, prepared, hgo, hp, hr⟩ := next_goesOn setup p t rest
    cases h
    refine ⟨t, next, [], ?_, hr⟩
    rw [hp]
    exact .sent t handle e rest next prepared hstage hgo
  · rename_i handle e rest err hstage
    cases h
    exact ⟨_, _, _, .unsent t handle e rest err hstage, rfl⟩
  · rename_i destination handle rest hstage
    cases h
    exact moves_closed _ hstage [] rfl
  · rename_i destination handle rest err hstage
    cases h
    exact moves_closed _ hstage [.logged _] rfl
  · cases h

/-- Every step is a move. -/
theorem moves_of_step {effect : Effect} (h : p.step setup label = some effect) :
    Moves setup p label effect := by
  cases label with
  | publish batch =>
    simp only [step, Option.some.injEq] at h
    subst h
    split
    · rename_i hclosed
      exact ⟨_, _, _, .refuse batch hclosed, rfl⟩
    · rename_i hclosed
      exact moves_publish batch (by simpa using hclosed)
  | close =>
    simp only [step, Option.some.injEq] at h
    subst h
    split
    · rename_i hclosed
      exact ⟨_, _, _, .closeAgain hclosed, rfl⟩
    · rename_i hclosed
      exact ⟨_, _, _, .close (by simpa using hclosed), rfl⟩
  | proceed t isClosed =>
    simp only [step] at h
    split at h
    · rename_i hheld
      exact moves_proceed hheld h
    · cases h
  | answer t result => exact moves_answered h

/-- What holds at first and is kept by every move holds in every run. -/
theorem Run.invariant {P : List Beat → Publisher → Prop} {history : List Beat}
    (h : Run setup p history p') (hfirst : P [] p)
    (hmove : ∀ {history q q' label t next asked events}, P history q →
      Move setup q label t next asked q' → requests events = asked.map (t, ·) →
      P (⟨q, label, events⟩ :: history) q') : P history p' := by
  induction h with
  | refl => exact hfirst
  | step label _ hstep ih =>
    obtain ⟨t, next, asked, hm, hr⟩ := moves_of_step hstep
    exact hmove ih hm hr

/-! ## §4 Calls after a move -/

/-- One call has come to a stage, and the others are where they were. -/
structure Puts (tasks tasks' : List Stage) (t : Nat) (next : Stage) : Prop where
  here : tasks'[t]? = some next
  others : ∀ u, u ≠ t → tasks'[u]? = tasks[u]?

theorem puts_set {tasks : List Stage} {t : Nat} {stage : Stage} (next : Stage)
    (h : tasks[t]? = some stage) : Puts tasks (tasks.set t next) t next := by
  refine ⟨?_, fun u hu => List.getElem?_set_ne (Ne.symm hu)⟩
  rw [List.getElem?_set_self', h]
  rfl

theorem puts_enlist (tasks : List Stage) (stage next : Stage) :
    Puts tasks ((tasks ++ [stage]).set tasks.length next) tasks.length next := by
  rw [List.set_append_right _ _ (Nat.le_refl _), Nat.sub_self]
  refine ⟨List.getElem?_concat_length, fun u hu => ?_⟩
  rcases Nat.lt_or_ge u tasks.length with hlt | hge
  · exact List.getElem?_append_left hlt
  · rw [List.getElem?_eq_none hge, List.getElem?_eq_none]
    rw [List.length_append]
    exact Nat.lt_of_le_of_ne hge (Ne.symm hu)

theorem Puts.of_ne {tasks tasks' : List Stage} {t u : Nat} {next stage : Stage}
    (h : Puts tasks tasks' t next) (hu : tasks'[u]? = some stage) :
    u = t ∧ stage = next ∨ u ≠ t ∧ tasks[u]? = some stage := by
  by_cases hne : u = t
  · subst hne
    exact .inl ⟨rfl, Option.some.inj (hu.symm.trans h.here)⟩
  · exact .inr ⟨hne, (h.others u hne).symm.trans hu⟩

variable {t : Nat} {next : Stage} {asked : List Request}

theorem Move.puts (h : Move setup p label t next asked p') : Puts p.tasks p'.tasks t next := by
  cases h with
  | refuse | begin | closeAgain | close => exact puts_enlist _ _ _
  | _ => exact puts_set _ (by assumption)

/-! ## §5 The lock of the cache -/

/-- In every run the calls that need the cache are those that hold its lock or wait for it, each of
them once, and a handle is opened by the one that holds it. -/
structure Disciplined (p : Publisher) : Prop where
  served : p.lock.IsServed
  nodup : p.lock.queue.Nodup
  mem_queue : ∀ t, t ∈ p.lock.queue ↔
    ∃ stage, p.tasks[t]? = some stage ∧ stage.needsCache = true
  opening : ∀ t e rest, p.tasks[t]? = some (.opening e rest) → p.lock.isHeldBy t = true

theorem Disciplined.new : Disciplined .new := by
  refine ⟨Lock.isServed_free, List.nodup_nil, ?_, nofun⟩
  intro t
  exact ⟨nofun, fun ⟨_, h, _⟩ => nomatch h⟩

/-- A call keeps its place in the queue, or stays outside of it. -/
private theorem Disciplined.keep (hd : p.Disciplined) (hputs : Puts p.tasks p'.tasks t next)
    (hlock : p'.lock = p.lock) (hneeds : t ∈ p.lock.queue ↔ next.needsCache = true)
    (hopening : ∀ e rest, next = .opening e rest → p.lock.isHeldBy t = true) :
    p'.Disciplined := by
  refine ⟨hlock ▸ hd.served, hlock ▸ hd.nodup, ?_, ?_⟩
  · intro u
    rw [hlock]
    by_cases hu : u = t
    · subst hu
      rw [hneeds, hputs.here]
      simp
    · rw [hd.mem_queue, hputs.others u hu]
  · intro u e rest hu
    rw [hlock]
    rcases hputs.of_ne hu with ⟨rfl, hnext⟩ | ⟨_, hu⟩
    · exact hopening e rest hnext.symm
    · exact hd.opening u e rest hu

/-- A call joins the queue. -/
private theorem Disciplined.request (hd : p.Disciplined) (hputs : Puts p.tasks p'.tasks t next)
    (hlock : p'.lock = p.lock.request t) (hout : t ∉ p.lock.queue)
    (hneeds : next.needsCache = true) (hopening : ∀ e rest, next ≠ .opening e rest) :
    p'.Disciplined := by
  have hqueue := Lock.queue_request hd.served t
  refine ⟨hlock ▸ Lock.isServed_request _ _, ?_, ?_, ?_⟩
  · rw [hlock, hqueue, List.nodup_append]
    refine ⟨hd.nodup, List.pairwise_singleton _ t, ?_⟩
    intro u hu v hv heq
    rw [List.mem_singleton] at hv
    exact hout (hv ▸ heq ▸ hu)
  · intro u
    rw [hlock, hqueue, List.mem_append, List.mem_singleton]
    by_cases hu : u = t
    · subst hu
      rw [hputs.here]
      simp [hneeds]
    · rw [hd.mem_queue, hputs.others u hu]
      simp [hu]
  · intro u e rest hu
    rw [hlock]
    rcases hputs.of_ne hu with ⟨_, hnext⟩ | ⟨_, hu⟩
    · exact absurd hnext.symm (hopening e rest)
    · exact Lock.isHeldBy_request (hd.opening u e rest hu) t

/-- The call that holds the lock hands it on. -/
private theorem Disciplined.release (hd : p.Disciplined) (hputs : Puts p.tasks p'.tasks t next)
    (hlock : p'.lock = p.lock.release) (hheld : p.lock.isHeldBy t = true)
    (hneeds : next.needsCache = false) : p'.Disciplined := by
  have hqueue := Lock.queue_of_isHeldBy hheld
  have hnodup := hd.nodup
  rw [hqueue, List.nodup_cons] at hnodup
  refine ⟨hlock ▸ Lock.isServed_release _, hlock ▸ hnodup.2, ?_, ?_⟩
  · intro u
    rw [hlock]
    by_cases hu : u = t
    · subst hu
      rw [hputs.here]
      simp [hneeds, hnodup.1]
    · rw [hputs.others u hu, ← hd.mem_queue, hqueue, List.mem_cons]
      simp [hu]
  · intro u e rest hu
    rcases hputs.of_ne hu with ⟨_, rfl⟩ | ⟨hne, hu⟩
    · cases hneeds
    · exact absurd (Lock.isHeldBy_unique hheld (hd.opening u e rest hu)) hne

theorem Disciplined.not_mem_length (hd : p.Disciplined) : p.tasks.length ∉ p.lock.queue := by
  rw [hd.mem_queue]
  rintro ⟨stage, hstage, _⟩
  rw [List.getElem?_eq_none (Nat.le_refl _)] at hstage
  cases hstage

theorem Disciplined.not_mem (hd : p.Disciplined) {stage : Stage} (h : p.tasks[t]? = some stage)
    (hneeds : stage.needsCache = false) : t ∉ p.lock.queue := by
  rw [hd.mem_queue]
  rintro ⟨stage', hstage, hneeds'⟩
  rw [h] at hstage
  cases hstage
  rw [hneeds] at hneeds'
  cases hneeds'

theorem Setup.GoesOn.ne_opening {batch : Batch} (h : setup.GoesOn batch next) (e : Envelope)
    (rest : Batch) : next ≠ .opening e rest := by
  cases h <;> exact nofun

theorem Closes.needsCache {handles : List (String × Nat)} (h : Closes handles next asked) :
    next.needsCache = false := by
  cases h <;> rfl

/-- A batch that goes on joins the queue, or it is over. -/
private theorem Disciplined.goOn {q : Publisher} {batch : Batch} {prepared : Nat}
    (hd : p.Disciplined) (hout : t ∉ p.lock.queue) (hlock : q.lock = p.lock)
    (hputs : Puts p.tasks (q.goOn t next prepared).tasks t next) (hgo : setup.GoesOn batch next) :
    (q.goOn t next prepared).Disciplined := by
  cases hneeds : next.needsCache with
  | true =>
    refine hd.request hputs ?_ hout hneeds hgo.ne_opening
    show (if next.needsCache then q.lock.request t else q.lock) = p.lock.request t
    rw [hneeds, hlock]
    rfl
  | false =>
    refine hd.keep hputs ?_ ?_ fun e rest hnext => absurd hnext (hgo.ne_opening e rest)
    · show (if next.needsCache then q.lock.request t else q.lock) = p.lock
      rw [hneeds, hlock]
      rfl
    · exact iff_of_false hout (by rw [hneeds]; exact Bool.false_ne_true)

/-- Every move keeps the lock in order. -/
theorem Disciplined.move (hd : p.Disciplined) (h : Move setup p label t next asked p') :
    p'.Disciplined := by
  have hputs := h.puts
  cases h with
  | refuse batch _ => exact hd.keep hputs rfl (iff_of_false hd.not_mem_length nofun) nofun
  | begin batch next prepared _ hgo => exact hd.goOn hd.not_mem_length rfl hputs hgo
  | closeAgain _ => exact hd.keep hputs rfl (iff_of_false hd.not_mem_length nofun) nofun
  | close _ => exact hd.request hputs rfl hd.not_mem_length rfl nofun
  | use t isClosed e rest handle hheld _ => exact hd.release hputs rfl hheld rfl
  | reopen t isClosed e rest hheld _ =>
    exact hd.keep hputs rfl (iff_of_true (Lock.mem_queue_of_isHeldBy hheld) rfl) fun _ _ _ => hheld
  | drain t isClosed next asked hheld _ hcloses =>
    exact hd.release hputs rfl hheld hcloses.needsCache
  | opened t e rest hstage => exact hd.release hputs rfl (hd.opening t e rest hstage) rfl
  | unopened t e rest err hstage => exact hd.release hputs rfl (hd.opening t e rest hstage) rfl
  | sent t handle e rest next prepared hstage hgo =>
    exact hd.goOn (hd.not_mem hstage rfl) rfl hputs hgo
  | unsent t handle e rest err hstage =>
    exact hd.keep hputs rfl (iff_of_false (hd.not_mem hstage rfl) nofun) nofun
  | closed t destination handle rest result next asked hstage hcloses =>
    have hneeds := hcloses.needsCache
    refine hd.keep hputs rfl (iff_of_false (hd.not_mem hstage rfl) ?_) ?_
    · rw [hneeds]
      exact Bool.false_ne_true
    · rintro e rest rfl
      cases hneeds

theorem Run.disciplined {history : List Beat} (h : Run setup .new history p) : p.Disciplined :=
  h.invariant (P := fun _ p => p.Disciplined) .new fun hd hm _ => hd.move hm

end Courier.Publisher
