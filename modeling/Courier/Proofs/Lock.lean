import Courier.Lock

/-!
# Laws of locks

At most one task holds a lock. The tasks that hold it or wait for it form a queue: a task that asks
for the lock joins the queue at its end, and the one that hands the lock on leaves it at its
beginning. A program keeps to a lock if exactly the tasks that have a stake in it stand in the
queue; it does so for good if every step of a task is a use of the lock.
-/

namespace Courier.Lock

variable {l : Lock} {t u : Nat}

/-! ## §1 The holder -/

theorem isHeldBy_iff : l.isHeldBy t = true ↔ l.holder = some t := by
  rw [isHeldBy, beq_iff_eq]

theorem isHeldBy_unique (ht : l.isHeldBy t = true) (hu : l.isHeldBy u = true) : u = t :=
  Option.some.inj ((isHeldBy_iff.mp hu).symm.trans (isHeldBy_iff.mp ht))

theorem isHeldBy_request (h : l.isHeldBy t = true) (u : Nat) :
    (l.request u).isHeldBy t = true := by
  rw [isHeldBy_iff] at h ⊢
  rw [request, h]

/-! ## §2 The queue -/

/-- The tasks that hold the lock or wait for it, the first to get it first. -/
def queue (l : Lock) : List Nat := l.holder.toList ++ l.waiting

/-- Nobody waits for a lock that nobody holds. -/
def IsServed (l : Lock) : Prop := l.holder = none → l.waiting = []

theorem isServed_free : free.IsServed := fun _ => rfl

theorem isServed_request (l : Lock) (t : Nat) : (l.request t).IsServed := by
  intro hnone
  unfold request at hnone
  split at hnone
  · cases hnone
  · rename_i hholder
    rw [hholder] at hnone
    cases hnone

theorem isServed_release (l : Lock) : l.release.IsServed := by
  intro hnone
  unfold release at hnone ⊢
  split
  · rfl
  · rename_i hwaiting
    rw [hwaiting] at hnone
    cases hnone

theorem queue_request (h : l.IsServed) (t : Nat) : (l.request t).queue = l.queue ++ [t] := by
  unfold queue request
  cases hholder : l.holder with
  | none =>
    rw [h hholder]
    rfl
  | some u => rfl

theorem queue_of_isHeldBy (h : l.isHeldBy t = true) : l.queue = t :: l.release.queue := by
  unfold queue release
  rw [isHeldBy_iff.mp h]
  cases l.waiting <;> rfl

theorem mem_queue_of_isHeldBy (h : l.isHeldBy t = true) : t ∈ l.queue := by
  rw [queue_of_isHeldBy h]
  exact List.mem_cons_self

/-- If a task holds a lock or waits for it, some task holds it. -/
theorem exists_isHeldBy (h : l.IsServed) (ht : t ∈ l.queue) : ∃ u, l.isHeldBy u = true := by
  cases hholder : l.holder with
  | none =>
    rw [queue, hholder, h hholder] at ht
    cases ht
  | some u => exact ⟨u, isHeldBy_iff.mpr hholder⟩

theorem isServed_leave (h : l.IsServed) (t : Nat) : (l.leave t).IsServed := by
  unfold leave
  split
  · exact isServed_release l
  · intro hnone
    simp [h hnone]

theorem holder_of_leave (h : l.isHeldBy t = false) : (l.leave t).holder = l.holder := by
  simp [leave, h]

/-- A task that leaves gives up its place in the queue, wherever that is. -/
theorem queue_leave (l : Lock) (t : Nat) : (l.leave t).queue = l.queue.erase t := by
  cases hheld : l.isHeldBy t with
  | true => simp [leave, hheld, queue_of_isHeldBy hheld]
  | false =>
    have hne : t ∉ l.holder.toList := by
      intro hmem
      rw [Option.mem_toList] at hmem
      simp [isHeldBy_iff.mpr hmem] at hheld
    simp [queue, leave, hheld, List.erase_append_right _ hne]

/-! ## §3 Stakes -/

/-- What a task has to do with a lock: nothing, or it waits for the lock and goes on once it has it,
or it does something for which it keeps the lock. -/
inductive Stake where
  | none
  | wants
  | keeps
deriving DecidableEq, Repr

/-- Exactly the tasks that have a stake in a lock stand in its queue, each of them once, and those
that keep the lock hold it. -/
structure Serves (l : Lock) (stake : Nat → Stake) : Prop where
  served : l.IsServed
  nodup : l.queue.Nodup
  mem_queue : ∀ t, t ∈ l.queue ↔ stake t ≠ .none
  keeps : ∀ t, stake t = .keeps → l.isHeldBy t = true

/-- What a step of a task may do with a lock, by the stake that the task has before and after it. -/
inductive Use (t : Nat) : Lock → Stake → Stake → Lock → Prop where
  | pass (l : Lock) (s : Stake) : Use t l s s l
  | keep (l : Lock) : l.isHeldBy t = true → Use t l .wants .keeps l
  | request (l : Lock) : Use t l .none .wants (l.request t)
  | release (l : Lock) (s : Stake) : s = .keeps ∨ l.isHeldBy t = true → Use t l s .none l.release
  | leave (l : Lock) (s : Stake) : Use t l s .none (l.leave t)

variable {l' : Lock} {stake stake' : Nat → Stake} {s : Stake}

/-- Only a task that has got a lock keeps it. -/
theorem Use.keeps (huse : Use t l .wants .keeps l') : l.isHeldBy t = true := by
  cases huse with
  | keep hheld => exact hheld

theorem serves_free (h : ∀ t, stake t = .none) : free.Serves stake where
  served := isServed_free
  nodup := List.nodup_nil
  mem_queue := fun t => iff_of_false List.not_mem_nil fun hne => hne (h t)
  keeps := by
    intro t ht
    rw [h t] at ht
    cases ht

private theorem Serves.of_erase (h : l.Serves stake) (hserved : l'.IsServed)
    (hqueue : l'.queue = l.queue.erase t) (hholder : ∀ u, u ≠ t → l.isHeldBy u = true →
      l'.isHeldBy u = true) (hnone : stake' t = .none) (hothers : ∀ u, u ≠ t → stake' u = stake u) :
    l'.Serves stake' where
  served := hserved
  nodup := hqueue ▸ h.nodup.erase t
  mem_queue := by
    intro u
    rw [hqueue, h.nodup.mem_erase_iff, h.mem_queue]
    by_cases hu : u = t
    · simp [hu, hnone]
    · simp [hu, hothers u hu]
  keeps := by
    intro u hkeeps
    have hu : u ≠ t := by
      rintro rfl
      rw [hnone] at hkeeps
      cases hkeeps
    rw [hothers u hu] at hkeeps
    exact hholder u hu (h.keeps u hkeeps)

/-- Every use of a lock keeps to it. -/
theorem Serves.use (h : l.Serves stake) (huse : Use t l (stake t) s l') (hhere : stake' t = s)
    (hothers : ∀ u, u ≠ t → stake' u = stake u) : l'.Serves stake' := by
  generalize hs : stake t = s₀ at huse
  cases huse with
  | pass =>
    have hsame : stake' = stake := by
      funext u
      by_cases hu : u = t
      · rw [hu, hhere, hs]
      · exact hothers u hu
    rw [hsame]
    exact h
  | keep hheld =>
    -- the queue is the same, and the task stands at its head
    refine ⟨h.served, h.nodup, fun u => ?_, fun u hkeeps => ?_⟩
    · rw [h.mem_queue]
      by_cases hu : u = t
      · simp [hu, hhere, hs]
      · rw [hothers u hu]
    · by_cases hu : u = t
      · exact hu ▸ hheld
      · rw [hothers u hu] at hkeeps
        exact h.keeps u hkeeps
  | request =>
    have hnot : t ∉ l.queue := fun hmem => (h.mem_queue t).mp hmem hs
    refine ⟨isServed_request l t, ?_, fun u => ?_, fun u hkeeps => ?_⟩
    · rw [queue_request h.served]
      refine List.nodup_append.mpr ⟨h.nodup, List.pairwise_singleton _ t, ?_⟩
      rintro u hu _ hv rfl
      exact hnot (List.mem_singleton.mp hv ▸ hu)
    · rw [queue_request h.served, List.mem_append, h.mem_queue, List.mem_singleton]
      by_cases hu : u = t
      · simp [hu, hhere]
      · simp [hu, hothers u hu]
    · by_cases hu : u = t
      · rw [hu, hhere] at hkeeps
        cases hkeeps
      · rw [hothers u hu] at hkeeps
        exact isHeldBy_request (h.keeps u hkeeps) t
  | release _ hholds =>
    have hheld : l.isHeldBy t = true := hholds.elim (fun hk => h.keeps t (hs.trans hk)) id
    apply h.of_erase (isServed_release l) _ _ hhere hothers
    · simp [queue_of_isHeldBy hheld]
    · intro u hu hheld'
      exact absurd (isHeldBy_unique hheld hheld') hu
  | leave =>
    apply h.of_erase (isServed_leave h.served t) (queue_leave l t) _ hhere hothers
    intro u hu hheld
    -- a task that does not hold the lock leaves it to its holder
    have hnot : l.isHeldBy t = false := by
      cases hheld' : l.isHeldBy t with
      | true => exact absurd (isHeldBy_unique hheld' hheld) hu
      | false => rfl
    rw [isHeldBy_iff, holder_of_leave hnot]
    exact isHeldBy_iff.mp hheld

/-- Tasks that stand in a queue in some order stay there in this order, whatever another task does
with the lock. -/
theorem Serves.sublist_queue {tasks : List Nat} (h : l.Serves stake) (huse : Use t l (stake t) s l')
    (ht : t ∉ tasks) (hqueue : tasks.Sublist l.queue) : tasks.Sublist l'.queue := by
  generalize hs : stake t = s₀ at huse
  have herase : tasks.Sublist (l.queue.erase t) := by
    have hsub := hqueue.erase t
    rwa [List.erase_of_not_mem ht] at hsub
  cases huse with
  | pass | keep => exact hqueue
  | request =>
    rw [queue_request h.served]
    exact hqueue.trans (List.sublist_append_left _ _)
  | release _ hholds =>
    have hheld : l.isHeldBy t = true := hholds.elim (fun hk => h.keeps t (hs.trans hk)) id
    rwa [queue_of_isHeldBy hheld, List.erase_cons_head] at herase
  | leave =>
    rw [queue_leave]
    exact herase

/-- Who waits behind another task does not hold the lock. -/
theorem Serves.not_isHeldBy_of_behind (h : l.Serves stake) (hbehind : [t, u].Sublist l.queue) :
    l.isHeldBy u = false := by
  cases hheld : l.isHeldBy u with
  | false => rfl
  | true =>
    -- the holder stands at the head, and nobody stands in the queue twice
    have hnodup := h.nodup
    rw [queue_of_isHeldBy hheld] at hbehind hnodup
    have hrest : [u].Sublist l.release.queue := by
      cases hbehind with
      | cons _ hsub => exact (List.sublist_cons_self t [u]).trans hsub
      | cons_cons _ hsub => exact hsub
    exact absurd (List.singleton_sublist.mp hrest) (List.nodup_cons.mp hnodup).1

end Courier.Lock
